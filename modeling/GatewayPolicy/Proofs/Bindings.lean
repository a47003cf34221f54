import GatewayPolicy.Json.Basic
import GatewayPolicy.NameMap
/-!
# Bindings, laws

Attributes, the fields of a configuration and maps with names as keys are lists of bindings. What
they bind is compared by lookup; their order matters only where they are written.
-/

namespace GatewayPolicy

variable {α β : Type} {l : List (String × α)} {key k : String} {v : α}

/-! ## Lists -/

theorem lookup_cons_of_eq (h : key = k) (v : α) (l : List (String × α)) :
    ((k, v) :: l).lookup key = some v := by
  rw [h, List.lookup_cons_self]

theorem lookup_cons_of_ne (h : key ≠ k) (v : α) (l : List (String × α)) :
    ((k, v) :: l).lookup key = l.lookup key := by
  have hk : (key == k) = false := beq_eq_false_iff_ne.2 h
  rw [List.lookup_cons, hk]

theorem lookup_eq_none_iff : l.lookup key = none ↔ key ∉ l.map Prod.fst := by
  simp only [List.lookup_eq_none_iff, List.mem_map, not_exists, not_and, bne_iff_ne]
  constructor
  · intro h p hp he
    exact h p hp he.symm
  · intro h p hp he
    exact h p hp he.symm

theorem mem_of_lookup (h : l.lookup key = some v) : (key, v) ∈ l := by
  obtain ⟨l₁, l₂, rfl, -⟩ := List.lookup_eq_some_iff.1 h
  simp

theorem lookup_of_mem (hl : (l.map Prod.fst).Nodup) (h : (key, v) ∈ l) :
    l.lookup key = some v := by
  induction l with
  | nil => simp at h
  | cons p l ih =>
    obtain ⟨hp, hl⟩ := List.nodup_cons.1 hl
    rcases List.mem_cons.1 h with rfl | h
    · exact lookup_cons_of_eq rfl v l
    · have hne : key ≠ p.1 := fun he => hp (he ▸ List.mem_map_of_mem h)
      rw [lookup_cons_of_ne hne, ih hl h]

/-- Changing the values does not change which of them is found. -/
theorem lookup_map (f : String → α → β) (l : List (String × α)) (key : String) :
    (l.map fun p => (p.1, f p.1 p.2)).lookup key = (l.lookup key).map (f key) := by
  induction l with
  | nil => rfl
  | cons p l ih =>
    by_cases h : key = p.1
    · rw [List.map_cons, lookup_cons_of_eq h, lookup_cons_of_eq h, h]
      rfl
    · rw [List.map_cons, lookup_cons_of_ne h, lookup_cons_of_ne h, ih]

/-- Dropping bindings by their keys. -/
theorem lookup_filter (p : String → Bool) (l : List (String × α)) (key : String) :
    (l.filter fun b => p b.1).lookup key = if p key then l.lookup key else none := by
  induction l with
  | nil => simp
  | cons b l ih =>
    by_cases hp : p b.1 = true
    · rw [List.filter_cons_of_pos (by exact hp)]
      by_cases h : key = b.1
      · rw [lookup_cons_of_eq h, lookup_cons_of_eq h, h, if_pos hp]
      · rw [lookup_cons_of_ne h, lookup_cons_of_ne h, ih]
    · rw [List.filter_cons_of_neg (by exact hp), ih]
      by_cases h : key = b.1
      · rw [h, if_neg hp, if_neg hp]
      · rw [lookup_cons_of_ne h]

/-- Changing or dropping bindings by their values, among distinct keys. -/
theorem lookup_filterMap (hl : (l.map Prod.fst).Nodup) (f : String → α → Option β) (key : String) :
    (l.filterMap fun b => (f b.1 b.2).map (b.1, ·)).lookup key =
      (l.lookup key).bind (f key) := by
  induction l with
  | nil => rfl
  | cons b l ih =>
    obtain ⟨hb, hl⟩ := List.nodup_cons.1 hl
    by_cases h : key = b.1
    · subst h
      rw [lookup_cons_of_eq rfl, Option.bind_some]
      cases hf : f b.1 b.2 with
      | none =>
        rw [List.filterMap_cons_none (by simp [hf]), ih hl, lookup_eq_none_iff.2 hb]
        rfl
      | some v => rw [List.filterMap_cons_some (b := (b.1, v)) (by simp [hf]), lookup_cons_of_eq rfl]
    · rw [lookup_cons_of_ne h]
      cases hf : f b.1 b.2 with
      | none => rw [List.filterMap_cons_none (by simp [hf]), ih hl]
      | some v =>
        rw [List.filterMap_cons_some (b := (b.1, v)) (by simp [hf]), lookup_cons_of_ne h, ih hl]

theorem nodup_of_nodup_keys (h : (l.map Prod.fst).Nodup) : l.Nodup :=
  List.Pairwise.of_map Prod.fst (fun _ _ hne heq => hne (congrArg Prod.fst heq)) h

/-- A list of distinct names holds what it binds. -/
theorem mem_iff_lookup (h : (l.map Prod.fst).Nodup) (b : String × α) :
    b ∈ l ↔ l.lookup b.1 = some b.2 :=
  ⟨fun hb => lookup_of_mem h hb, fun hb => mem_of_lookup hb⟩

/-- Lists of distinct names that bind the same have the same bindings. -/
theorem perm_of_lookup_eq {l' : List (String × α)} (h : (l.map Prod.fst).Nodup)
    (h' : (l'.map Prod.fst).Nodup) (heq : ∀ key, l.lookup key = l'.lookup key) : l.Perm l' := by
  refine (List.perm_ext_iff_of_nodup (nodup_of_nodup_keys h) (nodup_of_nodup_keys h')).2 fun b => ?_
  rw [mem_iff_lookup h, mem_iff_lookup h', heq]

/-- The keys that are left after dropping and changing bindings. -/
theorem keys_filterMap_sublist (f : String → α → Option β) (l : List (String × α)) :
    ((l.filterMap fun b => (f b.1 b.2).map (b.1, ·)).map Prod.fst).Sublist (l.map Prod.fst) := by
  induction l with
  | nil => simp
  | cons b l ih =>
    cases hf : f b.1 b.2 with
    | none =>
      rw [List.filterMap_cons_none (by simp [hf])]
      exact ih.cons _
    | some v =>
      rw [List.filterMap_cons_some (b := (b.1, v)) (by simp [hf])]
      exact ih.cons_cons _

theorem keys_filter_sublist (p : String × α → Bool) (l : List (String × α)) :
    ((l.filter p).map Prod.fst).Sublist (l.map Prod.fst) :=
  List.filter_sublist.map Prod.fst

/-! ## Fields -/

namespace Json.Fields

variable {fs : Fields}

theorem get?_set (fs : Fields) (k : String) (v : Json) (key : String) :
    (fs.set k v).get? key = if key = k then some v else fs.get? key := by
  unfold get?
  induction fs with
  | nil =>
    by_cases h : key = k
    · rw [if_pos h, set, lookup_cons_of_eq h]
    · rw [if_neg h, set, lookup_cons_of_ne h]
  | cons f fs ih =>
    obtain ⟨k', v'⟩ := f
    rw [set]
    by_cases hk : k' = k
    · rw [if_pos hk]
      by_cases h : key = k
      · rw [if_pos h, lookup_cons_of_eq h]
      · rw [if_neg h, lookup_cons_of_ne h, lookup_cons_of_ne (by rwa [hk])]
    · rw [if_neg hk]
      by_cases h : key = k'
      · rw [lookup_cons_of_eq h, lookup_cons_of_eq h, if_neg (by rwa [h])]
      · rw [lookup_cons_of_ne h, lookup_cons_of_ne h, ih]

theorem get?_erase (fs : Fields) (k key : String) :
    (fs.erase k).get? key = if key = k then none else fs.get? key := by
  have hfilter := lookup_filter (fun key => key != k) fs key
  rw [get?, erase, hfilter]
  by_cases h : key = k
  · simp [h]
  · simp [h, get?]

/-- What holds of all values still holds when one is set for which it holds. -/
theorem forall_mem_set {P : Json → Prop} {v : Json} (h : ∀ f ∈ fs, P f.2) (hv : P v) (k : String) :
    ∀ f ∈ fs.set k v, P f.2 := by
  induction fs with
  | nil => exact List.forall_mem_singleton.2 hv
  | cons f fs ih =>
    obtain ⟨hf, hrest⟩ := List.forall_mem_cons.1 h
    rw [set]
    split
    · exact List.forall_mem_cons.2 ⟨hv, hrest⟩
    · exact List.forall_mem_cons.2 ⟨hf, ih hrest⟩

theorem contains_iff : fs.contains key = true ↔ key ∈ fs.map Prod.fst := by
  simp [contains]

theorem get?_eq_none_iff : fs.get? key = none ↔ fs.contains key = false := by
  rw [get?, lookup_eq_none_iff, ← contains_iff, Bool.not_eq_true]

/-- A new key is put at the end. -/
theorem set_of_notMem (h : k ∉ fs.map Prod.fst) (v : Json) : fs.set k v = fs ++ [(k, v)] := by
  induction fs with
  | nil => rfl
  | cons f fs ih =>
    have hf : f.1 ≠ k := fun hf => h (by simp [hf])
    have hfs : k ∉ fs.map Prod.fst := fun hm => h (List.mem_cons_of_mem _ hm)
    rw [set, if_neg hf, ih hfs]
    rfl

theorem keys_set_of_mem (h : k ∈ fs.map Prod.fst) (v : Json) :
    (fs.set k v).map Prod.fst = fs.map Prod.fst := by
  induction fs with
  | nil => simp at h
  | cons f fs ih =>
    rw [set]
    by_cases hf : f.1 = k
    · rw [if_pos hf, List.map_cons, List.map_cons, ← hf]
    · have hfs : k ∈ fs.map Prod.fst := by
        rw [List.map_cons, List.mem_cons] at h
        exact h.resolve_left fun he => hf he.symm
      rw [if_neg hf, List.map_cons, List.map_cons, ih hfs]

theorem nodup_keys_set (h : (fs.map Prod.fst).Nodup) (k : String) (v : Json) :
    ((fs.set k v).map Prod.fst).Nodup := by
  by_cases hk : k ∈ fs.map Prod.fst
  · rwa [keys_set_of_mem hk]
  · rw [set_of_notMem hk, List.map_append]
    refine List.nodup_append.2 ⟨h, by simp, ?_⟩
    intro a ha b hb he
    rw [List.map_singleton, List.mem_singleton] at hb
    rw [he, hb] at ha
    exact hk ha

theorem foldl_set_of_nodup (acc : Fields) (h : ((acc ++ fs).map Prod.fst).Nodup) :
    fs.foldl (fun acc (k, v) => set acc k v) acc = acc ++ fs := by
  induction fs generalizing acc with
  | nil => simp
  | cons f fs ih =>
    have hf : f.1 ∉ acc.map Prod.fst := by
      rw [List.map_append, List.map_cons] at h
      intro hm
      exact (List.nodup_append.1 h).2.2 _ hm _ List.mem_cons_self rfl
    obtain ⟨k, v⟩ := f
    rw [List.foldl_cons]
    dsimp only
    rw [set_of_notMem hf, ih _ (by simpa using h)]
    simp

/-- Setting fields with distinct keys binds what they bind, and everything else as before. -/
theorem get?_foldl_set (hfs : (fs.map Prod.fst).Nodup) (acc : Fields) (key : String) :
    (fs.foldl (fun acc (k, v) => set acc k v) acc).get? key =
      (fs.get? key).or (acc.get? key) := by
  induction fs generalizing acc with
  | nil => rfl
  | cons f fs ih =>
    obtain ⟨k, v⟩ := f
    obtain ⟨hk, hfs⟩ := List.nodup_cons.1 hfs
    rw [List.foldl_cons, ih hfs, get?_set]
    unfold get?
    by_cases h : key = k
    · rw [if_pos h, lookup_cons_of_eq h, h, lookup_eq_none_iff.2 hk]
      rfl
    · rw [if_neg h, lookup_cons_of_ne h]

theorem nodup_keys_foldl_set {acc : Fields} (h : (acc.map Prod.fst).Nodup) (fs : Fields) :
    ((fs.foldl (fun acc (k, v) => set acc k v) acc).map Prod.fst).Nodup := by
  induction fs generalizing acc with
  | nil => exact h
  | cons f fs ih =>
    obtain ⟨k, v⟩ := f
    exact ih (nodup_keys_set h k v)

theorem merge_of_nodup (h : (fs.map Prod.fst).Nodup) : merge fs = fs := by
  rw [merge, foldl_set_of_nodup [] (by simpa using h), List.nil_append]

/-- Configurations that bind the same are equal up to order. -/
theorem perm_of_get?_eq {fs' : Fields} (h : (fs.map Prod.fst).Nodup)
    (h' : (fs'.map Prod.fst).Nodup) (heq : ∀ key, fs.get? key = fs'.get? key) : fs.Perm fs' :=
  perm_of_lookup_eq h h' heq

end Json.Fields

/-! ## Maps -/

namespace NameMap

variable {m : NameMap α}

theorem nodup_keys (m : NameMap α) : (m.entries.map Prod.fst).Nodup := by
  refine (List.pairwise_map.2 ?_)
  exact m.ascending.imp fun h => String.ne_of_lt h

theorem lookup_insertEntry (k : String) (v : α) (l : List (String × α)) (key : String) :
    (insertEntry k v l).lookup key = if key = k then some v else l.lookup key := by
  induction l with
  | nil =>
    by_cases h : key = k
    · rw [if_pos h, insertEntry, lookup_cons_of_eq h]
    · rw [if_neg h, insertEntry, lookup_cons_of_ne h]
  | cons b l ih =>
    rw [insertEntry]
    by_cases hlt : k < b.1
    · rw [if_pos hlt]
      by_cases h : key = k
      · rw [if_pos h, lookup_cons_of_eq h]
      · rw [if_neg h, lookup_cons_of_ne h]
    · rw [if_neg hlt]
      by_cases heq : k = b.1
      · rw [if_pos heq]
        by_cases h : key = k
        · rw [if_pos h, lookup_cons_of_eq h]
        · rw [if_neg h, lookup_cons_of_ne h, lookup_cons_of_ne (by rwa [← heq])]
      · rw [if_neg heq]
        by_cases h : key = b.1
        · rw [lookup_cons_of_eq h, lookup_cons_of_eq h, if_neg (by rw [h]; exact Ne.symm heq)]
        · rw [lookup_cons_of_ne h, lookup_cons_of_ne h, ih]

theorem get?_insert (m : NameMap α) (k : String) (v : α) (key : String) :
    (m.insert k v).get? key = if key = k then some v else m.get? key :=
  lookup_insertEntry k v m.entries key

@[simp] theorem get?_empty (key : String) : (empty : NameMap α).get? key = none := rfl

theorem contains_iff : m.contains key = true ↔ (m.get? key).isSome = true := by
  rw [contains, get?, List.lookup_isSome_iff, List.any_eq_true]
  simp only [beq_iff_eq, eq_comm (a := key)]

/-- Of repeated names the last one counts, so a map binds what the reversed list does. -/
theorem get?_foldl_insert (l : List (String × α)) (m : NameMap α) (key : String) :
    (l.foldl (fun m b => m.insert b.1 b.2) m).get? key =
      (l.reverse.lookup key).or (m.get? key) := by
  induction l generalizing m with
  | nil => simp
  | cons b l ih =>
    rw [List.foldl_cons, ih, get?_insert, List.reverse_cons, List.lookup_append]
    by_cases h : key = b.1
    · rw [if_pos h, h, lookup_cons_of_eq rfl]
      cases l.reverse.lookup b.1 <;> rfl
    · rw [if_neg h, lookup_cons_of_ne h]
      cases l.reverse.lookup key <;> rfl

theorem get?_ofList (hl : (l.map Prod.fst).Nodup) (key : String) :
    (ofList l).get? key = l.lookup key := by
  have hrev : (l.reverse.map Prod.fst).Nodup := by
    rw [List.map_reverse]
    exact (List.reverse_perm _).nodup_iff.2 hl
  rw [ofList, get?_foldl_insert, get?_empty, Option.or_none]
  cases h : l.lookup key with
  | none =>
    rw [lookup_eq_none_iff] at h ⊢
    rwa [List.map_reverse, List.mem_reverse]
  | some v => exact lookup_of_mem hrev (List.mem_reverse.2 (mem_of_lookup h))

theorem mem_of_mem_ofList {b : String × α} (h : b ∈ (ofList l).entries) : b ∈ l := by
  have hget : (ofList l).get? b.1 = some b.2 := lookup_of_mem (nodup_keys _) h
  rw [ofList, get?_foldl_insert, get?_empty, Option.or_none] at hget
  exact List.mem_reverse.1 (mem_of_lookup hget)

theorem isEmpty_iff : m.isEmpty = true ↔ ∀ key, m.get? key = none := by
  rw [isEmpty, List.isEmpty_iff]
  constructor
  · intro h key
    rw [get?, h, List.lookup_nil]
  · intro h
    cases hm : m.entries with
    | nil => rfl
    | cons b l =>
      have := h b.1
      rw [get?, hm, lookup_cons_of_eq rfl] at this
      simp at this

theorem ext_get? {m' : NameMap α} (h : ∀ key, m.get? key = m'.get? key) : m = m' := by
  have hperm := perm_of_lookup_eq m.nodup_keys m'.nodup_keys h
  have hentries : m.entries = m'.entries := by
    refine hperm.eq_of_pairwise (fun a b _ _ hab hba => ?_) m.ascending m'.ascending
    exact absurd (String.lt_trans hab hba) (String.lt_irrefl _)
  cases m
  cases m'
  simpa using hentries

theorem eq_empty_of_isEmpty (h : m.isEmpty = true) : m = empty := ext_get? (isEmpty_iff.1 h)

/-- A map is what its entries bind. -/
theorem ofList_entries (m : NameMap α) : ofList m.entries = m :=
  ext_get? fun key => get?_ofList m.nodup_keys key

end NameMap

theorem NameMap.mem_keys_iff {m : NameMap α} : key ∈ m.keys ↔ m.get? key ≠ none := by
  rw [keys, get?, ne_eq, lookup_eq_none_iff, Decidable.not_not]

theorem NameMap.mem_keys_insert {m : NameMap α} {k : String} {v : α} :
    key ∈ (m.insert k v).keys ↔ key = k ∨ key ∈ m.keys := by
  rw [mem_keys_iff, mem_keys_iff, get?_insert]
  by_cases h : key = k
  · simp [h]
  · simp [h]

theorem NameMap.contains_iff_mem_keys {m : NameMap α} : m.contains key = true ↔ key ∈ m.keys := by
  rw [contains_iff, mem_keys_iff, Option.isSome_iff_ne_none]

theorem NameSet.mem_keys_foldl_add {names : List String} {s : NameSet} {name : String} :
    name ∈ (names.foldl add s).keys ↔ name ∈ names ∨ name ∈ s.keys := by
  induction names generalizing s with
  | nil => simp
  | cons n names ih =>
    rw [List.foldl_cons, ih, add, NameMap.mem_keys_insert, List.mem_cons, or_left_comm, or_assoc]

theorem NameSet.mem_keys_ofNames {names : List String} {name : String} :
    name ∈ (ofNames names).keys ↔ name ∈ names := by
  rw [ofNames, mem_keys_foldl_add]
  exact or_iff_left List.not_mem_nil

/-- A set is told by its names. -/
theorem NameSet.ext_keys {s t : NameSet} (h : ∀ name, name ∈ s.keys ↔ name ∈ t.keys) : s = t := by
  refine NameMap.ext_get? fun name => ?_
  have hname := h name
  rw [NameMap.mem_keys_iff, NameMap.mem_keys_iff, Decidable.not_iff_not] at hname
  cases hs : s.get? name with
  | none => exact (hname.1 hs).symm
  | some u =>
    cases ht : t.get? name with
    | none =>
      rw [hname.2 ht] at hs
      simp at hs
    | some v => rfl

theorem NameSet.ofNames_keys (s : NameSet) : NameSet.ofNames s.keys = s := by
  rw [NameSet.ofNames, NameMap.keys, List.foldl_map]
  exact NameMap.ofList_entries s

end GatewayPolicy
