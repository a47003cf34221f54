import GatewayPolicy.Catalog.Index
import Mathlib.Data.List.Induction
import Mathlib.Data.List.Nodup
/-!
# The indexes of a catalog

A catalog answers from its indexes what a walk over the list it was made of would find. The step that
carries this is adding one entry: the indexes hold the positions that a search of the entries gives,
before and after. The entries themselves are those that no entry of the same identifier stands in
front of, and the categories cut them into parts.
-/

namespace GatewayPolicy

/-! ## Positions and parts of a list -/

section Lists

variable {α κ : Type} {l : List α}

/-- What stands at the positions that a search gives is what a filter leaves. -/
theorem filterMap_getElem?_findIdxs (p : α → Bool) (l : List α) :
    (l.findIdxs p).filterMap (l[·]?) = l.filter p := by
  induction l using List.reverseRecOn with
  | nil => rfl
  | append_singleton l a ih =>
    have hold : (l.findIdxs p).filterMap ((l ++ [a])[·]?) = l.filter p := by
      rw [← ih]
      refine List.filterMap_congr fun n hn => ?_
      have hlt : n < l.length := List.lt_add_of_mem_findIdxs n hn
      exact List.getElem?_append_left hlt
    rw [List.findIdxs_append, List.filterMap_append, hold, List.filter_append,
      List.findIdxs_singleton, List.filter_singleton]
    cases p a <;> simp

/-- The parts cut the list up. -/
structure IsPartition (parts : List (List α)) (l : List α) : Prop where
  /-- No two parts share a member. -/
  disjoint : parts.Pairwise List.Disjoint
  nonempty : [] ∉ parts
  /-- Put together, the parts are the list in some order. -/
  perm : parts.flatten.Perm l

variable [DecidableEq κ] {f : α → κ} {keys : List κ}

theorem perm_flatten_filter (hkeys : keys.Nodup) (hmem : ∀ a ∈ l, f a ∈ keys) :
    (keys.map fun k => l.filter (f · == k)).flatten.Perm l := by
  induction keys generalizing l with
  | nil =>
    obtain rfl : l = [] := List.eq_nil_iff_forall_not_mem.2 fun a ha => by simpa using hmem a ha
    exact .refl _
  | cons k keys ih =>
    obtain ⟨hk, hkeys⟩ := List.nodup_cons.1 hkeys
    -- The members with the other keys are looked for among those without the first one.
    have hrest : ∀ k' ∈ keys, l.filter (f · == k') =
        (l.filter fun a => !f a == k).filter (f · == k') := by
      intro k' hk'
      rw [List.filter_filter]
      refine List.filter_congr fun a _ => ?_
      by_cases ha : f a = k'
      · have hne : k' ≠ k := fun h => hk (h ▸ hk')
        simp [ha, hne]
      · simp [ha]
    have hcover : ∀ a ∈ l.filter fun a => !f a == k, f a ∈ keys := by
      intro a ha
      obtain ⟨hal, hne⟩ := List.mem_filter.1 ha
      exact (List.mem_cons.1 (hmem a hal)).resolve_left (by simpa using hne)
    rw [List.map_cons, List.flatten_cons, List.map_congr_left hrest]
    exact ((ih hkeys hcover).append_left _).trans (List.filter_append_perm _ _)

/-- The members of a list are parted by a key. -/
theorem isPartition_filter (hkeys : keys.Nodup) (hmem : ∀ k, k ∈ keys ↔ ∃ a ∈ l, f a = k) :
    IsPartition (keys.map fun k => l.filter (f · == k)) l where
  disjoint := by
    rw [List.pairwise_map]
    refine hkeys.imp fun {k k'} hne a ha ha' => hne ?_
    have hk : f a = k := by simpa using (List.mem_filter.1 ha).2
    have hk' : f a = k' := by simpa using (List.mem_filter.1 ha').2
    exact hk.symm.trans hk'
  nonempty := by
    intro h
    obtain ⟨k, hk, hnil⟩ := List.mem_map.1 h
    obtain ⟨a, ha, hfa⟩ := (hmem k).1 hk
    exact List.filter_eq_nil_iff.1 hnil a ha (by simpa using hfa)
  perm := perm_flatten_filter hkeys fun a ha => (hmem (f a)).2 ⟨a, ha, rfl⟩

end Lists

/-! ## First entries -/

/-- The entries that no entry of the same identifier stands in front of, in the order of the list. -/
def firstEntries (es : List Entry) : List Entry :=
  (es.zipIdx.filter fun p => (es.take p.2).all (·.id != p.1.id)).map (·.1)

theorem firstEntries_append_singleton (es : List Entry) (e : Entry) :
    firstEntries (es ++ [e]) =
      firstEntries es ++ if es.any (·.id == e.id) then [] else [e] := by
  have hold : (es.zipIdx.filter fun p => ((es ++ [e]).take p.2).all (·.id != p.1.id)) =
      es.zipIdx.filter fun p => (es.take p.2).all (·.id != p.1.id) := by
    refine List.filter_congr fun p hp => ?_
    have hlt : p.2 < es.length := by simpa using (List.mem_zipIdx hp).2.1
    rw [List.take_append_of_le_length (Nat.le_of_lt hlt)]
  have hlast : ((es ++ [e]).take (0 + es.length)).all (·.id != e.id) =
      !es.any (·.id == e.id) := by
    rw [Nat.zero_add, List.take_left, List.not_any_eq_all_not]
    rfl
  rw [firstEntries, List.zipIdx_append, List.filter_append, List.map_append, hold,
    List.zipIdx_singleton, List.filter_singleton, hlast]
  cases es.any (·.id == e.id) <;> rfl

/-- Leaving out the later entries of an identifier does not change what is found first. -/
theorem find?_firstEntries (es : List Entry) (id : String) :
    (firstEntries es).find? (·.id == id) = es.find? (·.id == id) := by
  induction es using List.reverseRecOn with
  | nil => rfl
  | append_singleton es e ih =>
    rw [firstEntries_append_singleton, List.find?_append, List.find?_append, ih]
    by_cases h : es.any (·.id == e.id) = true
    · rw [if_pos h, List.find?_nil, Option.or_none]
      by_cases hid : e.id = id
      · subst hid
        obtain ⟨e', he'⟩ := Option.isSome_iff_exists.1 (List.isSome_find?.trans h)
        rw [he', Option.some_or]
      · rw [List.find?_singleton, if_neg (by simpa using hid), Option.or_none]
    · rw [if_neg h]

theorem any_firstEntries (es : List Entry) (id : String) :
    (firstEntries es).any (·.id == id) = es.any (·.id == id) := by
  rw [← List.isSome_find?, find?_firstEntries, List.isSome_find?]

namespace Catalog

variable {c : Catalog} {id : String} {k : Category}

/-! ## Indexes -/

/-- The indexes of the catalog hold what a search of its entries finds. -/
structure IsIndexed (c : Catalog) : Prop where
  /-- An identifier has the position of its first entry. -/
  byId_eq : ∀ id, c.byId[id]? = c.entries.findIdx? (·.id == id)
  /-- A category has the positions of its entries. -/
  byCategory_eq : ∀ k, c.byCategory.getD k [] = c.entries.toList.findIdxs (·.category == k)
  /-- A category is listed if it has entries. -/
  contains_iff : ∀ k, c.byCategory.contains k = true ↔ ∃ e ∈ c.entries.toList, e.category = k

namespace IsIndexed

theorem contains_id (h : IsIndexed c) (id : String) :
    c.byId.contains id = c.entries.toList.any (·.id == id) := by
  rw [Std.HashMap.contains_eq_isSome_getElem?, h.byId_eq, Array.findIdx?_isSome, Array.any_toList]

theorem get?_eq (h : IsIndexed c) (id : String) :
    c.get? id = c.entries.toList.find? (·.id == id) := by
  rw [get?, h.byId_eq, ← Array.find?_eq_bind_findIdx?_getElem?, Array.find?_toList]

theorem position_lt (h : IsIndexed c) {n : Nat} (hn : c.byId[id]? = some n) :
    n < c.entries.size := by
  rw [h.byId_eq] at hn
  obtain ⟨hlt, -⟩ := Array.findIdx?_eq_some_iff_getElem.1 hn
  exact hlt

theorem ofCategory_eq (h : IsIndexed c) (k : Category) :
    c.ofCategory k = c.entries.toList.filter (·.category == k) := by
  rw [ofCategory, h.byCategory_eq, ← filterMap_getElem?_findIdxs]
  simp only [Array.getElem?_toList]

theorem position_lt_of_mem (h : IsIndexed c) {n : Nat} (hn : n ∈ c.byCategory.getD k []) :
    n < c.entries.size := by
  rw [h.byCategory_eq] at hn
  exact List.lt_add_of_mem_findIdxs n hn

theorem mem_categories_iff (h : IsIndexed c) :
    k ∈ c.categories ↔ ∃ e ∈ c.entries.toList, e.category = k := by
  have hall : k ∈ Category.all := by cases k <;> decide
  rw [categories, List.mem_filter, h.contains_iff, and_iff_right hall]

end IsIndexed

theorem isIndexed_empty : IsIndexed empty where
  byId_eq id := by simp [empty]
  byCategory_eq k := by simp [empty]
  contains_iff k := by simp [empty]

/-- Adding an entry keeps the indexes right: it has the position behind the last one. -/
theorem IsIndexed.add (h : IsIndexed c) (e : Entry) : IsIndexed (c.add e) := by
  unfold Catalog.add
  by_cases hid : c.byId.contains e.id = true
  · rw [if_pos hid]
    exact h
  · rw [if_neg hid]
    refine { byId_eq := fun id => ?byId, byCategory_eq := fun k => ?byCategory,
             contains_iff := fun k => ?contains }
    case byId =>
      have hnone : c.byId[e.id]? = none := by
        rw [Std.HashMap.contains_eq_isSome_getElem?] at hid
        simpa using hid
      simp only [Std.HashMap.getElem?_insert, Array.findIdx?_push, ← h.byId_eq]
      by_cases he : e.id = id
      · subst he
        simp [hnone]
      · simp [he]
    case byCategory =>
      simp only [Std.HashMap.getD_insert, Array.toList_push, List.findIdxs_append,
        List.findIdxs_singleton, h.byCategory_eq]
      by_cases he : e.category = k
      · subst he
        simp
      · simp [he]
    case contains =>
      simp only [Std.HashMap.contains_insert, Bool.or_eq_true, beq_iff_eq, h.contains_iff,
        Array.toList_push, List.mem_append, List.mem_singleton, or_and_right, exists_or,
        exists_eq_left]
      exact or_comm

theorem IsIndexed.toList_entries_add (h : IsIndexed c) (e : Entry) :
    (c.add e).entries.toList =
      c.entries.toList ++ if c.entries.toList.any (·.id == e.id) then [] else [e] := by
  rw [Catalog.add, ← h.contains_id]
  by_cases hid : c.byId.contains e.id = true
  · rw [if_pos hid, if_pos hid, List.append_nil]
  · rw [if_neg hid, if_neg hid, Array.toList_push]

/-! ## Catalogs of lists -/

theorem ofEntries_append_singleton (es : List Entry) (e : Entry) :
    ofEntries (es ++ [e]) = (ofEntries es).add e := by
  rw [ofEntries, List.foldl_append]
  rfl

theorem isIndexed_ofEntries (es : List Entry) : IsIndexed (ofEntries es) := by
  induction es using List.reverseRecOn with
  | nil => exact isIndexed_empty
  | append_singleton es e ih =>
    rw [ofEntries_append_singleton]
    exact ih.add e

theorem toList_entries_ofEntries (es : List Entry) :
    (ofEntries es).entries.toList = firstEntries es := by
  induction es using List.reverseRecOn with
  | nil => rfl
  | append_singleton es e ih =>
    rw [ofEntries_append_singleton, (isIndexed_ofEntries es).toList_entries_add, ih,
      any_firstEntries, firstEntries_append_singleton]

/-- The catalog of a list of entries finds the first entry with an identifier. -/
theorem get?_ofEntries (es : List Entry) (id : String) :
    (ofEntries es).get? id = es.find? (·.id == id) := by
  rw [(isIndexed_ofEntries es).get?_eq, toList_entries_ofEntries, find?_firstEntries]

theorem pairwise_categories (c : Catalog) :
    c.categories.Pairwise (·.ctorIdx < ·.ctorIdx) := by
  have hall : Category.all.Pairwise (·.ctorIdx < ·.ctorIdx) := by decide
  exact hall.sublist List.filter_sublist

/-- A catalog answers as a walk over the list of its entries does. It keeps the first entry of each
identifier, and finds the first entry with an identifier and the kept entries of a category at
positions that are there. The categories are those of the kept entries, in the order of their
declaration, and part the kept entries among them. -/
theorem ofEntries_agrees (es : List Entry) :
    (ofEntries es).entries.toList = firstEntries es ∧
    (∀ id, (ofEntries es).get? id = es.find? (·.id == id) ∧
      ∀ n, (ofEntries es).byId[id]? = some n → n < (ofEntries es).entries.size) ∧
    (∀ k, (ofEntries es).ofCategory k = (firstEntries es).filter (·.category == k) ∧
      ∀ n ∈ (ofEntries es).byCategory.getD k [], n < (ofEntries es).entries.size) ∧
    IsPartition ((ofEntries es).categories.map (ofEntries es).ofCategory) (firstEntries es) ∧
    (∀ k, k ∈ (ofEntries es).categories ↔ ∃ e ∈ firstEntries es, e.category = k) ∧
    (ofEntries es).categories.Pairwise (·.ctorIdx < ·.ctorIdx) := by
  have h := isIndexed_ofEntries es
  have hentries := toList_entries_ofEntries es
  have hcategory (k : Category) :
      (ofEntries es).ofCategory k = (firstEntries es).filter (·.category == k) := by
    rw [h.ofCategory_eq, hentries]
  have hmem (k : Category) :
      k ∈ (ofEntries es).categories ↔ ∃ e ∈ firstEntries es, e.category = k := by
    rw [h.mem_categories_iff, hentries]
  have hordered := pairwise_categories (ofEntries es)
  refine ⟨hentries, fun id => ⟨get?_ofEntries es id, fun n => h.position_lt⟩,
    fun k => ⟨hcategory k, fun n => h.position_lt_of_mem⟩, ?_, hmem, hordered⟩
  have hnodup : (ofEntries es).categories.Nodup := hordered.imp fun hlt heq => by simp [heq] at hlt
  rw [List.map_congr_left fun k _ => hcategory k]
  exact isPartition_filter hnodup hmem

end Catalog

end GatewayPolicy
