import GatewayPolicy.Proofs.Bindings
import GatewayPolicy.Proofs.Json.Reader
import GatewayPolicy.Record
/-!
# Records, laws

A record is written as the fields that it has, in the order in which they are declared. `written`
is this list, from which every field is read back as it was: one that is there with its value, one
that was left out as missing.
-/

namespace GatewayPolicy

open Json Source

/-! ## Written records -/

/-- The fields of a record that are there, in order. -/
def written (l : List (String × Option Json)) : Fields := l.flatMap fun f => field? f.1 f.2

section Written

variable {l : List (String × Option Json)} {k name : String} {o : Option Json}

theorem written_nil : written [] = [] := rfl

theorem written_cons : written ((k, o) :: l) = field? k o ++ written l := rfl

theorem field?_some (v : Json) : field? k (some v) = [(k, v)] := rfl

theorem lookup_field? : (field? k o).lookup name = if name = k then o else none := by
  cases o with
  | none => simp [field?]
  | some v =>
    by_cases h : name = k
    · rw [if_pos h, field?_some, lookup_cons_of_eq h]
    · rw [if_neg h, field?_some, lookup_cons_of_ne h, List.lookup_nil]

@[simp]
theorem lookup_written_nil : (written []).lookup name = none := rfl

/-- The first field with the name is found, if it is there. -/
@[simp]
theorem lookup_written_cons : (written ((k, o) :: l)).lookup name =
    (if name = k then o else none).or ((written l).lookup name) := by
  rw [written_cons, List.lookup_append, lookup_field?]

theorem keys_field?_sublist : ((field? k o).map Prod.fst).Sublist [k] := by
  cases o with
  | none => exact List.nil_sublist _
  | some v => exact List.Sublist.refl _

theorem keys_written_sublist : ((written l).map Prod.fst).Sublist (l.map Prod.fst) := by
  induction l with
  | nil => exact List.Sublist.refl _
  | cons f l ih =>
    rw [written_cons, List.map_append]
    exact keys_field?_sublist.append ih

/-- The declared fields of a written record are all of them. -/
theorem declaredFields?_written {names : List String} (hkeys : l.map Prod.fst = names)
    (hnames : names.Nodup) : declaredFields? false names (written l) = some (written l) := by
  subst hkeys
  have hall : (written l).filter (fun f => (l.map Prod.fst).contains f.1) = written l := by
    refine List.filter_eq_self.2 fun f hf => ?_
    simpa using keys_written_sublist.subset (List.mem_map_of_mem hf)
  rw [declaredFields?, hall, if_neg (by simp), if_pos (keys_written_sublist.nodup hnames)]

theorem isExactFields_append (fs gs : Fields) :
    isExactFields (fs ++ gs) = (isExactFields fs && isExactFields gs) := by
  induction fs with
  | nil => rfl
  | cons f fs ih => rw [List.cons_append, isExactFields, isExactFields, ih, Bool.and_assoc]

theorem isExactFields_field? : isExactFields (field? k o) = o.all isExact := by
  cases o with
  | none => rfl
  | some v => simp [field?, isExactFields]

/-- A record is exact if the fields that it has are. -/
theorem isExact_written (h : ∀ f ∈ l, ∀ v, f.2 = some v → v.isExact = true) :
    (Json.object (written l)).isExact = true := by
  rw [isExact]
  induction l with
  | nil => rfl
  | cons f l ih =>
    obtain ⟨hf, hl⟩ := List.forall_mem_cons.1 h
    rw [written_cons, isExactFields_append, isExactFields_field?, ih hl, Bool.and_true]
    exact (Option.all_eq_true _ _).2 hf

theorem isExact_of_map {α : Type} {o : Option α} {f : α → Json}
    (h : ∀ a, o = some a → (f a).isExact = true) {v : Json} (hv : o.map f = some v) :
    v.isExact = true := by
  obtain ⟨a, ha, rfl⟩ := Option.map_eq_some_iff.1 hv
  exact h a ha

theorem isExactItems_map {α : Type} (f : α → Json) (as : List α) :
    isExactItems (as.map f) = as.all fun a => (f a).isExact := by
  induction as with
  | nil => rfl
  | cons a as ih => rw [List.map_cons, isExactItems, ih, List.all_cons]

end Written

/-! ## Reading written fields -/

section Reading

variable {α β : Type} {fs : Fields} {name : String} {read : Json → Option α}

theorem fields?_bind {l : List (String × Option Json)} {names : List String}
    (k : Fields → Option β) (hkeys : l.map Prod.fst = names) (hnames : names.Nodup) :
    (Source.fields? false names (Json.object (written l))).bind k = k (written l) := by
  change (declaredFields? false names (written l)).bind k = _
  rw [declaredFields?_written hkeys hnames, Option.bind_some]

theorem required_bind (v : Json) {a : α} (k : α → Option β) (h : fs.lookup name = some v)
    (hread : read v = some a) : (required fs name read).bind k = k a := by
  rw [required, h, Option.bind_some, hread, Option.bind_some]

theorem optional_bind (o : Option α) (f : α → Json) (k : Option α → Option β)
    (h : fs.lookup name = o.map f)
    (hread : ∀ a, o = some a → Source.isNull (f a) = false ∧ read (f a) = some a) :
    (Source.optional fs name read).bind k = k o := by
  rw [Source.optional, h]
  cases o with
  | none => rfl
  | some a =>
    obtain ⟨hnull, ha⟩ := hread a rfl
    simp [hnull, ha]

theorem withDefault_bind (a : α) {default : α} (k : α → Option β)
    (hmissing : fs.lookup name = none → a = default)
    (hread : ∀ v, fs.lookup name = some v → read v = some a) :
    (withDefault fs name default read).bind k = k a := by
  rw [withDefault]
  cases h : fs.lookup name with
  | none => rw [hmissing h, Option.bind_some]
  | some v =>
    dsimp only
    rw [hread v h, Option.bind_some]

theorem threeWay_bind (o : Option (Option String)) (k : Option (Option String) → Option β)
    (h : fs.lookup name = o.map ofText?) :
    (threeWay fs name Source.text?).bind k = k o := by
  rw [threeWay, h]
  cases o with
  | none => rfl
  | some o => cases o <;> rfl

theorem mapM_map {γ : Type} {read : γ → Option α} {as : List α} (f : α → γ)
    (h : ∀ a ∈ as, read (f a) = some a) : (as.map f).mapM read = some as := by
  induction as with
  | nil => rfl
  | cons a as ih =>
    obtain ⟨ha, has⟩ := List.forall_mem_cons.1 h
    rw [List.map_cons, List.mapM_cons, ha, ih has]
    rfl

theorem listOf?_map {as : List α} (f : α → Json) (h : ∀ a ∈ as, read (f a) = some a) :
    Source.listOf? read (Json.array (as.map f)) = some as :=
  mapM_map f h

end Reading

end GatewayPolicy
