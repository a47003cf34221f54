import Mathlib.Data.List.Forall2
import GatewayPolicy.FreeForm
/-!
# Parts of a JSON text and their values

A typed value is read from the parts of a text, which are evaluated only where they are entered or
kept. Where a part has a value and there is room for it, this makes no difference: `Agree` says that
a reader gives on every such part what another one gives on its value, and there is one lemma for
each thing that readers ask of a document.
-/

namespace GatewayPolicy.Json

open Source

/-! ## Trees with values -/

/-- A tree with its value, level by level. -/
inductive Raw.HasValue : Raw → Json → Prop where
  /-- The word `null`. -/
  | null : HasValue .null .null
  /-- A truth value. -/
  | bool (b : Bool) : HasValue (.bool b) (.bool b)
  /-- A number. -/
  | number {n : NumberLiteral} {x : Number} (h : n.value? = some x) :
    HasValue (.number n) (.number x)
  /-- A text. -/
  | text {t : StringLiteral} {s : String} (h : stringValue? t = some s) :
    HasValue (.text t) (.text s)
  /-- Items, each with its value. -/
  | array {items : List Raw} {vs : List Json}
    (h : List.Forall₂ (fun r v => r.value? = some v) items vs) : HasValue (.array items) (.array vs)
  /-- Fields, each with its key and its value. -/
  | object {fields : List (StringLiteral × Raw)} {fs : Fields}
    (h : List.Forall₂ (fun f g => stringValue? f.1 = some g.1 ∧ f.2.value? = some g.2) fields fs) :
    HasValue (.object fields) (.object fs)

theorem forall₂_of_itemValues? {items : List Raw} {vs : List Json}
    (h : Raw.itemValues? items = some vs) :
    List.Forall₂ (fun r v => r.value? = some v) items vs := by
  induction items generalizing vs with
  | nil =>
    obtain rfl := Option.some.inj h
    exact .nil
  | cons r items ih =>
    obtain ⟨v, hv, h⟩ := Option.bind_eq_some_iff.1 h
    obtain ⟨vs', hvs, h⟩ := Option.bind_eq_some_iff.1 h
    obtain rfl := Option.some.inj h
    exact .cons hv (ih hvs)

theorem forall₂_of_fieldValues? {fields : List (StringLiteral × Raw)} {fs : Fields}
    (h : Raw.fieldValues? fields = some fs) :
    List.Forall₂ (fun f g => stringValue? f.1 = some g.1 ∧ f.2.value? = some g.2) fields fs := by
  induction fields generalizing fs with
  | nil =>
    obtain rfl := Option.some.inj h
    exact .nil
  | cons f fields ih =>
    obtain ⟨k, hk, h⟩ := Option.bind_eq_some_iff.1 h
    obtain ⟨v, hv, h⟩ := Option.bind_eq_some_iff.1 h
    obtain ⟨fs', hfs, h⟩ := Option.bind_eq_some_iff.1 h
    obtain rfl := Option.some.inj h
    exact .cons ⟨hk, hv⟩ (ih hfs)

theorem hasValue_of_value? {r : Raw} {v : Json} (h : r.value? = some v) : r.HasValue v := by
  cases r with
  | null =>
    obtain rfl := Option.some.inj h
    exact .null
  | bool b =>
    obtain rfl := Option.some.inj h
    exact .bool b
  | number n =>
    obtain ⟨x, hx, rfl⟩ := Option.map_eq_some_iff.1 h
    exact .number hx
  | text t =>
    obtain ⟨s, hs, rfl⟩ := Option.map_eq_some_iff.1 h
    exact .text hs
  | array items =>
    obtain ⟨vs, hvs, rfl⟩ := Option.map_eq_some_iff.1 h
    exact .array (forall₂_of_itemValues? hvs)
  | object fields =>
    obtain ⟨fs, hfs, rfl⟩ := Option.map_eq_some_iff.1 h
    exact .object (forall₂_of_fieldValues? hfs)

/-! ## Fields -/

section Fields

variable {σ τ : Type} {R : σ → τ → Prop} {fs : List (String × σ)} {gs : List (String × τ)}

theorem eq_or_exists_of_rel {o : Option σ} {o' : Option τ} (h : Option.Rel R o o') :
    (o = none ∧ o' = none) ∨ ∃ a b, o = some a ∧ o' = some b ∧ R a b := by
  cases h with
  | none => exact .inl ⟨rfl, rfl⟩
  | some hab => exact .inr ⟨_, _, rfl, rfl, hab⟩

/-- Fields with the same key and related values. -/
def FieldRel (R : σ → τ → Prop) (f : String × σ) (g : String × τ) : Prop := f.1 = g.1 ∧ R f.2 g.2

theorem rel_lookup (h : List.Forall₂ (FieldRel R) fs gs) (name : String) :
    Option.Rel R (fs.lookup name) (gs.lookup name) := by
  induction h with
  | nil => exact .none
  | @cons f g fs gs hfg _ ih =>
    obtain ⟨k, v⟩ := f
    obtain ⟨k', w⟩ := g
    obtain ⟨rfl, hvw⟩ : k = k' ∧ R v w := hfg
    rw [List.lookup_cons, List.lookup_cons]
    split
    · exact .some hvw
    · exact ih

theorem map_fst_eq (h : List.Forall₂ (FieldRel R) fs gs) :
    fs.map Prod.fst = gs.map Prod.fst := by
  induction h with
  | nil => rfl
  | cons hfg _ ih => rw [List.map_cons, List.map_cons, hfg.1, ih]

theorem rel_declaredFields? (closed : Bool) (names : List String)
    (h : List.Forall₂ (FieldRel R) fs gs) :
    Option.Rel (List.Forall₂ (FieldRel R)) (declaredFields? closed names fs)
      (declaredFields? closed names gs) := by
  have hdeclared : List.Forall₂ (FieldRel R) (fs.filter fun f => names.contains f.1)
      (gs.filter fun g => names.contains g.1) := by
    induction h with
    | nil => exact .nil
    | cons hfg _ ih =>
      rw [List.filter_cons, List.filter_cons, hfg.1]
      split
      · exact .cons hfg ih
      · exact ih
  rw [declaredFields?, declaredFields?, hdeclared.length_eq, h.length_eq, map_fst_eq hdeclared]
  split
  · exact .none
  · split
    · exact .some hdeclared
    · exact .none

theorem rel_positionalFields? (closed : Bool) (names : List String) {vs : List σ} {ws : List τ}
    (h : List.Forall₂ R vs ws) :
    Option.Rel (List.Forall₂ (FieldRel R)) (positionalFields? closed names vs)
      (positionalFields? closed names ws) := by
  have hzip : List.Forall₂ (FieldRel R) (names.zip vs) (names.zip ws) := by
    induction h generalizing names with
    | nil =>
      rw [List.zip_nil_right, List.zip_nil_right]
      exact .nil
    | cons hvw _ ih =>
      cases names with
      | nil => exact .nil
      | cons name names => exact .cons ⟨rfl, hvw⟩ (ih names)
  rw [positionalFields?, positionalFields?, h.length_eq]
  split
  · exact .none
  · exact .some hzip

end Fields

/-! ## Parts with values -/

namespace Nested

/-- The part has the value, and there is room for it. -/
structure Holds (n : Nested) (v : Json) : Prop where
  /-- The value of the part. -/
  value : n.raw.value? = some v
  /-- The part has no more levels than it may. -/
  depth : v.depth ≤ n.room

variable {n : Nested} {v : Json}

theorem Holds.isNull_eq (h : n.Holds v) : Source.isNull n = Source.isNull v := by
  obtain ⟨r, room⟩ := n
  cases hasValue_of_value? h.value <;> rfl

theorem Holds.text?_eq (h : n.Holds v) : Source.text? n = Source.text? v := by
  obtain ⟨r, room⟩ := n
  cases hasValue_of_value? h.value with
  | text hs => exact hs
  | _ => rfl

theorem Holds.bool?_eq (h : n.Holds v) : Source.bool? n = Source.bool? v := by
  obtain ⟨r, room⟩ := n
  cases hasValue_of_value? h.value <;> rfl

theorem Holds.int?_eq (h : n.Holds v) : Source.int? n = Source.int? v := by
  obtain ⟨r, room⟩ := n
  cases hasValue_of_value? h.value with
  | @number n x hx =>
    change (Raw.number n).int? = (Json.number x).int?
    rw [Raw.int?, hx]
    cases x <;> rfl
  | _ => rfl

theorem Holds.json?_eq (h : n.Holds v) : n.json? = some v := by
  rw [json?, h.value, Option.filter_some, if_pos (decide_eq_true h.depth)]

theorem Holds.name?_eq (h : n.Holds v) : Source.name? n = Source.name? v := by
  change n.json?.bind Json.name? = _
  rw [h.json?_eq, Option.bind_some]
  rfl

theorem holds_items {room : Nat} {items : List Raw} {vs : List Json}
    (h : List.Forall₂ (fun r v => r.value? = some v) items vs) (hdepth : depthItems vs ≤ room) :
    List.Forall₂ (fun r v => Holds ⟨r, room⟩ v) items vs := by
  induction h with
  | nil => exact .nil
  | cons hv _ ih =>
    rw [depthItems] at hdepth
    exact .cons ⟨hv, by simp only; omega⟩ (ih (by omega))

theorem holds_fields {room : Nat} {fields : List (StringLiteral × Raw)} {fs : Fields}
    (h : List.Forall₂ (fun f g => stringValue? f.1 = some g.1 ∧ f.2.value? = some g.2) fields fs)
    (hdepth : depthFields fs ≤ room) :
    ∃ gs, (Raw.object fields).object? = some gs ∧
      List.Forall₂ (FieldRel fun r v => Holds ⟨r, room⟩ v) gs fs := by
  induction h with
  | nil => exact ⟨[], rfl, .nil⟩
  | @cons f g fields fs hfg _ ih =>
    obtain ⟨k, r⟩ := f
    rw [depthFields] at hdepth
    obtain ⟨gs, hgs, hrest⟩ := ih (by omega)
    rw [Raw.object?] at hgs
    refine ⟨(g.1, r) :: gs, ?_, .cons ⟨rfl, hfg.2, by simp only; omega⟩ hrest⟩
    rw [Raw.object?, List.mapM_cons, hgs]
    simp [hfg.1]

/-- The items of a part hold the items of its value. -/
theorem Holds.rel_items? (h : n.Holds v) :
    Option.Rel (List.Forall₂ Holds) (Source.items? n) (Source.items? v) := by
  change Option.Rel _ n.items? v.items?
  obtain ⟨r, room⟩ := n
  cases hasValue_of_value? h.value with
  | @array items vs hitems =>
    have hdepth : depthItems vs + 1 ≤ room := h.depth
    rw [Nested.items?, if_neg (by simp only; omega)]
    exact .some (List.forall₂_map_left_iff.2 (holds_items hitems (by simp only; omega)))
  | _ =>
    rw [Nested.items?]
    split
    · exact .none
    · exact .none

theorem Holds.rel_fields? (h : n.Holds v) (closed : Bool) (names : List String) :
    Option.Rel (List.Forall₂ (FieldRel Holds)) (Source.fields? closed names n)
      (Source.fields? closed names v) := by
  change Option.Rel _ (n.fields? closed names) (v.fields? closed names)
  obtain ⟨r, room⟩ := n
  have hinner {o : Option (List (String × Raw))} {o' : Option Fields} (hroom : room ≠ 0)
      (hr : r.fields? closed names = o)
      (ho : Option.Rel (List.Forall₂ (FieldRel fun r v => Holds ⟨r, room - 1⟩ v)) o o') :
      Option.Rel (List.Forall₂ (FieldRel Holds)) (Nested.fields? closed names ⟨r, room⟩) o' := by
    rw [Nested.fields?, if_neg hroom, hr]
    cases ho with
    | none => exact .none
    | some hfields => exact .some (List.forall₂_map_left_iff.2 hfields)
  cases hasValue_of_value? h.value with
  | @array items vs hitems =>
    have hdepth : depthItems vs + 1 ≤ room := h.depth
    exact hinner (by omega) rfl
      (rel_positionalFields? closed names (holds_items hitems (by omega)))
  | @object fields fs hfields =>
    have hdepth : depthFields fs + 1 ≤ room := h.depth
    have hinside : depthFields fs ≤ room - 1 := by omega
    obtain ⟨gs, hgs, hrest⟩ := holds_fields hfields hinside
    refine hinner (by omega) ?_ (rel_declaredFields? closed names hrest)
    rw [Raw.fields?, hgs, Option.bind_some]
    simp
  | _ =>
    rw [Nested.fields?]
    split
    · exact .none
    · exact .none

end Nested

/-! ## Readers -/

/-- A reader gives on every part of a text what another one gives on the value of the part. -/
def Agree {α : Type} (read : Nested → Option α) (read' : Json → Option α) : Prop :=
  ∀ n v, n.Holds v → read n = read' v

namespace Agree

variable {α β : Type} {read : Nested → Option α} {read' : Json → Option α}

theorem text? : Agree Source.text? Source.text? := fun _ _ h => h.text?_eq

theorem bool? : Agree Source.bool? Source.bool? := fun _ _ h => h.bool?_eq

theorem name? : Agree Source.name? Source.name? := fun _ _ h => h.name?_eq

theorem free? : Agree FreeSource.free? FreeSource.free? := fun _ _ h => h.json?_eq

theorem nat64? : Agree Source.nat64? Source.nat64? := fun n v h => by
  rw [Source.nat64?, Source.nat64?, h.int?_eq]

theorem bind (h : Agree read read') (f : α → Option β) :
    Agree (fun n => (read n).bind f) (fun v => (read' v).bind f) := fun n v hv => by
  dsimp only
  rw [h n v hv]

theorem map (h : Agree read read') (f : α → β) :
    Agree (fun n => (read n).map f) (fun v => (read' v).map f) := fun n v hv => by
  dsimp only
  rw [h n v hv]

theorem listOf? (h : Agree read read') : Agree (Source.listOf? read) (Source.listOf? read') := by
  intro n v hv
  rw [Source.listOf?, Source.listOf?]
  obtain ⟨hn, hv⟩ | ⟨ns, vs, hn, hv, hitems⟩ := eq_or_exists_of_rel hv.rel_items?
  · rw [hn, hv]
    rfl
  · rw [hn, hv, Option.bind_some, Option.bind_some]
    clear hn hv
    induction hitems with
    | nil => rfl
    | cons hv _ ih => rw [List.mapM_cons, List.mapM_cons, h _ _ hv, ih]

theorem fields? {closed : Bool} {names : List String} {f : List (String × Nested) → Option α}
    {g : Fields → Option α}
    (h : ∀ fs gs, List.Forall₂ (FieldRel Nested.Holds) fs gs → f fs = g gs) :
    Agree (fun n => (Source.fields? closed names n).bind f)
      (fun v => (Source.fields? closed names v).bind g) := by
  intro n v hv
  dsimp only
  obtain ⟨hn, hv⟩ | ⟨fs, gs, hn, hv, hfields⟩ := eq_or_exists_of_rel (hv.rel_fields? closed names)
  · rw [hn, hv]
    rfl
  · rw [hn, hv]
    exact h fs gs hfields

section Fields

variable {fs : List (String × Nested)} {gs : Fields} (name : String)

theorem required (h : Agree read read') (hfields : List.Forall₂ (FieldRel Nested.Holds) fs gs) :
    Source.required fs name read = Source.required gs name read' := by
  rw [Source.required, Source.required]
  obtain ⟨hn, hv⟩ | ⟨n, v, hn, hv, hholds⟩ := eq_or_exists_of_rel (rel_lookup hfields name)
  · rw [hn, hv]
    rfl
  · rw [hn, hv]
    exact h n v hholds

theorem optional (h : Agree read read') (hfields : List.Forall₂ (FieldRel Nested.Holds) fs gs) :
    Source.optional fs name read = Source.optional gs name read' := by
  rw [Source.optional, Source.optional]
  obtain ⟨hn, hv⟩ | ⟨n, v, hn, hv, hholds⟩ := eq_or_exists_of_rel (rel_lookup hfields name)
  · rw [hn, hv]
  · rw [hn, hv]
    dsimp only
    rw [hholds.isNull_eq, h n v hholds]

theorem withDefault (h : Agree read read') (hfields : List.Forall₂ (FieldRel Nested.Holds) fs gs)
    (default : α) :
    Source.withDefault fs name default read = Source.withDefault gs name default read' := by
  rw [Source.withDefault, Source.withDefault]
  obtain ⟨hn, hv⟩ | ⟨n, v, hn, hv, hholds⟩ := eq_or_exists_of_rel (rel_lookup hfields name)
  · rw [hn, hv]
  · rw [hn, hv]
    exact h n v hholds

theorem threeWay (h : Agree read read') (hfields : List.Forall₂ (FieldRel Nested.Holds) fs gs) :
    Source.threeWay fs name read = Source.threeWay gs name read' := by
  rw [Source.threeWay, Source.threeWay]
  obtain ⟨hn, hv⟩ | ⟨n, v, hn, hv, hholds⟩ := eq_or_exists_of_rel (rel_lookup hfields name)
  · rw [hn, hv]
  · rw [hn, hv]
    dsimp only
    rw [hholds.isNull_eq, h n v hholds]

end Fields

/-- A text that has a value within the limit is read as its value. -/
theorem readAs?_eq (h : Agree read read') {s : String} {v : Json} (hs : Json.read? s = some v)
    (hdepth : v.depth ≤ maxDepth) : readAs? read s = read' v := by
  obtain ⟨r, hr, hv⟩ := Option.bind_eq_some_iff.1 hs
  rw [readAs?, hr, Option.bind_some]
  exact h _ _ ⟨hv, hdepth⟩

end Agree

end GatewayPolicy.Json
