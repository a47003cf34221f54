import GatewayPolicy.Proofs.Catalog.Parameters
import GatewayPolicy.Proofs.Policy.CoercedReading
import GatewayPolicy.Proofs.Validation.Warnings
/-!
# Findings with coercion and without

A document has the same findings whether its attributes are taken for numbers and truth values or
are left texts, with one exception: a parameter that takes a list takes a text, and does not take
the number or the truth value that the text is taken for. So coercion may add findings about lists,
and it changes nothing else.
-/

namespace GatewayPolicy

open Json Text Xml Validation

variable {settings : Settings} {entry : Entry} {v v' : Json} {c c' : Fields} {key : String}
  {m m' : Model} {p q : PlacedItem}

/-! ## Values -/

theorem Json.Refines.isNull_eq (h : v.Refines v') : v.isNull = v'.isNull := by
  cases h with
  | refl => rfl
  | coercion h => cases h <;> rfl

theorem Json.Refines.plainText?_eq (h : v.Refines v') :
    SendRequest.plainText? v = SendRequest.plainText? v' := by
  cases h with
  | refl => rfl
  | coercion h => cases h <;> rfl

theorem Json.Refines.headersOf_eq (h : v.Refines v') :
    SendRequest.headersOf v = SendRequest.headersOf v' := by
  cases h with
  | refl => rfl
  | coercion h => cases h <;> rfl

/-- What is found out about a value that both have, or that one has for a text of the other. -/
theorem bind_eq_of_rel {β : Type} {f : Json → Option β} {o o' : Option Json}
    (h : Option.Rel Json.Refines o o') (hf : ∀ v v', v.Refines v' → f v = f v') :
    o.bind f = o'.bind f := by
  cases h with
  | none => rfl
  | some h => exact hf _ _ h

/-- The parameter is one that takes a list. -/
def Entry.TakesList (e : Entry) (key : String) : Prop :=
  key ≠ textKey ∧ ∃ p, e.parameter? key = some p ∧ p.kind = .list

theorem valueMismatch?_of_not_takesList (h : v.Refines v') (hkey : ¬ entry.TakesList key) :
    valueMismatch? entry key v = valueMismatch? entry key v' := by
  unfold valueMismatch?
  rw [h.isNull_eq]
  split
  · rfl
  · rename_i hcondition
    cases hparameter : entry.parameter? key with
    | none => rfl
    | some p =>
      have htext : key ≠ textKey := fun heq => hcondition (by simp [heq])
      have hkind : p.kind ≠ .list := fun hkind => hkey ⟨htext, p, hparameter, hkind⟩
      cases h with
      | refl => rfl
      | coercion h => exact ParameterKind.mismatch?_of_isCoercion h hkind

theorem valueMismatch?_of_takesList (h : v.Refines v') (hkey : entry.TakesList key)
    (hne : v ≠ v') :
    valueMismatch? entry key v = some (.wrongType "list") ∧
      valueMismatch? entry key v' = none := by
  obtain ⟨htext, p, hparameter, hkind⟩ := hkey
  cases h with
  | refl => exact absurd rfl hne
  | @coercion s v h =>
    have hnull : v.isNull = false := (Json.Refines.coercion h).isNull_eq
    unfold valueMismatch?
    rw [hnull, hparameter, Option.bind_some, Option.bind_some, hkind, if_neg (by simpa using htext),
      if_neg (by simpa [Json.isNull] using htext)]
    exact ⟨ParameterKind.mismatch?_list_of_isCoercion h hne, ParameterKind.mismatch?_list_text s⟩

/-! ## Findings that are added -/

/-- The first findings are the second ones and some that say that a parameter should be a list. -/
inductive AddsListFindings : List Issue → List Issue → Prop where
  /-- There are none. -/
  | nil : AddsListFindings [] []
  /-- Both have the finding. -/
  | keep {is js : List Issue} (j : Issue) (h : AddsListFindings is js) :
    AddsListFindings (j :: is) (j :: js)
  /-- The finding is added. -/
  | add {is js : List Issue} (path : Path) (key : String) (h : AddsListFindings is js) :
    AddsListFindings (mismatchIssue path key (.wrongType "list") :: is) js

variable {is is' js js' : List Issue}

namespace AddsListFindings

theorem refl (is : List Issue) : AddsListFindings is is := by
  induction is with
  | nil => exact .nil
  | cons j is ih => exact .keep j ih

theorem append (h : AddsListFindings is js) (h' : AddsListFindings is' js') :
    AddsListFindings (is ++ is') (js ++ js') := by
  induction h with
  | nil => exact h'
  | keep j _ ih => exact .keep j ih
  | add path key _ ih => exact .add path key ih

theorem length_le (h : AddsListFindings is js) : js.length ≤ is.length := by
  induction h with
  | nil => exact Nat.le_refl _
  | keep j _ ih => exact Nat.succ_le_succ ih
  | add path key _ ih => exact Nat.le_succ_of_le ih

end AddsListFindings

/-- The first findings are the second ones and some about lists, and none is added exactly if the
condition holds. -/
structure AddsListFindingsUnless (same : Prop) (is js : List Issue) : Prop where
  /-- Nothing else is added. -/
  adds : AddsListFindings is js
  /-- Something is added unless the condition holds. -/
  eq_iff : is = js ↔ same

namespace AddsListFindingsUnless

variable {same same' : Prop}

theorem of_eq (heq : is = js) (h : same) : AddsListFindingsUnless same is js :=
  ⟨heq ▸ .refl is, iff_of_true heq h⟩

theorem append (h : AddsListFindingsUnless same is js) (h' : AddsListFindingsUnless same' is' js') :
    AddsListFindingsUnless (same ∧ same') (is ++ is') (js ++ js') := by
  refine ⟨h.adds.append h'.adds, ?_⟩
  rw [← h.eq_iff, ← h'.eq_iff]
  constructor
  · intro heq
    have hlength := congrArg List.length heq
    rw [List.length_append, List.length_append] at hlength
    have hle := h.adds.length_le
    have hle' := h'.adds.length_le
    exact List.append_inj heq (by omega)
  · rintro ⟨rfl, rfl⟩
    rfl

theorem append_left (h : AddsListFindingsUnless same is js) (ks : List Issue) :
    AddsListFindingsUnless same (ks ++ is) (ks ++ js) :=
  ⟨(AddsListFindings.refl ks).append h.adds, (List.append_right_inj ks).trans h.eq_iff⟩

theorem append_right (h : AddsListFindingsUnless same is js) (ks : List Issue) :
    AddsListFindingsUnless same (is ++ ks) (js ++ ks) :=
  ⟨h.adds.append (.refl ks), (List.append_left_inj ks).trans h.eq_iff⟩

/-- What holds of the findings about single things holds of all findings. -/
theorem flatMap {α β : Type} {R P : α → β → Prop} {f : α → List Issue} {g : β → List Issue}
    {as : List α} {bs : List β} (h : List.Forall₂ R as bs)
    (hstep : ∀ a b, R a b → AddsListFindingsUnless (P a b) (f a) (g b)) :
    AddsListFindingsUnless (List.Forall₂ P as bs) (as.flatMap f) (bs.flatMap g) := by
  induction h with
  | nil => exact of_eq rfl .nil
  | cons hab _ ih =>
    rw [List.flatMap_cons, List.flatMap_cons, List.forall₂_cons]
    exact (hstep _ _ hab).append ih

end AddsListFindingsUnless

/-! ## Items -/

/-- The parameters that take lists have the same values. -/
def Entry.AgreeOnLists (e : Entry) (c c' : Fields) : Prop :=
  List.Forall₂ (fun a b => e.TakesList a.1 → a.2 = b.2) c c'

/-- If the items are policies of the catalog, the parameters that take lists have the same
values. -/
def Item.AgreeOnLists (catalog : Catalog) (i i' : Item) : Prop :=
  ∀ c c' e, i = .catalog c → i' = .catalog c' → catalog.get? c.policyId = some e →
    e.AgreeOnLists c.configuration c'.configuration

/-- The items are stored at the same place, and one refines the other. -/
structure PlacedItem.Refines (p q : PlacedItem) : Prop where
  /-- They are in the same section. -/
  kind : p.kind = q.kind
  /-- They have the same place in it. -/
  position : p.position = q.position
  /-- One refines the other. -/
  item : p.item.Refines q.item

theorem PlacedItem.Refines.path_eq (h : p.Refines q) : p.path = q.path := by
  rw [PlacedItem.path, PlacedItem.path, h.kind, h.position]

theorem addsListFindings_value (entry : Entry) (path : Path) (key : String) (h : v.Refines v') :
    AddsListFindingsUnless (entry.TakesList key → v = v')
      ((valueMismatch? entry key v).map (mismatchIssue path key)).toList
      ((valueMismatch? entry key v').map (mismatchIssue path key)).toList := by
  by_cases hkey : entry.TakesList key
  · by_cases hsame : v = v'
    · rw [hsame]
      exact .of_eq rfl fun _ => rfl
    · obtain ⟨hfound, hnone⟩ := valueMismatch?_of_takesList h hkey hsame
      rw [hfound, hnone]
      exact ⟨.add path key .nil, iff_of_false (by simp) fun hlist => hsame (hlist hkey)⟩
  · rw [valueMismatch?_of_not_takesList h hkey]
    exact .of_eq rfl fun htakes => absurd htakes hkey

theorem addsListFindings_entryWarnings (entry : Entry) (scope : Scope) (path : Path)
    (i : CatalogItem) (h : i.configuration.Refines c) :
    AddsListFindingsUnless (entry.AgreeOnLists i.configuration c) (entryWarnings entry scope path i)
      (entryWarnings entry scope path { i with configuration := c }) := by
  have hvalues : AddsListFindingsUnless (entry.AgreeOnLists i.configuration c)
      (i.configuration.flatMap fun b =>
        ((valueMismatch? entry b.1 b.2).map (mismatchIssue path b.1)).toList)
      (c.flatMap fun b => ((valueMismatch? entry b.1 b.2).map (mismatchIssue path b.1)).toList) := by
    refine .flatMap h ?_
    rintro ⟨key, v⟩ ⟨_, v'⟩ ⟨rfl, hv⟩
    exact addsListFindings_value entry path key hv
  unfold entryWarnings
  rw [List.filterMap_eq_flatMap_toList, List.filterMap_eq_flatMap_toList]
  exact hvalues.append_left _

theorem addsListFindings_itemWarnings (catalog : Catalog) (scope : Scope) (h : p.Refines q) :
    AddsListFindingsUnless (p.item.AgreeOnLists catalog q.item) (itemWarnings catalog scope p)
      (itemWarnings catalog scope q) := by
  have hitem := h.item
  unfold itemWarnings
  rw [h.path_eq]
  generalize p.item = i, q.item = i' at hitem
  cases hitem with
  | catalog i hc =>
    dsimp only
    cases hentry : catalog.get? i.policyId with
    | none =>
      refine .of_eq rfl fun c c' e hi _ he => ?_
      obtain rfl := Item.catalog.inj hi
      rw [hentry] at he
      exact absurd he (by simp)
    | some e =>
      have hwarnings := addsListFindings_entryWarnings e scope q.path i hc
      refine ⟨hwarnings.adds,
        hwarnings.eq_iff.trans ⟨fun hsame c c' e' hi hi' he' => ?_, fun hsame => ?_⟩⟩
      · obtain rfl := Item.catalog.inj hi
        obtain rfl := Item.catalog.inj hi'
        obtain rfl := Option.some.inj (hentry.symm.trans he')
        exact hsame
      · exact hsame i _ e rfl rfl hentry
  | refl i =>
    refine .of_eq rfl fun c c' e hi hi' _ => ?_
    obtain rfl := Item.catalog.inj (hi.symm.trans hi')
    exact List.forall₂_same.2 fun _ _ _ => rfl

theorem itemErrors_eq (catalog : Catalog) (h : p.Refines q) :
    itemErrors catalog p = itemErrors catalog q := by
  have hitem := h.item
  unfold itemErrors
  rw [h.path_eq, h.kind]
  generalize p.item = i, q.item = i' at hitem
  cases hitem with
  | refl => rfl
  | @catalog i c hc =>
    have hgiven (key : String) : isGiven i.configuration key = isGiven c key := by
      have hget := hc.get? key
      unfold isGiven
      generalize i.configuration.get? key = o, c.get? key = o' at hget
      cases hget with
      | none => rfl
      | some hv => rw [Option.any_some, Option.any_some, hv.isNull_eq]
    have hparameters (e : Entry) :
        missingParameters e i = missingParameters e { i with configuration := c } := by
      unfold missingParameters hasParameter
      simp only [hgiven]
    have hheaders : (SendRequest.ofConfiguration i.configuration).headers =
        (SendRequest.ofConfiguration c).headers := by
      have hget := hc.get? "headers"
      rw [SendRequest.ofConfiguration, SendRequest.ofConfiguration]
      generalize i.configuration.get? "headers" = o, c.get? "headers" = o' at hget
      cases hget with
      | none => rfl
      | some hv => exact hv.headersOf_eq
    dsimp only
    unfold headerErrors entryErrors
    simp only [hheaders, hparameters]
    rfl

/-! ## Models -/

theorem Item.Refines.id_eq {i i' : Item} (h : i.Refines i') : i.id = i'.id := by
  cases h with
  | catalog => rfl
  | refl => rfl

theorem Item.Refines.assignedVariable?_eq {i i' : Item} (h : i.Refines i') :
    i.catalog?.bind assignedVariable? = i'.catalog?.bind assignedVariable? := by
  cases h with
  | refl => rfl
  | @catalog i c hc =>
    have hplain (key : String) : (i.configuration.get? key).bind SendRequest.plainText? =
        (c.get? key).bind SendRequest.plainText? :=
      bind_eq_of_rel (hc.get? key) fun _ _ hv => hv.plainText?_eq
    show assignedVariable? i = assignedVariable? { i with configuration := c }
    unfold assignedVariable?
    simp only [hplain]

theorem duplicateIdWarnings_eq {ps qs : List PlacedItem} (h : List.Forall₂ PlacedItem.Refines ps qs)
    (before : List String) : duplicateIdWarnings before ps = duplicateIdWarnings before qs := by
  induction h generalizing before with
  | nil => rfl
  | cons hpq _ ih =>
    rw [duplicateIdWarnings, duplicateIdWarnings, hpq.path_eq, hpq.item.id_eq, ih]

theorem foldl_addAssignment_eq {ps qs : List PlacedItem}
    (h : List.Forall₂ PlacedItem.Refines ps qs) (places : NameMap (List Path)) :
    ps.foldl addAssignment places = qs.foldl addAssignment places := by
  induction h generalizing places with
  | nil => rfl
  | @cons p q ps qs hpq _ ih =>
    have hstep : addAssignment places p = addAssignment places q := by
      rw [addAssignment, addAssignment, hpq.path_eq, hpq.item.assignedVariable?_eq]
    rw [List.foldl_cons, List.foldl_cons, hstep, ih]

theorem forall₂_mapIdx {α β γ δ : Type} {R : α → β → Prop} {S : γ → δ → Prop} {f : Nat → α → γ}
    {g : Nat → β → δ} {as : List α} {bs : List β} (h : List.Forall₂ R as bs)
    (hstep : ∀ n a b, R a b → S (f n a) (g n b)) : List.Forall₂ S (as.mapIdx f) (bs.mapIdx g) := by
  induction h generalizing f g with
  | nil => exact .nil
  | cons hab _ ih =>
    rw [List.mapIdx_cons, List.mapIdx_cons]
    exact .cons (hstep 0 _ _ hab) (ih fun n => hstep (n + 1))

theorem forall₂_flatMap_present {α β : Type} {S : α → β → Prop} {f : SectionKind × Section → List α}
    {g : SectionKind × Section → List β} (h : m.Refines m')
    (hstep : ∀ kind s s', s.Refines s' → List.Forall₂ S (f (kind, s)) (g (kind, s'))) :
    List.Forall₂ S (m.sections.present.flatMap f) (m'.sections.present.flatMap g) := by
  rw [flatMap_present, flatMap_present]
  induction SectionKind.all with
  | nil => exact .nil
  | cons kind kinds ih =>
    rw [List.flatMap_cons, List.flatMap_cons]
    refine List.rel_append ?_ ih
    have hkind := h.sections kind
    generalize m.sections.get? kind = s?, m'.sections.get? kind = s?' at hkind
    cases hkind with
    | none => exact .nil
    | some hs => exact hstep kind _ _ hs

theorem Model.Refines.placedItems (h : m.Refines m') :
    List.Forall₂ PlacedItem.Refines m.placedItems m'.placedItems :=
  forall₂_flatMap_present h fun _ _ _ hs => forall₂_mapIdx hs.items fun _ _ _ hi => ⟨rfl, rfl, hi⟩

theorem flatMap_itemErrors_eq (catalog : Catalog) {ps qs : List PlacedItem}
    (h : List.Forall₂ PlacedItem.Refines ps qs) :
    ps.flatMap (itemErrors catalog) = qs.flatMap (itemErrors catalog) := by
  induction h with
  | nil => rfl
  | cons hpq _ ih => rw [List.flatMap_cons, List.flatMap_cons, itemErrors_eq catalog hpq, ih]

/-- A model and one that it refines have the same findings, save those about lists. -/
theorem Model.Refines.findings (h : m.Refines m') (catalog : Catalog) :
    (m.validate catalog).errors = (m'.validate catalog).errors ∧
      AddsListFindingsUnless
        (List.Forall₂ (fun x y => x.2.AgreeOnLists catalog y.2) m.items m'.items)
        (m.validate catalog).warnings (m'.validate catalog).warnings := by
  have hplaced := h.placedItems
  have hscope : scopeWarnings m = scopeWarnings m' := by
    rw [scopeWarnings, scopeWarnings, h.scope, h.apiId, h.operationId]
  have hids := duplicateIdWarnings_eq hplaced []
  have hvariables : variableWarnings m = variableWarnings m' := by
    rw [variableWarnings, variableWarnings, assignments, assignments,
      foldl_addAssignment_eq hplaced]
  have hitems : AddsListFindingsUnless
      (List.Forall₂ (fun x y => x.2.AgreeOnLists catalog y.2) m.items m'.items)
      (m.placedItems.flatMap (itemWarnings catalog m.scope))
      (m'.placedItems.flatMap (itemWarnings catalog m.scope)) := by
    rw [items_eq_map_placedItems, items_eq_map_placedItems, List.forall₂_map_left_iff,
      List.forall₂_map_right_iff]
    exact .flatMap hplaced fun _ _ hpq => addsListFindings_itemWarnings catalog m.scope hpq
  refine ⟨flatMap_itemErrors_eq catalog hplaced, ?_⟩
  show AddsListFindingsUnless _ (warnings catalog m) (warnings catalog m')
  rw [warnings, warnings, ← hscope, ← hids, ← hvariables, ← h.scope]
  exact ((hitems.append_left _).append_right _).append_right _

theorem ofXml_uncoerced_of_error {document : String} {error : Error}
    (h : Model.ofXml settings document = .error error) :
    Model.ofXml settings.uncoerced document = .error error := by
  unfold Model.ofXml at h ⊢
  split at h
  · exact h
  · split at h
    · simp at h
    · rename_i hname
      rw [if_neg hname]
      exact h

/-- Every kind but the one for lists takes what a text is taken for exactly if it takes the text.
The kind for lists takes every text, and no number or truth value that a text is taken for. So a
document has the same findings with coercion and without, save findings about lists, and all are the
same exactly if the parameters that take lists have the same values. -/
theorem findings_of_coercion (settings : Settings) :
    (∀ (kind : ParameterKind) (s : String), kind ≠ .list →
      kind.mismatch? (coerce true s) = kind.mismatch? (.text s)) ∧
    (∀ s : String, ParameterKind.list.mismatch? (.text s) = none ∧
      (ParameterKind.list.mismatch? (coerce true s) = none ↔ coerce true s = .text s)) ∧
    ∀ (catalog : Catalog) (document : String),
      (∃ error, Model.ofXml settings document = .error error ∧
        Model.ofXml settings.uncoerced document = .error error) ∨
      ∃ m m', Model.ofXml settings document = .ok m ∧
        Model.ofXml settings.uncoerced document = .ok m' ∧
        (m.validate catalog).errors = (m'.validate catalog).errors ∧
        AddsListFindings (m.validate catalog).warnings (m'.validate catalog).warnings ∧
        (m.validate catalog = m'.validate catalog ↔
          List.Forall₂ (fun x y => x.2.AgreeOnLists catalog y.2) m.items m'.items) := by
  refine ⟨fun kind s hkind => ?_, fun s => ⟨ParameterKind.mismatch?_list_text s, ?_⟩,
    fun catalog document => ?_⟩
  · exact ParameterKind.mismatch?_of_isCoercion (isCoercion_coerce true s) hkind
  · constructor
    · intro hnone
      by_contra hne
      have hfound := ParameterKind.mismatch?_list_of_isCoercion (isCoercion_coerce true s) hne
      rw [hnone] at hfound
      exact absurd hfound (by simp)
    · intro htext
      rw [htext]
      exact ParameterKind.mismatch?_list_text s
  · cases h : Model.ofXml settings document with
    | error e => exact .inl ⟨e, rfl, ofXml_uncoerced_of_error h⟩
    | ok m =>
      obtain ⟨m', hm', hrefines⟩ := exists_refines_ofXml h
      obtain ⟨herrors, hwarnings⟩ := hrefines.findings catalog
      refine .inr ⟨m, m', rfl, hm', herrors, hwarnings.adds, ?_⟩
      rw [← hwarnings.eq_iff]
      constructor
      · exact congrArg ValidationResult.warnings
      · intro hsame
        show ValidationResult.ofIssues (m.validate catalog).errors (m.validate catalog).warnings =
          ValidationResult.ofIssues (m'.validate catalog).errors (m'.validate catalog).warnings
        rw [herrors, hsame]

theorem findings_of_coercion_number :
    ParameterKind.integer ≠ .list ∧
      ParameterKind.integer.mismatch? (coerce true "200") =
        ParameterKind.integer.mismatch? (.text "200") ∧
      ParameterKind.list.mismatch? (coerce true "200") ≠ none := by
  obtain ⟨hkinds, hlists, -⟩ := findings_of_coercion {}
  have hnumber : coerce true "200" ≠ .text "200" := by
    have hcoerce : coerce true (toString (200 : Int)) = .number (.int 200) :=
      coerce_toString (by decide)
    rw [show "200" = toString (200 : Int) by decide, hcoerce]
    exact Json.noConfusion
  exact ⟨by decide, hkinds .integer "200" (by decide),
    fun hnone => hnumber ((hlists "200").2.1 hnone)⟩

end GatewayPolicy
