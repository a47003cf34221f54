import GatewayPolicy.Proofs.Validation.Warnings
/-!
# Errors are exact

A model is valid if its policies are known, stand where they may and have what they need, and if no
reference is blank. The errors of a model say exactly where this fails: there is one error for each
offence, so a model without errors is valid and a valid model has none.

Offences are counted over the items of a model, without the order and the places in which errors are
listed.
-/

namespace GatewayPolicy

open Json Text Validation

/-! ## What a valid model is -/

namespace CatalogItem

/-- There is a value under the key. -/
def Configures (i : CatalogItem) (key : String) : Prop :=
  ∃ v, i.configuration.get? key = some v ∧ v ≠ .null

/-- The parameter is given: as a value, as the text of the element, or as an attribute. -/
def Gives (i : CatalogItem) (e : Entry) (name : String) : Prop :=
  i.Configures name ∨ (e.textParameter = some name ∧ i.Configures textKey) ∨
    name ∈ i.attributes.keys

/-- The names of the named values that attributes and headers refer to; none for a header that
refers to a value without a name. -/
def referenceNames (i : CatalogItem) : List (Option String) :=
  (i.attributes.entries.filterMap fun (_, v) => v.namedValue?.map some) ++
    if i.policyId = SendRequest.policyId then
      (SendRequest.ofConfiguration i.configuration).headers.filterMap fun h =>
        h.value.object?.map fun fields => (fields.get? "name").bind Json.text?
    else []

end CatalogItem

/-- The policies among items, with their sections. -/
def policiesOf (items : List (SectionKind × Item)) : List (SectionKind × CatalogItem) :=
  items.filterMap fun (kind, i) => i.catalog?.map (kind, ·)

/-- The fragments that items refer to. -/
def fragmentsOf (items : List (SectionKind × Item)) : List String :=
  items.filterMap fun (_, i) => i.fragmentId?

/-- Nothing is wrong with the model. -/
structure Model.IsValid (catalog : Catalog) (m : Model) : Prop where
  /-- Policies are in the catalog. -/
  known : ∀ p ∈ policiesOf m.items, ∃ e, catalog.get? p.2.policyId = some e
  /-- They stand in sections that they support. -/
  placed : ∀ p ∈ policiesOf m.items, ∀ e, catalog.get? p.2.policyId = some e → p.1 ∈ e.sections
  /-- All parameters that have to be given are. -/
  complete : ∀ p ∈ policiesOf m.items, ∀ e, catalog.get? p.2.policyId = some e →
    ∀ q ∈ e.parameters, q.required = true → p.2.Gives e q.name
  /-- References in attributes have names. -/
  attributes : ∀ p ∈ policiesOf m.items, ∀ key r,
    (key, AttributeValue.namedValue r) ∈ p.2.attributes.entries → isBlankText r.name = false
  /-- References in headers have texts as names. -/
  headers : ∀ p ∈ policiesOf m.items, p.2.policyId = SendRequest.policyId →
    ∀ h ∈ (SendRequest.ofConfiguration p.2.configuration).headers, ∀ fields : Fields,
      h.value = .object fields →
        ∃ name, fields.get? "name" = some (.text name) ∧ isBlankText name = false
  /-- References to fragments have names. -/
  fragments : ∀ id ∈ fragmentsOf m.items, isBlankText id = false

/-! ## Offences -/

section Offences

variable {catalog : Catalog} {kind : SectionKind} {i : CatalogItem} {e : Entry} {name : String}
  {path : Path} {code : IssueCode} {is : List Issue}

theorem isGiven_iff {key : String} : isGiven i.configuration key = true ↔ i.Configures key := by
  rw [isGiven, CatalogItem.Configures, Option.any_eq_true]
  refine exists_congr fun v => and_congr_right fun _ => ?_
  cases v <;> simp [Json.isNull]

theorem contains_attributes_iff : i.attributes.contains name = true ↔ name ∈ i.attributes.keys := by
  simp [NameMap.contains, NameMap.keys]

theorem hasParameter_iff : hasParameter e i name = true ↔ i.Gives e name := by
  simp only [hasParameter, CatalogItem.Gives, Bool.or_eq_true, Bool.and_eq_true, isGiven_iff,
    contains_attributes_iff, beq_iff_eq, or_assoc]

instance (i : CatalogItem) (e : Entry) (name : String) : Decidable (i.Gives e name) :=
  decidable_of_iff _ hasParameter_iff

/-- The parameters that an item lacks; one of an unknown policy lacks none. -/
def lacking (catalog : Catalog) (i : CatalogItem) : List Parameter :=
  (catalog.get? i.policyId).toList.flatMap fun e =>
    e.parameters.filter fun q => q.required ∧ ¬ i.Gives e q.name

/-- How many offences of a kind there are among items. -/
def offences (catalog : Catalog) (items : List (SectionKind × Item)) : IssueCode → Nat
  | .unknownPolicy => (policiesOf items).countP fun p => (catalog.get? p.2.policyId).isNone
  | .invalidSection =>
    (policiesOf items).countP fun p =>
      (catalog.get? p.2.policyId).any fun e => p.1 ∉ e.sections
  | .missingRequiredParameter =>
    ((policiesOf items).flatMap fun p => (lacking catalog p.2).map (p.2, ·)).length
  | .emptyNamedValue =>
    ((policiesOf items).flatMap fun p => p.2.referenceNames).countP fun name => !isVisible name
  | .emptyFragmentId => (fragmentsOf items).countP isBlankText
  | _ => 0

theorem offences_append (xs ys : List (SectionKind × Item)) (code : IssueCode) :
    offences catalog (xs ++ ys) code = offences catalog xs code + offences catalog ys code := by
  cases code <;> simp [offences, policiesOf, fragmentsOf]

/-! ### Findings with one code -/

theorem countP_code_of_forall (code' : IssueCode) (h : ∀ i ∈ is, i.code = code') :
    is.countP (·.code = code) = if code' = code then is.length else 0 := by
  have hconst : is.countP (·.code = code) = is.countP fun _ => decide (code' = code) :=
    List.countP_congr fun i hi => by rw [h i hi]
  rw [hconst]
  split <;> simp_all

theorem length_flatMap_when {α : Type} (f : α → Bool) (g : α → Issue) (l : List α) :
    (l.flatMap fun a => when (f a) (g a)).length = l.countP f := by
  induction l with
  | nil => rfl
  | cons a l ih =>
    rw [List.flatMap_cons, List.length_append, ih, when, List.countP_cons, Nat.add_comm]
    split <;> rfl

theorem length_mapIdx_when {α : Type} (f : α → Bool) (g : Nat → α → Issue) (l : List α) :
    (l.mapIdx fun n a => when (f a) (g n a)).flatten.length = l.countP f := by
  induction l generalizing g with
  | nil => rfl
  | cons a l ih =>
    rw [List.mapIdx_cons, List.flatten_cons, List.length_append, ih fun n => g (n + 1), when,
      List.countP_cons, Nat.add_comm]
    split <;> rfl

theorem code_of_mem_attributeErrors : ∀ j ∈ attributeErrors path i, j.code = .emptyNamedValue := by
  intro j hj
  obtain ⟨b, -, hb⟩ := List.mem_flatMap.1 hj
  exact (code_of_mem_when hb).2

theorem code_of_mem_headerErrors : ∀ j ∈ headerErrors path i, j.code = .emptyNamedValue := by
  intro j hj
  unfold headerErrors at hj
  split at hj
  · obtain ⟨is, his, hj⟩ := List.mem_flatten.1 hj
    obtain ⟨n, hn, rfl⟩ := List.mem_mapIdx.1 his
    exact (code_of_mem_when hj).2
  · simp at hj

/-! ### References -/

theorem isBlankAttribute_eq (v : AttributeValue) :
    isBlankAttribute v =
      ((v.namedValue?.map some).map fun name => !isVisible name).getD false := by
  cases v <;> simp [isBlankAttribute, AttributeValue.namedValue?, isVisible]

theorem isBlankReference_eq (fields : Fields) :
    isBlankReference fields = !isVisible ((fields.get? "name").bind Json.text?) := by
  rw [isBlankReference]
  cases (fields.get? "name").bind Json.text? <;> simp [isVisible]

theorem isBlankHeader_eq (h : SendRequestHeader) :
    isBlankHeader h = ((h.value.object?.map fun fields => (fields.get? "name").bind Json.text?).map
      fun name => !isVisible name).getD false := by
  rw [isBlankHeader]
  cases h.value.object? with
  | none => rfl
  | some fields => exact isBlankReference_eq fields

theorem length_referenceErrors (path : Path) (i : CatalogItem) :
    (attributeErrors path i ++ headerErrors path i).length =
      i.referenceNames.countP fun name => !isVisible name := by
  rw [List.length_append, CatalogItem.referenceNames, List.countP_append, List.countP_filterMap]
  congr 1
  · rw [attributeErrors, length_flatMap_when]
    exact List.countP_congr fun b _ => by rw [isBlankAttribute_eq]
  · unfold headerErrors
    split
    · rw [length_mapIdx_when, List.countP_filterMap]
      exact List.countP_congr fun h _ => by rw [isBlankHeader_eq]
    · rfl

/-! ### Items -/

theorem countP_referenceErrors (path : Path) (i : CatalogItem) (code : IssueCode) :
    (attributeErrors path i ++ headerErrors path i).countP (·.code = code) =
      if .emptyNamedValue = code then i.referenceNames.countP (fun name => !isVisible name)
      else 0 := by
  rw [countP_code_of_forall .emptyNamedValue, length_referenceErrors]
  exact List.forall_mem_append.2 ⟨code_of_mem_attributeErrors, code_of_mem_headerErrors⟩

theorem missingParameters_eq (e : Entry) (i : CatalogItem) :
    missingParameters e i = e.parameters.filter fun q => q.required ∧ ¬ i.Gives e q.name := by
  rw [missingParameters, Entry.requiredParameters, List.filter_filter]
  refine List.filter_congr fun q _ => ?_
  rw [Bool.eq_iff_iff]
  simp [← hasParameter_iff, and_comm]

theorem countP_entryErrors (e : Entry) (kind : SectionKind) (path : Path) (i : CatalogItem)
    (code : IssueCode) :
    (entryErrors e kind path i).countP (·.code = code) =
      (if .invalidSection = code then (if kind ∈ e.sections then 0 else 1) else 0) +
      if .missingRequiredParameter = code then (missingParameters e i).length else 0 := by
  rw [entryErrors, List.countP_append]
  congr 1
  · rw [countP_code_of_forall _ fun j hj => (code_of_mem_when hj).2]
    by_cases hkind : kind ∈ e.sections <;> simp [when, issue, Entry.supportsSection, hkind]
  · rw [countP_code_of_forall .missingRequiredParameter, List.length_map]
    intro j hj
    obtain ⟨q, -, rfl⟩ := List.mem_map.1 hj
    rfl

theorem countP_itemErrors (catalog : Catalog) (p : PlacedItem) (code : IssueCode) :
    (itemErrors catalog p).countP (·.code = code) = offences catalog [(p.kind, p.item)] code := by
  unfold itemErrors
  cases hitem : p.item with
  | catalog i =>
    rw [List.countP_append, countP_referenceErrors]
    cases hentry : catalog.get? i.policyId with
    | some e =>
      dsimp only
      rw [countP_entryErrors, missingParameters_eq]
      cases code <;>
        simp [offences, policiesOf, fragmentsOf, Item.catalog?, Item.fragmentId?, lacking, hentry]
    | none =>
      cases code <;>
        simp [offences, policiesOf, fragmentsOf, Item.catalog?, Item.fragmentId?, lacking, hentry,
          issue]
  | fragment i =>
    cases hblank : isBlankText i.fragmentId <;> cases code <;>
      simp [offences, policiesOf, fragmentsOf, Item.catalog?, Item.fragmentId?, when, issue, hblank]
  | customXml i => cases code <;> rfl
  | expression i => cases code <;> rfl

/-- The errors of a model are its offences, code by code. -/
theorem countP_errors (catalog : Catalog) (m : Model) (code : IssueCode) :
    (errors catalog m).countP (·.code = code) = offences catalog m.items code := by
  rw [errors, items_eq_map_placedItems]
  induction m.placedItems with
  | nil => cases code <;> rfl
  | cons p ps ih =>
    rw [List.flatMap_cons, List.countP_append, ih, countP_itemErrors, ← offences_append]
    rfl

/-! ## Validity -/

theorem errors_eq_nil_iff (catalog : Catalog) (m : Model) :
    errors catalog m = [] ↔ ∀ code, offences catalog m.items code = 0 := by
  constructor
  · intro h code
    rw [← countP_errors, h, List.countP_nil]
  · intro h
    refine List.eq_nil_iff_forall_not_mem.2 fun j hj => ?_
    have hcount := h j.code
    rw [← countP_errors, List.countP_eq_zero] at hcount
    exact hcount j hj (by simp)

theorem lacking_eq_nil_iff : lacking catalog i = [] ↔
    ∀ e, catalog.get? i.policyId = some e → ∀ q ∈ e.parameters, q.required = true →
      i.Gives e q.name := by
  simp [lacking]

theorem isVisible_iff {o : Option String} :
    isVisible o = true ↔ ∃ name, o = some name ∧ isBlankText name = false := by
  simp [isVisible, Option.any_eq_true]

theorem eq_text_of_text? {v : Json} {s : String} (h : v.text? = some s) : v = .text s := by
  cases v <;> simp_all [Json.text?]

theorem eq_object_of_object? {v : Json} {fields : Fields} (h : v.object? = some fields) :
    v = .object fields := by
  cases v <;> simp_all [Json.object?]

theorem forall_attributeNames_iff {bs : List (String × AttributeValue)} :
    (∀ o ∈ bs.filterMap fun (_, v) => v.namedValue?.map some, isVisible o = true) ↔
      ∀ key r, (key, AttributeValue.namedValue r) ∈ bs → isBlankText r.name = false := by
  constructor
  · intro hvisible key r hr
    have hname := hvisible (some r.name) (List.mem_filterMap.2 ⟨_, hr, rfl⟩)
    simpa [isVisible] using hname
  · intro hnames o ho
    obtain ⟨⟨key, v⟩, hv, ho⟩ := List.mem_filterMap.1 ho
    cases v with
    | literal s => simp [AttributeValue.namedValue?] at ho
    | namedValue r =>
      obtain rfl := Option.some.inj ho
      exact isVisible_iff.2 ⟨r.name, rfl, hnames key r hv⟩

theorem forall_headerNames_iff {hs : List SendRequestHeader} :
    (∀ o ∈ hs.filterMap fun h =>
      h.value.object?.map fun fields => (fields.get? "name").bind Json.text?,
      isVisible o = true) ↔
    ∀ h ∈ hs, ∀ fields : Fields, h.value = .object fields →
      ∃ name, fields.get? "name" = some (.text name) ∧ isBlankText name = false := by
  constructor
  · intro hvisible h hh fields hfields
    have hname := hvisible ((fields.get? "name").bind Json.text?)
      (List.mem_filterMap.2 ⟨h, hh, by rw [hfields]; rfl⟩)
    obtain ⟨name, hname, hblank⟩ := isVisible_iff.1 hname
    obtain ⟨v, hv, htext⟩ := Option.bind_eq_some_iff.1 hname
    exact ⟨name, by rw [hv, eq_text_of_text? htext], hblank⟩
  · intro hnames o ho
    obtain ⟨h, hh, ho⟩ := List.mem_filterMap.1 ho
    obtain ⟨fields, hfields, rfl⟩ := Option.map_eq_some_iff.1 ho
    obtain ⟨name, hname, hblank⟩ := hnames h hh fields (eq_object_of_object? hfields)
    exact isVisible_iff.2 ⟨name, by rw [hname]; rfl, hblank⟩

/-- The names of all references of an item are visible. -/
theorem forall_referenceNames_iff : (∀ o ∈ i.referenceNames, isVisible o = true) ↔
    (∀ key r, (key, AttributeValue.namedValue r) ∈ i.attributes.entries →
      isBlankText r.name = false) ∧
    (i.policyId = SendRequest.policyId →
      ∀ h ∈ (SendRequest.ofConfiguration i.configuration).headers, ∀ fields : Fields,
        h.value = .object fields →
          ∃ name, fields.get? "name" = some (.text name) ∧ isBlankText name = false) := by
  rw [CatalogItem.referenceNames, List.forall_mem_append, forall_attributeNames_iff]
  refine and_congr_right fun _ => ?_
  -- Only requests to other services have headers.
  by_cases hpolicy : i.policyId = SendRequest.policyId
  · rw [if_pos hpolicy, forall_headerNames_iff]
    exact ⟨fun h _ => h, fun h => h hpolicy⟩
  · simp [hpolicy]

/-- Only codes of errors are codes of offences. -/
theorem mem_errors_of_offences_ne_zero (catalog : Catalog) (items : List (SectionKind × Item))
    (h : offences catalog items code ≠ 0) : code ∈ IssueCode.errors := by
  cases code <;> simp_all [offences, IssueCode.errors]

theorem isValid_iff (catalog : Catalog) (m : Model) :
    m.IsValid catalog ↔ ∀ code, offences catalog m.items code = 0 := by
  constructor
  · intro h code
    cases code with
    | unknownPolicy =>
      refine List.countP_eq_zero.2 fun p hp => ?_
      obtain ⟨e, he⟩ := h.known p hp
      simp [he]
    | invalidSection =>
      refine List.countP_eq_zero.2 fun p hp => ?_
      cases he : catalog.get? p.2.policyId with
      | none => simp
      | some e => simpa using h.placed p hp e he
    | missingRequiredParameter =>
      refine List.length_eq_zero_iff.2 (List.flatMap_eq_nil_iff.2 fun p hp => ?_)
      rw [lacking_eq_nil_iff.2 (h.complete p hp), List.map_nil]
    | emptyNamedValue =>
      refine List.countP_eq_zero.2 fun o ho => ?_
      obtain ⟨p, hp, ho⟩ := List.mem_flatMap.1 ho
      simp [forall_referenceNames_iff.2 ⟨h.attributes p hp, h.headers p hp⟩ o ho]
    | emptyFragmentId =>
      refine List.countP_eq_zero.2 fun id hid => ?_
      simp [h.fragments id hid]
    | _ => rfl
  · intro h
    have hunknown := List.countP_eq_zero.1 (h .unknownPolicy)
    have hsection := List.countP_eq_zero.1 (h .invalidSection)
    have hmissing := List.flatMap_eq_nil_iff.1 (List.length_eq_zero_iff.1
      (h .missingRequiredParameter))
    have hreference := List.countP_eq_zero.1 (h .emptyNamedValue)
    have hfragment := List.countP_eq_zero.1 (h .emptyFragmentId)
    have hnames (p) (hp : p ∈ policiesOf m.items) := forall_referenceNames_iff.1 fun o ho => by
      simpa using hreference o (List.mem_flatMap.2 ⟨p, hp, ho⟩)
    refine ⟨fun p hp => ?_, fun p hp e he => ?_, fun p hp => ?_, fun p hp => (hnames p hp).1,
      fun p hp => (hnames p hp).2, fun id hid => by simpa using hfragment id hid⟩
    · simpa [Option.isNone_iff_eq_none, Option.ne_none_iff_exists'] using hunknown p hp
    · simpa [he] using hsection p hp
    · exact lacking_eq_nil_iff.1 (List.map_eq_nil_iff.1 (hmissing p hp))

end Offences

/-- A model is valid exactly if nothing is wrong with it, and its errors are counted by its
offences. -/
theorem validate_exact (catalog : Catalog) (m : Model) :
    ((m.validate catalog).valid = true ↔ m.IsValid catalog) ∧
      (∀ code, (m.validate catalog).errors.countP (·.code = code) =
        offences catalog m.items code) ∧
      (∀ i ∈ (m.validate catalog).errors, i.code ∈ IssueCode.errors) ∧
      ∀ i ∈ (m.validate catalog).warnings, i.code ∉ IssueCode.errors := by
  refine ⟨?_, countP_errors catalog m, ?_, ?_⟩
  · rw [isValid_iff, ← errors_eq_nil_iff]
    exact List.isEmpty_iff
  · intro i hi
    refine mem_errors_of_offences_ne_zero catalog m.items ?_
    rw [← countP_errors]
    exact Nat.ne_of_gt (List.countP_pos_iff.2 ⟨i, hi, by simp⟩)
  · intro i hi
    exact (warningCause_of_mem hi).notMem_errors

end GatewayPolicy
