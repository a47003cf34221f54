import Mathlib.Data.List.Nodup
import GatewayPolicy.Proofs.Policy.ReadItems
import GatewayPolicy.Proofs.Validation.Errors
/-!
# Models that are read

A model that is read from a document is well-formed: its sections say whether the policies of the
enclosing scope are included, its items are numbered and named in order, and no reference is blank.
So validation finds nothing in it that only a model made by hand can have.
-/

namespace GatewayPolicy

open Json Text Xml Validation

variable {settings : Settings} {m : Model} {catalog : Catalog}

/-! ## Names of items -/

theorem key_notMem (kind : SectionKind) : '-' ∉ kind.key.toList := by
  cases kind <;> decide

theorem key_injective {kind kind' : SectionKind} (h : kind.key.toList = kind'.key.toList) :
    kind = kind' := by
  revert h
  cases kind <;> cases kind' <;> decide

theorem toString_injective {n n' : Nat} (h : (toString n).toList = (toString n').toList) :
    n = n' := by
  have hread := congrArg (Nat.ofDigitChars 10 · 0) h
  simpa [Nat.toString_eq_ofList_toDigits, Nat.ofDigitChars_toDigits] using hread

/-- A name tells the section and the number. -/
theorem itemId_injective {kind kind' : SectionKind} {n n' : Nat}
    (h : itemId kind n = itemId kind' n') : kind = kind' ∧ n = n' := by
  have htext (kind : SectionKind) (n : Nat) :
      (itemId kind n).toList = kind.key.toList ++ '-' :: (toString n).toList := by
    simp [itemId]
  have hlist := congrArg String.toList h
  rw [htext, htext] at hlist
  have htake (kind : SectionKind) (rest : List Char) :
      (kind.key.toList ++ '-' :: rest).takeWhile (· != '-') = kind.key.toList := by
    rw [List.takeWhile_append_of_pos fun c hc => by
      simpa using fun heq : c = '-' => key_notMem kind (heq ▸ hc)]
    simp
  have hkey : kind.key.toList = kind'.key.toList := by
    rw [← htake kind (toString n).toList, hlist, htake]
  refine ⟨key_injective hkey, toString_injective ?_⟩
  rw [hkey] at hlist
  exact List.cons.inj (List.append_cancel_left hlist) |>.2

/-! ## Sections of a model -/

/-- The codes of findings about parts of a model that no document gives. -/
def IssueCode.structural : List IssueCode :=
  [emptyFragmentId, emptyNamedValue, emptyCustomXml, expressionTargetMissing, duplicateItemId,
    scopeUnexpectedOperationId]

/-- What every model is that is read from a document. -/
structure IsReadModel (m : Model) : Prop where
  /-- Its sections are well-formed. -/
  sections : ∀ kind s, m.sections.get? kind = some s → IsReadSection kind s
  /-- It is about no operation. -/
  operationId : m.operationId = none

theorem isReadModel_of_ofXml {document : String} (h : Model.ofXml settings document = .ok m) :
    IsReadModel m := by
  obtain ⟨root, -, -, rfl⟩ := exists_root_of_ofXml h
  refine ⟨fun kind s hs => ?_, rfl⟩
  rw [get?_ofRoot] at hs
  obtain ⟨e, -, rfl⟩ := Option.map_eq_some_iff.1 hs
  exact isReadSection_readSection settings kind e

theorem mem_items_iff {kind : SectionKind} {i : Item} :
    (kind, i) ∈ m.items ↔ ∃ s, m.sections.get? kind = some s ∧ i ∈ s.items := by
  simp only [Model.items, List.mem_flatMap, List.mem_map]
  constructor
  · rintro ⟨⟨kind', s⟩, hs, i', hi, heq⟩
    obtain ⟨rfl, rfl⟩ := Prod.mk.inj heq
    exact ⟨s, mem_present_iff.1 hs, hi⟩
  · rintro ⟨s, hs, hi⟩
    exact ⟨(kind, s), mem_present_iff.2 hs, i, hi, rfl⟩

namespace IsReadModel

theorem item (h : IsReadModel m) {x : SectionKind × Item} (hx : x ∈ m.items) : IsReadItem x.2 := by
  obtain ⟨s, hs, hi⟩ := mem_items_iff.1 (show (x.1, x.2) ∈ m.items from hx)
  exact (h.sections x.1 s hs).items x.2 hi

theorem nodup_ids (h : IsReadModel m) : (m.items.map fun x => x.2.id).Nodup := by
  have hids : (m.items.map fun x => x.2.id) = m.sections.present.flatMap fun p =>
      (List.range p.2.items.length).map (itemId p.1) := by
    rw [Model.items, List.map_flatMap]
    refine List.flatMap_congr fun p hp => ?_
    obtain ⟨kind, -, hp⟩ := List.mem_filterMap.1 hp
    obtain ⟨s, hs, rfl⟩ := Option.map_eq_some_iff.1 hp
    rw [← (h.sections kind s hs).ids_eq, List.map_map]
    rfl
  rw [hids, List.nodup_flatMap]
  constructor
  · intro p _
    exact List.nodup_range.map fun n n' heq => (itemId_injective heq).2
  · have hkinds : SectionKind.all.Pairwise (· ≠ ·) := by decide
    refine List.Pairwise.filterMap _ (fun kind kind' hne p hp p' hp' => ?_) hkinds
    obtain ⟨s, -, rfl⟩ := Option.map_eq_some_iff.1 hp
    obtain ⟨s', -, rfl⟩ := Option.map_eq_some_iff.1 hp'
    intro id hid hid'
    obtain ⟨n, -, rfl⟩ := List.mem_map.1 hid
    obtain ⟨n', -, heq⟩ := List.mem_map.1 hid'
    exact hne (itemId_injective heq).1.symm

theorem policy (h : IsReadModel m) {p : SectionKind × CatalogItem} (hp : p ∈ policiesOf m.items) :
    IsReadItem (.catalog p.2) := by
  obtain ⟨⟨kind, i⟩, hi, hp⟩ := List.mem_filterMap.1 hp
  obtain ⟨c, hc, rfl⟩ := Option.map_eq_some_iff.1 hp
  cases i with
  | catalog i =>
    obtain rfl := Option.some.inj hc
    exact h.item hi
  | _ => simp [Item.catalog?] at hc

/-- All references to named values have names. -/
theorem offences_emptyNamedValue (h : IsReadModel m) (catalog : Catalog) :
    offences catalog m.items .emptyNamedValue = 0 := by
  refine List.countP_eq_zero.2 fun o ho => ?_
  obtain ⟨p, hp, ho⟩ := List.mem_flatMap.1 ho
  cases h.policy hp with
  | catalog hattributes hheaders =>
    simp [forall_referenceNames_iff.2 ⟨hattributes, hheaders⟩ o ho]

theorem offences_emptyFragmentId (h : IsReadModel m) (catalog : Catalog) :
    offences catalog m.items .emptyFragmentId = 0 := by
  refine List.countP_eq_zero.2 fun id hid => ?_
  obtain ⟨⟨kind, i⟩, hi, hid⟩ := List.mem_filterMap.1 hid
  cases h.item hi with
  | fragment _ hvisible =>
    obtain rfl := Option.some.inj hid
    simp [hvisible]
  | _ => simp [Item.fragmentId?] at hid

/-! ## Findings -/

/-- Nothing in the model causes a warning that only a model made by hand can have. -/
theorem notMem_of_warningCause (h : IsReadModel m) {code : IssueCode} (hcause : WarningCause m code) :
    code ∉ IssueCode.structural := by
  cases hcause with
  | policy _ hcode => rcases hcode with rfl | rfl | rfl <;> decide
  | unexpectedOperation _ hid => simp [h.operationId] at hid
  | emptyCustomXml hi hblank =>
    cases h.item hi with
    | customXml hvisible => simp [hvisible] at hblank
  | missingTarget hi hlacks =>
    cases h.item hi with
    | expression hcontext => simp [lacksTarget, hcontext] at hlacks
  | duplicateId hids => exact absurd h.nodup_ids hids
  | _ => decide

theorem notMem_of_mem_errors (h : IsReadModel m) {j : Issue} (hj : j ∈ errors catalog m) :
    j.code ∉ IssueCode.structural := by
  have hpos : offences catalog m.items j.code ≠ 0 := by
    rw [← countP_errors]
    exact Nat.ne_of_gt (List.countP_pos_iff.2 ⟨j, hj, by simp⟩)
  intro hmem
  have hcode := mem_errors_of_offences_ne_zero catalog m.items hpos
  obtain hcode | hcode : j.code = .emptyFragmentId ∨ j.code = .emptyNamedValue := by
    revert hmem hcode
    cases j.code <;> decide
  · exact hpos (hcode ▸ h.offences_emptyFragmentId catalog)
  · exact hpos (hcode ▸ h.offences_emptyNamedValue catalog)

end IsReadModel

/-- What is read from a document is numbered, named and free of blank references, and no validation
finds anything in it that only a model made by hand can have. -/
theorem clean_of_ofXml {document : String} (h : Model.ofXml settings document = .ok m) :
    (∀ kind s, m.sections.get? kind = some s →
      s.includeBase.isSome = true ∧
      (∀ (n : Nat) i, s.items[n]? = some i →
        i.order = n ∧ i.id = kind.key ++ "-" ++ toString n) ∧
      s.sortedItems = s.items) ∧
    (m.items.map fun x => x.2.id).Nodup ∧
    (∀ kind i, (kind, Item.fragment i) ∈ m.items →
      trim i.fragmentId = i.fragmentId ∧ isBlankText i.fragmentId = false) ∧
    (∀ kind i, (kind, Item.catalog i) ∈ m.items →
      ∀ key r, (key, AttributeValue.namedValue r) ∈ i.attributes.entries →
        isBlankText r.name = false) ∧
    ∀ (catalog : Catalog), ∀ j ∈ (m.validate catalog).issues, j.code ∉ IssueCode.structural := by
  have hm := isReadModel_of_ofXml h
  refine ⟨fun kind s hs => ?_, hm.nodup_ids, fun kind i hi => ?_, fun kind i hi => ?_,
    fun catalog j hj => ?_⟩
  · have hsection := hm.sections kind s hs
    exact ⟨hsection.includeBase, fun n i hi => (hsection.numbered n i hi).symm,
      hsection.sortedItems_eq⟩
  · cases hm.item hi with
    | fragment htrim hvisible => exact ⟨htrim, hvisible⟩
  · cases hm.item hi with
    | catalog hattributes _ => exact hattributes
  · rcases List.mem_append.1 hj with hj | hj
    · exact hm.notMem_of_mem_errors hj
    · exact hm.notMem_of_warningCause (warningCause_of_mem hj)

/-- A document with parts of several kinds in two sections. -/
def assortedDocument : String :=
  "<policies><inbound><include-fragment fragment-id=\" a \" />" ++
  "<cors key=\"\x7b\x7bt\x7d\x7d\" /><!--n--></inbound>" ++
  "<outbound>@(a)</outbound></policies>"

theorem clean_of_ofXml_assortedDocument :
    ∃ m, Model.ofXml {} assortedDocument = .ok m ∧ m.items.length = 4 ∧
      (m.items.map fun x => x.2.id).Nodup ∧
      ∀ (catalog : Catalog), ∀ j ∈ (m.validate catalog).issues,
        j.code ∉ IssueCode.structural := by
  have hread : ((Model.ofXml {} assortedDocument).toOption.map fun m => m.items.length) =
      some 4 := by
    decide +kernel
  cases h : Model.ofXml {} assortedDocument with
  | error e => simp [h, Except.toOption] at hread
  | ok m =>
    rw [h] at hread
    obtain ⟨-, hids, -, -, hissues⟩ := clean_of_ofXml h
    exact ⟨m, rfl, Option.some.inj hread, hids, hissues⟩

end GatewayPolicy
