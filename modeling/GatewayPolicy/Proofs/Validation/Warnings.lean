import GatewayPolicy.Validation
/-!
# What a warning says

Every warning has a cause in the model: `WarningCause` lists the causes code by code, and the main
statement is that a warning never comes without one. None of the causes makes a model invalid.
-/

namespace GatewayPolicy

open Json Text Validation

/-- The codes of errors; all others are codes of warnings. -/
def IssueCode.errors : List IssueCode :=
  [unknownPolicy, invalidSection, missingRequiredParameter, emptyNamedValue, emptyFragmentId]

variable {catalog : Catalog} {m : Model} {scope : Scope} {j i : Issue}

theorem items_eq_map_placedItems (m : Model) :
    m.items = m.placedItems.map fun p => (p.kind, p.item) := by
  rw [Model.items, Model.placedItems, List.map_flatMap]
  congr 1
  funext p
  refine List.ext_getElem? fun n => ?_
  simp [Function.comp_def]

theorem mem_present_iff {s : Sections} {kind : SectionKind} {t : Section} :
    (kind, t) ∈ s.present ↔ s.get? kind = some t := by
  have hall : kind ∈ SectionKind.all := by
    cases kind <;> decide
  simp only [Sections.present, List.mem_filterMap, Option.map_eq_some_iff]
  constructor
  · rintro ⟨kind', -, t', ht, heq⟩
    obtain ⟨rfl, rfl⟩ := Prod.mk.inj heq
    exact ht
  · intro ht
    exact ⟨kind, hall, t, ht, rfl⟩

/-- What the present sections give, kind by kind. -/
theorem flatMap_present {α : Type} (s : Sections) (f : SectionKind × Section → List α) :
    s.present.flatMap f =
      SectionKind.all.flatMap fun kind => ((s.get? kind).map fun x => f (kind, x)).getD [] := by
  rw [Sections.present]
  induction SectionKind.all with
  | nil => rfl
  | cons kind kinds ih =>
    rw [List.flatMap_cons, ← ih]
    cases hs : s.get? kind with
    | none => rw [List.filterMap_cons_none (by rw [hs]; rfl)]; rfl
    | some x => rw [List.filterMap_cons_some (by rw [hs]; rfl)]; rfl

theorem eq_of_mem_when {b : Bool} (h : j ∈ when b i) : b = true ∧ j = i := by
  rw [when] at h
  split at h
  · rename_i hb
    exact ⟨hb, List.mem_singleton.1 h⟩
  · simp at h

theorem code_of_mem_when {b : Bool} (h : j ∈ when b i) : b = true ∧ j.code = i.code :=
  (eq_of_mem_when h).imp_right (congrArg Issue.code)

/-- What it takes for a warning with the code. -/
inductive WarningCause (m : Model) : IssueCode → Prop where
  /-- The scope is one of an API. -/
  | missingApi (h : m.scope.requiresApi = true) : WarningCause m .scopeMissingApiId
  /-- The scope is one of an operation. -/
  | missingOperation (h : m.scope.allowsOperation = true) : WarningCause m .scopeMissingOperationId
  /-- There is an operation, and the scope is none of an operation. -/
  | unexpectedOperation (h : m.scope.allowsOperation = false) (hid : m.operationId.isSome = true) :
    WarningCause m .scopeUnexpectedOperationId
  /-- There is a policy. -/
  | policy {code : IssueCode} {kind : SectionKind} {i : CatalogItem}
    (h : (kind, .catalog i) ∈ m.items)
    (hcode : code = .unsupportedScope ∨ code = .parameterTypeMismatch ∨
      code = .parameterInvalidEnum) : WarningCause m code
  /-- There is a blank raw item. -/
  | emptyCustomXml {kind : SectionKind} {i : CustomXmlItem} (h : (kind, .customXml i) ∈ m.items)
    (hblank : isBlankText i.xml = true) : WarningCause m .emptyCustomXml
  /-- There is an expression to be placed, without a place. -/
  | missingTarget {kind : SectionKind} {i : ExpressionItem} (h : (kind, .expression i) ∈ m.items)
    (hlacks : lacksTarget i = true) : WarningCause m .expressionTargetMissing
  /-- Two items have one identifier. -/
  | duplicateId (h : ¬ (m.items.map fun x => x.2.id).Nodup) : WarningCause m .duplicateItemId
  /-- There may be two assignments to one variable. -/
  | duplicateVariable : WarningCause m .duplicateVariableName

/-- No cause of a warning makes a model invalid. -/
theorem WarningCause.notMem_errors {code : IssueCode} (h : WarningCause m code) :
    code ∉ IssueCode.errors := by
  cases h with
  | policy _ hcode => rcases hcode with rfl | rfl | rfl <;> decide
  | _ => decide

theorem warningCause_of_mem_scopeWarnings (h : j ∈ scopeWarnings m) : WarningCause m j.code := by
  rcases List.mem_append.1 h with h | h
  · obtain ⟨hb, hcode⟩ := code_of_mem_when h
    rw [hcode]
    exact .missingApi (Bool.and_eq_true_iff.1 hb).1
  · split at h
    · rename_i hscope
      rw [(code_of_mem_when h).2]
      exact .missingOperation hscope
    · rename_i hscope
      obtain ⟨hid, hcode⟩ := code_of_mem_when h
      rw [hcode]
      exact .unexpectedOperation (by simpa using hscope) hid

theorem code_of_mem_entryWarnings {e : Entry} {path : Path} {c : CatalogItem}
    (h : j ∈ entryWarnings e scope path c) :
    j.code = .unsupportedScope ∨ j.code = .parameterTypeMismatch ∨
      j.code = .parameterInvalidEnum := by
  rcases List.mem_append.1 h with h | h
  · exact .inl (code_of_mem_when h).2
  · obtain ⟨⟨key, v⟩, -, hv⟩ := List.mem_filterMap.1 h
    obtain ⟨mismatch, -, rfl⟩ := Option.map_eq_some_iff.1 hv
    cases mismatch with
    | wrongType => exact .inr (.inl rfl)
    | notAllowed => exact .inr (.inr rfl)

theorem warningCause_of_mem_itemWarnings {p : PlacedItem} (hp : (p.kind, p.item) ∈ m.items)
    (h : j ∈ itemWarnings catalog scope p) : WarningCause m j.code := by
  unfold itemWarnings at h
  split at h
  · rename_i c hitem
    rw [hitem] at hp
    split at h
    · exact .policy hp (code_of_mem_entryWarnings h)
    · simp at h
  · simp at h
  · rename_i c hitem
    rw [hitem] at hp
    obtain ⟨hblank, hcode⟩ := code_of_mem_when h
    rw [hcode]
    exact .emptyCustomXml hp hblank
  · rename_i c hitem
    rw [hitem] at hp
    obtain ⟨hlacks, hcode⟩ := code_of_mem_when h
    rw [hcode]
    exact .missingTarget hp hlacks

theorem code_of_mem_duplicateIdWarnings {before : List String} {ps : List PlacedItem}
    (h : j ∈ duplicateIdWarnings before ps) : j.code = .duplicateItemId := by
  induction ps generalizing before with
  | nil => simp [duplicateIdWarnings] at h
  | cons p ps ih =>
    rcases List.mem_append.1 h with h | h
    · exact (code_of_mem_when h).2
    · exact ih h

/-- Items with identifiers of their own are no duplicates. -/
theorem duplicateIdWarnings_eq_nil {before : List String} {ps : List PlacedItem}
    (h : (before ++ ps.map fun p => p.item.id).Nodup) : duplicateIdWarnings before ps = [] := by
  induction ps generalizing before with
  | nil => rfl
  | cons p ps ih =>
    rw [List.map_cons] at h
    have hcount : before.count p.item.id = 0 := by
      refine List.count_eq_zero.2 fun hmem => ?_
      exact (List.nodup_append.1 h).2.2 _ hmem _ List.mem_cons_self rfl
    have hmiddle : (p.item.id :: before ++ ps.map fun p => p.item.id).Nodup :=
      List.perm_middle.nodup_iff.1 h
    rw [duplicateIdWarnings, ih hmiddle, hcount]
    rfl

theorem code_of_mem_variableWarnings (h : j ∈ variableWarnings m) :
    j.code = .duplicateVariableName := by
  obtain ⟨⟨name, paths⟩, -, hj⟩ := List.mem_filterMap.1 h
  dsimp only [variableWarning?] at hj
  split at hj
  · rw [← Option.some.inj hj]
    rfl
  · simp at hj

/-- Every warning has a cause. -/
theorem warningCause_of_mem (h : j ∈ warnings catalog m) : WarningCause m j.code := by
  simp only [warnings, List.mem_append] at h
  rcases h with ((h | h) | h) | h
  · exact warningCause_of_mem_scopeWarnings h
  · obtain ⟨p, hp, h⟩ := List.mem_flatMap.1 h
    refine warningCause_of_mem_itemWarnings ?_ h
    rw [items_eq_map_placedItems]
    exact List.mem_map_of_mem hp
  · rw [code_of_mem_duplicateIdWarnings h]
    refine .duplicateId fun hnodup => ?_
    rw [items_eq_map_placedItems, List.map_map] at hnodup
    rw [duplicateIdWarnings_eq_nil (by exact hnodup)] at h
    simp at h
  · rw [code_of_mem_variableWarnings h]
    exact .duplicateVariable

end GatewayPolicy
