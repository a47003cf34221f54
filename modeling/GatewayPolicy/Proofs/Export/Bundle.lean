import GatewayPolicy.Export.Bundle
import GatewayPolicy.Proofs.Bindings
import GatewayPolicy.Proofs.Export.Resource
/-!
# Bundles are coherent

Everything in a bundle is about the model that it was made of: the document is the model's, the
digest and the resource are the document's, and the summary counts what the validation of the model
finds. There is a bundle unless the model had to be valid and is not, or its resource has no name;
the validation comes first, and both are refused as invalid input.
-/

namespace GatewayPolicy

variable {m : Model} {now : Timestamp} {options : Option ExportOptions} {requireValid : Bool}
  {e : Error} {b : Bundle}

/-! ## Summaries -/

/-- The summary tells how many findings of each sort there are, and their codes. -/
structure ValidationSummary.Summarizes (s : ValidationSummary) (r : ValidationResult) : Prop where
  valid_iff : s.valid = true ↔ s.errorCount = 0
  errorCount : s.errorCount = r.errors.length
  warningCount : s.warningCount = r.warnings.length
  codes : ∀ name, name ∈ s.codes.keys ↔ ∃ j ∈ r.issues, j.code.name = name

theorem valid_validate_iff {catalog : Catalog} :
    (m.validate catalog).valid = true ↔ (m.validate catalog).errors = [] :=
  List.isEmpty_iff

theorem summarizes_ofResult (m : Model) :
    (ValidationSummary.ofResult m.validate).Summarizes m.validate where
  valid_iff := by
    simp only [ValidationSummary.ofResult, valid_validate_iff, List.length_eq_zero_iff]
  errorCount := rfl
  warningCount := rfl
  codes name := by
    rw [ValidationSummary.ofResult, NameSet.mem_keys_ofNames, List.mem_map, ValidationResult.issues]

/-! ## What a bundle tells -/

/-- The parts of the bundle are about the model; there is a resource if there are options for it. -/
structure Bundle.Describes (b : Bundle) (m : Model) (options : Option ExportOptions) : Prop where
  xml : b.xml = m.toXml
  fingerprint : b.fingerprint = GatewayPolicy.fingerprint b.xml
  resource : Option.Rel (fun r o => r.Deploys m b.xml o) b.resource options
  scope : b.scope = m.scope
  apiId : b.apiId = m.apiId
  operationId : b.operationId = m.operationId
  metadata : b.metadata = m.metadata
  validation : b.validation.Summarizes m.validate

/-- Why there is no bundle. -/
inductive IsRefused (m : Model) (options : Option ExportOptions) (requireValid : Bool) :
    Error → Prop where
  /-- The model had to be valid and is not. -/
  | invalid (hvalid : requireValid = true) (herrors : m.validate.errors ≠ []) :
    IsRefused m options requireValid (Model.invalidError m.validate.errors)
  /-- The resource has no name. -/
  | unnamed {o : ExportOptions} {e : Error} (hvalid : requireValid = true → m.validate.errors = [])
    (ho : options = some o) (he : m.resourceName o = .error e) :
    IsRefused m options requireValid e

theorem IsRefused.exists_eq_validation (h : IsRefused m options requireValid e) :
    ∃ message, e = .validation message := by
  cases h with
  | invalid => exact ⟨_, rfl⟩
  | unnamed _ _ he =>
    obtain ⟨what, rfl⟩ := Model.exists_of_resourceName_eq_error he
    exact ⟨_, rfl⟩

/-! ## Making a bundle -/

theorem mapM_eq_error_iff {α β : Type} {x : Option α} {f : α → Except Error β} :
    x.mapM f = .error e ↔ ∃ a, x = some a ∧ f a = .error e := by
  cases x with
  | none => simp [pure, Except.pure]
  | some a => cases h : f a <;> simp [Functor.map, Except.map, h]

theorem mapM_eq_ok_iff {α β : Type} {x : Option α} {f : α → Except Error β} {y : Option β} :
    x.mapM f = .ok y ↔ Option.Rel (fun b a => f a = .ok b) y x := by
  cases x with
  | none => cases y <;> simp [pure, Except.pure]
  | some a => cases h : f a <;> cases y <;> simp [Functor.map, Except.map, h]

namespace Model

/-- The bundle of the model with the given resource. -/
def bundleWith (m : Model) (now : Timestamp) (resource : Option Resource) : Bundle where
  generatedAt := now
  scope := m.scope
  apiId := m.apiId
  operationId := m.operationId
  xml := m.toXml
  fingerprint := GatewayPolicy.fingerprint m.toXml
  resource := resource
  validation := .ofResult m.validate
  metadata := m.metadata

theorem bundle_of_invalid (hvalid : requireValid = true) (herrors : m.validate.errors ≠ []) :
    m.bundle now options requireValid = .error (invalidError m.validate.errors) := by
  have hinvalid : m.validate.valid = false := by
    rwa [← Bool.not_eq_true, valid_validate_iff]
  simp only [bundle, hvalid, hinvalid]
  rfl

theorem bundle_of_valid (h : requireValid = true → m.validate.errors = []) :
    m.bundle now options requireValid =
      (options.mapM (m.resource m.toXml)).map (m.bundleWith now) := by
  have hvalid : (requireValid && !m.validate.valid) = false := by
    cases requireValid with
    | false => rfl
    | true => simp [valid_validate_iff.2 (h rfl)]
  simp only [bundle, hvalid]
  cases options.mapM (m.resource m.toXml) <;> rfl

theorem bundle_eq_error_iff :
    m.bundle now options requireValid = .error e ↔ IsRefused m options requireValid e := by
  by_cases h : requireValid = true → m.validate.errors = []
  · rw [bundle_of_valid h]
    constructor
    · intro he
      cases hresource : options.mapM (m.resource m.toXml) with
      | ok r => simp [hresource, Except.map] at he
      | error e' =>
        obtain rfl : e' = e := by simpa [hresource, Except.map] using he
        obtain ⟨o, ho, he⟩ := mapM_eq_error_iff.1 hresource
        exact .unnamed h ho (resource_eq_error_iff.1 he)
    · intro he
      cases he with
      | invalid hvalid herrors => exact absurd (h hvalid) herrors
      | unnamed _ ho he =>
        rw [mapM_eq_error_iff.2 ⟨_, ho, resource_eq_error_iff.2 he⟩]
        rfl
  · obtain ⟨hvalid, herrors⟩ := Classical.not_imp.1 h
    rw [bundle_of_invalid hvalid herrors]
    constructor
    · rintro ⟨⟩
      exact .invalid hvalid herrors
    · intro he
      cases he with
      | invalid => rfl
      | unnamed hvalid' => exact absurd hvalid' h

/-- A bundle describes its model, which is valid if it has to be. -/
theorem describes_of_bundle (h : m.bundle now options requireValid = .ok b) :
    b.Describes m options ∧ b.generatedAt = now ∧
      (requireValid = true → m.validate.errors = []) := by
  by_cases hvalid : requireValid = true → m.validate.errors = []
  · rw [bundle_of_valid hvalid] at h
    cases hresource : options.mapM (m.resource m.toXml) with
    | error e => simp [hresource, Except.map] at h
    | ok r =>
      obtain rfl : m.bundleWith now r = b := by simpa [hresource, Except.map] using h
      have hdeploys : Option.Rel (fun r o => r.Deploys m m.toXml o) r options := by
        simpa only [resource_eq_ok_iff] using mapM_eq_ok_iff.1 hresource
      exact ⟨⟨rfl, rfl, hdeploys, rfl, rfl, rfl, rfl, summarizes_ofResult m⟩, rfl, hvalid⟩
  · obtain ⟨hrequired, herrors⟩ := Classical.not_imp.1 hvalid
    simp [bundle_of_invalid hrequired herrors] at h

/-- There is no bundle exactly if the model had to be valid and has errors, or its resource has no
name; the error is about the input then. A bundle describes the model in all its parts, and there
are no errors to count if the model had to be valid. -/
theorem bundle_coherent (m : Model) (now : Timestamp) (options : Option ExportOptions)
    (requireValid : Bool) :
    ((∃ e, m.bundle now options requireValid = .error e) ↔
      (requireValid = true ∧ m.validate.errors ≠ []) ∨
        ∃ o, options = some o ∧ ∃ e, m.resourceName o = .error e) ∧
    (∀ e, m.bundle now options requireValid = .error e → ∃ message, e = .validation message) ∧
    ∀ b, m.bundle now options requireValid = .ok b →
      b.Describes m options ∧ b.generatedAt = now ∧
        (requireValid = true → b.validation.errorCount = 0) := by
  refine ⟨?_, fun e he => (bundle_eq_error_iff.1 he).exists_eq_validation, fun b hb => ?_⟩
  · simp only [bundle_eq_error_iff]
    constructor
    · rintro ⟨e, he⟩
      cases he with
      | invalid hvalid herrors => exact .inl ⟨hvalid, herrors⟩
      | unnamed _ ho he => exact .inr ⟨_, ho, e, he⟩
    · rintro (⟨hvalid, herrors⟩ | ⟨o, ho, e, he⟩)
      · exact ⟨_, .invalid hvalid herrors⟩
      · by_cases hvalid : requireValid = true → m.validate.errors = []
        · exact ⟨e, .unnamed hvalid ho he⟩
        · obtain ⟨hrequired, herrors⟩ := Classical.not_imp.1 hvalid
          exact ⟨_, .invalid hrequired herrors⟩
  · obtain ⟨hdescribes, hnow, hvalid⟩ := describes_of_bundle hb
    refine ⟨hdescribes, hnow, fun hrequired => ?_⟩
    rw [hdescribes.validation.errorCount, hvalid hrequired, List.length_nil]

end Model

end GatewayPolicy
