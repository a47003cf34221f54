import GatewayPolicy.Proofs.Policy.Interchange
import GatewayPolicy.Wizard
/-!
# Interchange is lossless

Models, editing sessions and patches are read back from the JSON text that is written for them, in
either layout. A text has to stay within the limit for nesting, and numbers have to be integers of
64 bits; everything else is kept, also what is left out because it is absent.
-/

namespace GatewayPolicy

open Json Source Text

/-! ## Findings -/

namespace Issue

theorem toJson_eq (i : Issue) : i.toJson = .object (written
    [("path", some (.text i.path)), ("message", some (.text i.message)),
      ("code", some (.text i.code.name))]) :=
  rfl

theorem ofName?_name (c : IssueCode) : IssueCode.ofName? c.name = some c := by
  cases c <;> decide

theorem read?_toJson (i : Issue) : read? i.toJson = some i := by
  rw [read?, toJson_eq]
  refine Eq.trans (fields?_bind _ rfl (by decide)) ?_
  refine Eq.trans (required_bind (.text i.path) _ (by simp) rfl) ?_
  refine Eq.trans (required_bind (.text i.message) _ (by simp) rfl) ?_
  exact required_bind (.text i.code.name) _ (by simp) (ofName?_name i.code)

theorem isExact_toJson (i : Issue) : i.toJson.isExact = true := rfl

theorem agree_read? : Agree Issue.read? Issue.read? :=
  Agree.fields? fun fs gs h => by
    rw [Agree.text?.required "path" h, Agree.text?.required "message" h,
      (Agree.name?.bind IssueCode.ofName?).required "code" h]

end Issue

namespace ValidationResult

theorem toJson_eq (r : ValidationResult) : r.toJson = .object (written
    [("valid", some (.bool r.valid)), ("errors", some (.array (r.errors.map Issue.toJson))),
      ("warnings", some (.array (r.warnings.map Issue.toJson)))]) :=
  rfl

theorem read?_toJson (r : ValidationResult) : read? r.toJson = some r := by
  have hissues (is : List Issue) :
      Source.listOf? Issue.read? (Json.array (is.map Issue.toJson)) = some is :=
    listOf?_map Issue.toJson fun i _ => i.read?_toJson
  rw [read?, toJson_eq]
  refine Eq.trans (fields?_bind _ rfl (by decide)) ?_
  refine Eq.trans (required_bind (.bool r.valid) _ (by simp) rfl) ?_
  refine Eq.trans (required_bind _ _ (by simp) (hissues r.errors)) ?_
  exact required_bind _ _ (by simp) (hissues r.warnings)

theorem isExact_toJson (r : ValidationResult) : r.toJson.isExact = true := by
  have hissues (is : List Issue) : isExactItems (is.map Issue.toJson) = true := by
    rw [isExactItems_map, List.all_eq_true]
    exact fun i _ => i.isExact_toJson
  rw [toJson_eq]
  exact isExact_written (by simp [isExact, hissues])

theorem agree_read? : Agree ValidationResult.read? ValidationResult.read? :=
  Agree.fields? fun fs gs h => by
    rw [Agree.bool?.required "valid" h, Issue.agree_read?.listOf?.required "errors" h,
      Issue.agree_read?.listOf?.required "warnings" h]

end ValidationResult

namespace Wizard

/-! ## Patches -/

namespace Patch

variable {p : Patch}

theorem toJson_eq (p : Patch) : p.toJson = .object (written
    [("scope", p.scope.map fun s => .text s.name), ("apiId", p.apiId.map ofText?),
      ("operationId", p.operationId.map ofText?), ("sections", p.sections.map Sections.toJson),
      ("metadata", p.metadata.map Metadata.toJson)]) := by
  simp [toJson, written_cons, written_nil]

/-- A patch is read back; an identifier that it leaves alone is told from one that it removes. -/
theorem read?_toJson (h : ∀ s, p.sections = some s → s.IsExact) : read? p.toJson = some p := by
  rw [read?, toJson_eq]
  refine Eq.trans (fields?_bind _ rfl (by decide)) ?_
  refine Eq.trans (optional_bind p.scope _ _ (by simp) fun s _ => ⟨rfl, s.read?_name⟩) ?_
  refine Eq.trans (threeWay_bind p.apiId _ (by simp)) ?_
  refine Eq.trans (threeWay_bind p.operationId _ (by simp)) ?_
  refine Eq.trans (optional_bind p.sections _ _ (by simp)
    fun s hs => ⟨rfl, Sections.read?_toJson (h s hs)⟩) ?_
  exact optional_bind p.metadata _ _ (by simp) fun d _ => ⟨rfl, d.read?_toJson⟩

theorem isExact_toJson (h : ∀ s, p.sections = some s → s.IsExact) : p.toJson.isExact = true := by
  have hid (o : Option String) : (ofText? o).isExact = true := by cases o <;> rfl
  rw [toJson_eq]
  refine isExact_written ?_
  simp only [List.forall_mem_cons, List.not_mem_nil, false_implies, implies_true, and_true]
  exact ⟨fun _ => isExact_of_map fun _ _ => rfl, fun _ => isExact_of_map fun o _ => hid o,
    fun _ => isExact_of_map fun o _ => hid o,
    fun _ => isExact_of_map fun s hs => Sections.isExact_toJson (h s hs),
    fun _ => isExact_of_map fun d _ => d.isExact_toJson⟩

theorem agree_read? : Agree Patch.read? Patch.read? :=
  Agree.fields? fun fs gs h => by
    rw [Scope.agree_read?.optional "scope" h, Agree.text?.threeWay "apiId" h,
      Agree.text?.threeWay "operationId" h, Sections.agree_read?.optional "sections" h,
      Metadata.agree_read?.optional "metadata" h]

end Patch

/-! ## States -/

theorem StepIndex.fitsUnsigned64_val (i : StepIndex) : fitsUnsigned64 i.val = true := by
  have hlimit : stepLimit = maxUnsigned64 + 1 := rfl
  have hi := i.isLt
  simp only [fitsUnsigned64, Bool.and_eq_true, decide_eq_true_eq]
  omega

theorem StepIndex.read?_nat (i : StepIndex) : read? (Json.nat i.val) = some i := by
  change (((some (i.val : Int)).filter fitsUnsigned64).map Int.toNat).bind _ = some i
  rw [Option.filter_some, if_pos i.fitsUnsigned64_val]
  simp [i.isLt]

theorem StepIndex.agree_read? : Agree StepIndex.read? StepIndex.read? := Agree.nat64?.bind _

namespace State

variable {s : State}

theorem toJson_eq (s : State) : s.toJson = .object (written
    [("currentStep", some (.nat s.currentStep.val)), ("policyModel", some s.policyModel.toJson),
      ("completedSteps", some (.texts s.completedSteps.keys)),
      ("validationResult", s.validationResult.map ValidationResult.toJson)]) := by
  simp [toJson, written_cons, written_nil, field?_some]

theorem read?_toJson (h : s.policyModel.sections.IsExact) : read? s.toJson = some s := by
  rw [read?, toJson_eq]
  refine Eq.trans (fields?_bind _ rfl (by decide)) ?_
  refine Eq.trans (required_bind _ _ (by simp) s.currentStep.read?_nat) ?_
  refine Eq.trans (required_bind _ _ (by simp) (Model.read?_toJson h)) ?_
  refine Eq.trans (withDefault_bind s.completedSteps _ (by simp) fun v hv => ?_) ?_
  · obtain rfl : Json.texts s.completedSteps.keys = v := by simpa using hv
    have hnames : Source.listOf? Source.text? (Json.texts s.completedSteps.keys) =
        some s.completedSteps.keys :=
      listOf?_map .text fun _ _ => rfl
    rw [hnames, Option.map_some, NameSet.ofNames_keys]
  exact optional_bind s.validationResult _ _ (by simp) fun r _ => ⟨rfl, r.read?_toJson⟩

theorem isExact_toJson (h : s.policyModel.sections.IsExact) : s.toJson.isExact = true := by
  have hstep : (Json.nat s.currentStep.val).isExact = true := by
    rw [Json.nat, Json.int, isExact, Number.isExact, s.currentStep.fitsUnsigned64_val, Bool.or_true]
  have hnames : (Json.texts s.completedSteps.keys).isExact = true := Metadata.isExact_texts _
  rw [toJson_eq]
  refine isExact_written ?_
  simp [hstep, hnames, Model.isExact_toJson h, ValidationResult.isExact_toJson]

theorem agree_read? : Agree State.read? State.read? :=
  Agree.fields? fun fs gs h => by
    rw [StepIndex.agree_read?.required "currentStep" h, Model.agree_read?.required "policyModel" h,
      (Agree.text?.listOf?.map NameSet.ofNames).withDefault "completedSteps" h .empty,
      ValidationResult.agree_read?.optional "validationResult" h]

end State

end Wizard

/-! ## Texts -/

/-- A text that is written for an exact value within the limit is read as the value, in either
layout. -/
theorem readAs?_eq_of_layout {α : Type} {read : Nested → Option α} {read' : Json → Option α}
    (hagree : Agree read read') {layout : Json → String} (hlayout : layout ∈ [pretty, compact])
    {v : Json} (hexact : v.isExact = true) (hdepth : v.depth ≤ maxDepth) :
    readAs? read (layout v) = read' v := by
  refine hagree.readAs?_eq ?_ hdepth
  rcases List.mem_cons.1 hlayout with rfl | hlayout
  · exact read?_pretty hexact
  · obtain rfl := List.mem_singleton.1 hlayout
    exact read?_compact hexact

/-- Models, sessions and patches are read back as they were. -/
theorem interchange_lossless :
    (∀ m : Model, m.sections.IsExact → m.toJson.depth ≤ maxDepth →
      Model.ofJsonText m.toJsonText = .ok m) ∧
    (∀ s : Wizard.State, s.policyModel.sections.IsExact → s.toJson.depth ≤ maxDepth →
      ∀ layout ∈ [pretty, compact], readAs? Wizard.State.read? (layout s.toJson) = some s) ∧
    ∀ p : Wizard.Patch, (∀ s, p.sections = some s → s.IsExact) → p.toJson.depth ≤ maxDepth →
      ∀ layout ∈ [pretty, compact], readAs? Wizard.Patch.read? (layout p.toJson) = some p := by
  refine ⟨fun m h hdepth => ?_, fun s h hdepth layout hlayout => ?_,
    fun p h hdepth layout hlayout => ?_⟩
  · have hread := readAs?_eq_of_layout Model.agree_read? List.mem_cons_self
      (Model.isExact_toJson h) hdepth
    rw [Model.ofJsonText, Model.toJsonText, hread, Model.read?_toJson h]
  · rw [readAs?_eq_of_layout Wizard.State.agree_read? hlayout (Wizard.State.isExact_toJson h)
      hdepth, Wizard.State.read?_toJson h]
  · rw [readAs?_eq_of_layout Wizard.Patch.agree_read? hlayout (Wizard.Patch.isExact_toJson h)
      hdepth, Wizard.Patch.read?_toJson h]

/-- A policy with a nested configuration and a secret. -/
def nestedItem : CatalogItem where
  id := "i"
  order := -1
  policyId := "p"
  configuration := [("n", .int 18446744073709551615),
    ("o", .object [("a", .array [.null, .text "line\n\"\x01"])])]
  attributes := NameMap.empty.insert "key" (.namedValue ⟨"secret", some ⟨"vault", none⟩⟩)

/-- A model with the policy in one section and tags. -/
def nestedModel : Model where
  scope := .api
  apiId := some "a"
  sections := { inbound := some { items := [.catalog nestedItem] } }
  metadata := some { tags := ["t"] }

/-- A session on the model with a finding. -/
def nestedState : Wizard.State where
  currentStep := ⟨3, by decide⟩
  policyModel := nestedModel
  completedSteps := .ofNames ["ordering"]
  validationResult := some (.ofIssues [⟨"inbound.items[0]", "unknown", .unknownPolicy⟩] [])

/-- A patch that removes the API and leaves the operation alone. -/
def removalPatch : Wizard.Patch where
  apiId := some none
  sections := some nestedModel.sections

theorem interchange_lossless_nestedModel :
    (nestedModel.sections.IsExact ∧ nestedModel.toJson.depth ≤ maxDepth ∧
      nestedState.toJson.depth ≤ maxDepth ∧ removalPatch.toJson.depth ≤ maxDepth) ∧
    Model.ofJsonText nestedModel.toJsonText = .ok nestedModel ∧
    readAs? Wizard.State.read? nestedState.toJson.pretty = some nestedState ∧
    readAs? Wizard.Patch.read? removalPatch.toJson.compact = some removalPatch := by
  have hexact : nestedModel.sections.IsExact := by
    intro kind t ht i hi
    cases kind with
    | inbound =>
      obtain rfl := Option.some.inj ht
      obtain rfl := List.mem_singleton.1 hi
      refine ⟨by decide, fun c hc => ?_, fun c hc => ?_⟩
      · obtain rfl := Option.some.inj hc
        decide
      · obtain rfl := Option.some.inj hc
        decide
    | _ => simp [nestedModel, Sections.get?] at ht
  have hmodel : nestedModel.toJson.depth ≤ maxDepth := by decide +kernel
  have hstate : nestedState.toJson.depth ≤ maxDepth := by decide +kernel
  have hpatch : removalPatch.toJson.depth ≤ maxDepth := by decide +kernel
  obtain ⟨hmodels, hstates, hpatches⟩ := interchange_lossless
  refine ⟨⟨hexact, hmodel, hstate, hpatch⟩, hmodels nestedModel hexact hmodel,
    hstates nestedState hexact hstate pretty (by simp), hpatches removalPatch ?_ hpatch compact (by simp)⟩
  intro sections hsections
  obtain rfl := Option.some.inj hsections
  exact hexact

end GatewayPolicy
