import GatewayPolicy.Validation
/-!
# Editing sessions

A wizard leads through the steps of editing a policy model. Its state is a plain value, and every
operation gives the next state. The step counts on past the last one, which means that the session
is finished; it stops counting at the largest index.

The result of the last validation is kept with the model and dropped by the next update, so whether
the model may be exported is always about the model at hand.

`Session` is the same for callers that keep a state and change it.
-/

namespace GatewayPolicy

namespace Wizard

/-! ## Steps -/

/-- A step of the wizard. -/
structure StepInfo where
  /-- The identifier. -/
  id : String
  /-- The place among the steps. -/
  order : Nat
  /-- The step cannot be left out. -/
  required : Bool
  /-- The title that is shown. -/
  title : String
  /-- What to do in the step. -/
  description : String
  deriving DecidableEq, Repr

/-- The steps in order. -/
def steps : List StepInfo :=
  [ ⟨"scope-selection", 0, true, "Scope", "Choose global, product, API or operation scope."⟩,
    ⟨"policy-detection", 1, false, "Existing policy",
      "Load a policy already stored or deployed for the scope."⟩,
    ⟨"section-selection", 2, true, "Sections", "Pick the pipeline sections to configure."⟩,
    ⟨"policy-selection", 3, true, "Policies", "Add policies from the catalog."⟩,
    ⟨"policy-configuration", 4, true, "Configuration", "Fill in policy parameters."⟩,
    ⟨"fragment-selection", 5, false, "Fragments", "Include reusable policy fragments."⟩,
    ⟨"named-values", 6, false, "Named values",
      "Reference gateway-managed secrets and settings."⟩,
    ⟨"external-calls", 7, false, "External calls", "Configure send-request calls."⟩,
    ⟨"advanced-custom", 8, false, "Advanced", "Add custom XML and inline expressions."⟩,
    ⟨"ordering", 9, false, "Ordering", "Arrange policies within each section."⟩,
    ⟨"validation", 10, true, "Validation", "Check the policy for errors."⟩,
    ⟨"review-export", 11, true, "Review and export", "Review the XML and export it."⟩ ]

/-- The step with the identifier. -/
def step? (id : String) : Option StepInfo := steps.find? (·.id == id)

/-- The identifiers of the steps that cannot be left out. -/
def requiredSteps : List String := (steps.filter (·.required)).map (·.id)

/-- One more than the largest index. -/
abbrev stepLimit : Nat := 18446744073709551616

/-- The index of a step, or of a place after the last one. -/
abbrev StepIndex := Fin stepLimit

/-- The first step. -/
def StepIndex.first : StepIndex := ⟨0, by decide⟩

/-- The next index; the largest one stays. -/
def StepIndex.next (i : StepIndex) : StepIndex :=
  if h : i.val + 1 < stepLimit then ⟨i.val + 1, h⟩ else i

/-- The previous index; the first one stays. -/
def StepIndex.previous (i : StepIndex) : StepIndex :=
  ⟨i.val - 1, Nat.lt_of_le_of_lt (Nat.sub_le _ _) i.isLt⟩

/-! ## Patches -/

/-- Fields of a model to replace; absent ones are left alone. An identifier can also be removed. -/
structure Patch where
  /-- The scope. -/
  scope : Option Scope := none
  /-- The API, or no API. -/
  apiId : Option (Option String) := none
  /-- The operation, or no operation. -/
  operationId : Option (Option String) := none
  /-- The sections. Sections that the patch lacks stay, so a patch removes none. -/
  sections : Option Sections := none
  /-- The metadata. -/
  metadata : Option Metadata := none

/-- Replaces the fields that the patch has. -/
def Patch.apply (p : Patch) (m : Model) : Model where
  scope := p.scope.getD m.scope
  apiId := p.apiId.getD m.apiId
  operationId := p.operationId.getD m.operationId
  sections := (p.sections.map m.sections.merge).getD m.sections
  metadata := p.metadata.or m.metadata

/-! ## States -/

/-- The state of an editing session. -/
structure State where
  /-- The step that is shown. -/
  currentStep : StepIndex
  /-- The model that is edited. -/
  policyModel : Model
  /-- The steps that were completed. -/
  completedSteps : NameSet
  /-- The result of the last validation, unless the model was changed since. -/
  validationResult : Option ValidationResult

namespace State

/-- The start of a session on a model. -/
def ofModel (m : Model) : State := ⟨.first, m, .empty, none⟩

/-- The start of a session on a new model. -/
def start (scope : Scope) (apiId operationId : Option String) : State :=
  .ofModel { scope, apiId, operationId }

/-- The start of a session that nobody asked for. It stands in for a state that is being changed. -/
def blank : State := .start .global none none

/-- Changes the model; the result of the last validation no longer holds. -/
def update (s : State) (p : Patch) : State :=
  { s with policyModel := p.apply s.policyModel, validationResult := none }

/-- Goes one step on. -/
def next (s : State) : State := { s with currentStep := s.currentStep.next }

/-- Goes one step back. -/
def previous (s : State) : State := { s with currentStep := s.currentStep.previous }

/-- Goes to a step. -/
def goTo (s : State) (i : StepIndex) : State := { s with currentStep := i }

/-- Notes that a step was completed. -/
def complete (s : State) (id : String) : State :=
  { s with completedSteps := s.completedSteps.add id }

/-- Validates the model and keeps the result. -/
def validate (s : State) : State := { s with validationResult := some s.policyModel.validate }

/-- The document of the model. -/
def toXml (s : State) : String := s.policyModel.toXml

/-- The step that is shown, unless the session is finished. -/
def current? (s : State) : Option StepInfo := steps[s.currentStep.val]?

/-- All steps are behind. -/
def isFinished (s : State) : Bool := steps.length ≤ s.currentStep.val

/-- The step was completed. -/
def isCompleted (s : State) (id : String) : Bool := s.completedSteps.contains id

/-- How many of the steps that cannot be left out were completed. -/
def completedRequired (s : State) : Nat := (requiredSteps.filter s.isCompleted).length

/-- The part of those steps that was completed, between zero and one. -/
def progress (s : State) : Binary64 :=
  (Binary64.ofRatio? false s.completedRequired requiredSteps.length).getD (.zero false)

/-- The last validation found no errors, and the model was not changed since. -/
def canExport (s : State) : Bool := s.validationResult.any (·.valid)

end State

/-- What can be done in a session. -/
inductive Operation where
  /-- Change the model. -/
  | update (patch : Patch)
  /-- Go one step on. -/
  | next
  /-- Go one step back. -/
  | previous
  /-- Go to a step. -/
  | goTo (index : StepIndex)
  /-- Note that a step was completed. -/
  | complete (id : String)
  /-- Validate the model. -/
  | validate

/-- The state after an operation. -/
def State.apply (s : State) : Operation → State
  | .update p => s.update p
  | .next => s.next
  | .previous => s.previous
  | .goTo i => s.goTo i
  | .complete id => s.complete id
  | .validate => s.validate

/-- The state after a list of operations. -/
def State.run (s : State) (ops : List Operation) : State := ops.foldl State.apply s

/-! ## Sessions -/

/-- A computation on the state of a session. -/
abbrev Session := StateM State

namespace Session

/-- Takes the state out of the session, which is left with a blank one. -/
def take : Session State := modifyGet fun s => (s, .blank)

/-- Takes the state out and puts back what it becomes. -/
def transition (f : State → State) : Session Unit := do
  let s ← take
  set (f s)

/-- Changes the model. -/
def update (p : Patch) : Session Unit := transition (·.update p)

/-- Goes one step on. -/
def next : Session Unit := transition State.next

/-- Goes one step back. -/
def previous : Session Unit := transition State.previous

/-- Goes to a step. -/
def goTo (i : StepIndex) : Session Unit := transition (·.goTo i)

/-- Notes that a step was completed. -/
def complete (id : String) : Session Unit := transition (·.complete id)

/-- Validates the model, keeps the result and gives it back. -/
def validate : Session ValidationResult := do
  let result := (← get).policyModel.validate
  modify fun s => { s with validationResult := some result }
  return result

/-- The model. -/
def model : Session Model := return (← get).policyModel

/-- The document of the model. -/
def toXml : Session String := return (← get).toXml

/-- Does an operation. -/
def perform : Operation → Session Unit
  | .update p => update p
  | .next => next
  | .previous => previous
  | .goTo i => goTo i
  | .complete id => complete id
  | .validate => discard validate

end Session

/-! ## Interchange -/

open Json Source

/-- The step as a JSON value. -/
def StepInfo.toJson (s : StepInfo) : Json :=
  .object [("id", .text s.id), ("order", .nat s.order), ("required", .bool s.required),
    ("title", .text s.title), ("description", .text s.description)]

/-- The patch as a JSON value; an identifier that is to be removed is `null`. -/
def Patch.toJson (p : Patch) : Json :=
  .object (field? "scope" (p.scope.map fun s => .text s.name) ++
    field? "apiId" (p.apiId.map ofText?) ++
    field? "operationId" (p.operationId.map ofText?) ++
    field? "sections" (p.sections.map Sections.toJson) ++
    field? "metadata" (p.metadata.map Metadata.toJson))

/-- Reads a patch. -/
def Patch.read? {σ κ : Type} [FreeSource σ κ] [FreeForm κ] (v : σ) : Option Patch := do
  let fields ← Source.fields? false ["scope", "apiId", "operationId", "sections", "metadata"] v
  let scope ← optional fields "scope" Scope.read?
  let apiId ← threeWay fields "apiId" Source.text?
  let operationId ← threeWay fields "operationId" Source.text?
  let sections ← optional fields "sections" Sections.read?
  let metadata ← optional fields "metadata" Metadata.read?
  return { scope, apiId, operationId, sections, metadata }

/-- The state as a JSON value. -/
def State.toJson (s : State) : Json :=
  .object ([("currentStep", .nat s.currentStep.val), ("policyModel", s.policyModel.toJson),
    ("completedSteps", .texts s.completedSteps.keys)] ++
    field? "validationResult" (s.validationResult.map ValidationResult.toJson))

/-- Reads the index of a step. -/
def StepIndex.read? {σ : Type} [Source σ] (v : σ) : Option StepIndex :=
  (nat64? v).bind fun n => if h : n < stepLimit then some ⟨n, h⟩ else none

/-- Reads a state. -/
def State.read? {σ κ : Type} [FreeSource σ κ] [FreeForm κ] (v : σ) : Option State := do
  let fields ← Source.fields? false
    ["currentStep", "policyModel", "completedSteps", "validationResult"] v
  let currentStep ← required fields "currentStep" StepIndex.read?
  let policyModel ← required fields "policyModel" Model.read?
  let completedSteps ← withDefault fields "completedSteps" .empty fun v =>
    (listOf? Source.text? v).map NameSet.ofNames
  let validationResult ← optional fields "validationResult" ValidationResult.read?
  return ⟨currentStep, policyModel, completedSteps, validationResult⟩

end Wizard

end GatewayPolicy
