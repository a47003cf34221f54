import GatewayPolicy.Wizard
/-!
# Patches compose

A patch says something about some fields of a model and nothing about the others. Scope and metadata
are replaced as a whole, an identifier may also be removed, and sections are replaced one by one. In
every place the last word counts, so two updates are one update by a single patch, and a list of
updates leaves in each place what was last put there.
-/

namespace GatewayPolicy

namespace Sections

variable {s t : Sections}

theorem ext_get? (h : ∀ kind, s.get? kind = t.get? kind) : s = t := by
  obtain ⟨inbound, backend, outbound, onError⟩ := s
  obtain rfl : inbound = t.inbound := h .inbound
  obtain rfl : backend = t.backend := h .backend
  obtain rfl : outbound = t.outbound := h .outbound
  obtain rfl : onError = t.onError := h .onError
  rfl

@[simp] theorem get?_merge (s t : Sections) (kind : SectionKind) :
    (s.merge t).get? kind = (t.get? kind).or (s.get? kind) := by
  cases kind <;> rfl

/-- The sections with the given section of each kind. -/
def ofKinds (f : SectionKind → Option Section) : Sections where
  inbound := f .inbound
  backend := f .backend
  outbound := f .outbound
  onError := f .onError

@[simp] theorem get?_ofKinds (f : SectionKind → Option Section) (kind : SectionKind) :
    (ofKinds f).get? kind = f kind := by
  cases kind <;> rfl

end Sections

namespace Wizard

variable {p q : Patch} {ps : List Patch} {m m' : Model} {s : State}

/-! ## Two patches -/

namespace Patch

/-- The section that the patch puts in. -/
def section? (p : Patch) (kind : SectionKind) : Option Section := p.sections.bind (·.get? kind)

/-- Both patches as one. Each field, and each of the four sections, is taken from the second patch if
that has it, and from the first one otherwise. -/
def followedBy (p q : Patch) : Patch where
  scope := q.scope.or p.scope
  apiId := q.apiId.or p.apiId
  operationId := q.operationId.or p.operationId
  sections :=
    match p.sections, q.sections with
    | none, none => none
    | _, _ => some (.ofKinds fun kind => (q.section? kind).or (p.section? kind))
  metadata := q.metadata.or p.metadata

@[simp] theorem section?_followedBy (p q : Patch) (kind : SectionKind) :
    (p.followedBy q).section? kind = (q.section? kind).or (p.section? kind) := by
  have hsections : (p.followedBy q).section? kind =
      (match p.sections, q.sections with
        | none, none => none
        | _, _ => some (Sections.ofKinds fun kind => (q.section? kind).or (p.section? kind))).bind
          (·.get? kind) := rfl
  rw [hsections]
  split
  · rename_i hp hq
    rw [section?, section?, hp, hq]
    rfl
  · rw [Option.bind_some, Sections.get?_ofKinds]

@[simp] theorem get?_sections_apply (p : Patch) (m : Model) (kind : SectionKind) :
    (p.apply m).sections.get? kind = (p.section? kind).or (m.sections.get? kind) := by
  rw [apply, section?]
  cases p.sections with
  | none => rfl
  | some t => exact Sections.get?_merge m.sections t kind

/-- Applying one patch after the other is applying both as one. -/
theorem apply_apply (p q : Patch) (m : Model) : q.apply (p.apply m) = (p.followedBy q).apply m := by
  have hsections : (q.apply (p.apply m)).sections = ((p.followedBy q).apply m).sections :=
    Sections.ext_get? fun kind => by simp [Option.or_assoc]
  have hscope : q.scope.getD (p.scope.getD m.scope) = (q.scope.or p.scope).getD m.scope :=
    Option.getD_or.symm
  have hapi : q.apiId.getD (p.apiId.getD m.apiId) = (q.apiId.or p.apiId).getD m.apiId :=
    Option.getD_or.symm
  have hoperation : q.operationId.getD (p.operationId.getD m.operationId) =
      (q.operationId.or p.operationId).getD m.operationId :=
    Option.getD_or.symm
  have hmetadata : q.metadata.or (p.metadata.or m.metadata) =
      (q.metadata.or p.metadata).or m.metadata :=
    Option.or_assoc.symm
  exact Model.mk.injEq .. ▸ ⟨hscope, hapi, hoperation, hsections, hmetadata⟩

/-- A patch has nothing to add to itself. -/
theorem followedBy_self (p : Patch) : p.followedBy p = p := by
  obtain ⟨scope, apiId, operationId, sections, metadata⟩ := p
  cases sections with
  | none => simp [followedBy]
  | some t =>
    have hkinds : Sections.ofKinds t.get? = t := Sections.ext_get? (Sections.get?_ofKinds t.get?)
    simp [followedBy, section?, hkinds]

end Patch

/-! ## Lists of patches -/

/-- What the last patch that says something about a field says about it. -/
def lastGiven {α : Type} (field : Patch → Option α) (ps : List Patch) : Option α :=
  ps.reverse.findSome? field

theorem lastGiven_cons {α : Type} (field : Patch → Option α) (p : Patch) (ps : List Patch) :
    lastGiven field (p :: ps) = (lastGiven field ps).or (field p) := by
  rw [lastGiven, lastGiven, List.reverse_cons, List.findSome?_append, List.findSome?_singleton]

/-- A part of a model into which every patch puts what it says about a field holds in the end what was
last put there. Saying nothing leaves the part alone, and the later word counts. -/
theorem foldl_apply_eq_lastGiven {α β : Type} {part : Model → β} {field : Patch → Option α}
    {put : Option α → β → β} (hnone : ∀ b, put none b = b)
    (hor : ∀ x y b, put (x.or y) b = put x (put y b))
    (h : ∀ p m, part (p.apply m) = put (field p) (part m)) (ps : List Patch) (m : Model) :
    part (ps.foldl (fun m p => p.apply m) m) = put (lastGiven field ps) (part m) := by
  induction ps generalizing m with
  | nil => exact (hnone (part m)).symm
  | cons p ps ih => rw [List.foldl_cons, ih, h, lastGiven_cons, hor]

/-- The model holds in each place what the patches last put there, and elsewhere what was there. -/
structure HoldsLastGiven (ps : List Patch) (m m' : Model) : Prop where
  /-- The scope is replaced. -/
  scope : m'.scope = (lastGiven Patch.scope ps).getD m.scope
  /-- An API may be removed. -/
  apiId : m'.apiId = (lastGiven Patch.apiId ps).getD m.apiId
  /-- An operation may be removed. -/
  operationId : m'.operationId = (lastGiven Patch.operationId ps).getD m.operationId
  /-- Sections are replaced one by one. -/
  sections : ∀ kind, m'.sections.get? kind =
    (lastGiven (·.section? kind) ps).or (m.sections.get? kind)
  /-- Metadata is replaced as a whole. -/
  metadata : m'.metadata = (lastGiven Patch.metadata ps).or m.metadata

theorem holdsLastGiven_foldl (ps : List Patch) (m : Model) :
    HoldsLastGiven ps m (ps.foldl (fun m p => p.apply m) m) := by
  have replaced {α : Type} (part : Model → α) {field : Patch → Option α}
      (h : ∀ p m, part (p.apply m) = (field p).getD (part m)) :
      part (ps.foldl (fun m p => p.apply m) m) = (lastGiven field ps).getD (part m) :=
    foldl_apply_eq_lastGiven (fun _ => rfl) (fun _ _ _ => Option.getD_or) h ps m
  have kept {α : Type} (part : Model → Option α) {field : Patch → Option α}
      (h : ∀ p m, part (p.apply m) = (field p).or (part m)) :
      part (ps.foldl (fun m p => p.apply m) m) = (lastGiven field ps).or (part m) :=
    foldl_apply_eq_lastGiven (fun _ => Option.none_or) (fun _ _ _ => Option.or_assoc) h ps m
  exact {
    scope := replaced Model.scope fun _ _ => rfl
    apiId := replaced Model.apiId fun _ _ => rfl
    operationId := replaced Model.operationId fun _ _ => rfl
    sections := fun kind => kept (·.sections.get? kind) fun p m =>
      p.get?_sections_apply m kind
    metadata := kept Model.metadata fun _ _ => rfl }

/-- No section goes away. -/
theorem HoldsLastGiven.isSome_section (h : HoldsLastGiven ps m m') {kind : SectionKind}
    (hkind : (m.sections.get? kind).isSome = true) : (m'.sections.get? kind).isSome = true := by
  rw [h.sections, Option.isSome_or, hkind, Bool.or_true]

/-! ## Updates -/

/-- Along a run of updates the model is patched, and the steps stay what they were. -/
theorem run_updates (s : State) (ps : List Patch) :
    (s.run (ps.map .update)).policyModel = ps.foldl (fun m p => p.apply m) s.policyModel ∧
      (s.run (ps.map .update)).currentStep = s.currentStep ∧
      (s.run (ps.map .update)).completedSteps = s.completedSteps := by
  induction ps generalizing s with
  | nil => exact ⟨rfl, rfl, rfl⟩
  | cons p ps ih => exact ih (s.update p)

theorem update_update_eq (s : State) (p q : Patch) :
    (s.update p).update q = s.update (p.followedBy q) := by
  have hmodel := Patch.apply_apply p q s.policyModel
  rw [State.update, State.update, State.update, hmodel]

/-- Two updates are one update, by the patch that takes each field from the second patch if that has
it; an update that is made again changes nothing. A list of updates leaves in each place what was
last put there, so it removes no section, and it does not touch the steps. -/
theorem update_update (s : State) :
    (∀ p q : Patch, (s.update p).update q = s.update (p.followedBy q)) ∧
    (∀ p : Patch, (s.update p).update p = s.update p) ∧
    ∀ ps : List Patch,
      HoldsLastGiven ps s.policyModel (s.run (ps.map .update)).policyModel ∧
      (∀ kind, (s.policyModel.sections.get? kind).isSome = true →
        ((s.run (ps.map .update)).policyModel.sections.get? kind).isSome = true) ∧
      (s.run (ps.map .update)).currentStep = s.currentStep ∧
      (s.run (ps.map .update)).completedSteps = s.completedSteps := by
  refine ⟨update_update_eq s, fun p => ?_, fun ps => ?_⟩
  · rw [update_update_eq, Patch.followedBy_self]
  · obtain ⟨hmodel, hstep, hcompleted⟩ := run_updates s ps
    have hholds := holdsLastGiven_foldl ps s.policyModel
    rw [hmodel]
    exact ⟨hholds, fun _ hkind => hholds.isSome_section hkind, hstep, hcompleted⟩

/-- A model of an operation that handles errors. -/
def handlingModel : Model where
  scope := .operation
  apiId := some "orders"
  operationId := some "get"
  sections := { onError := some { items := [.fragment ⟨"onError-0", 0, "log"⟩] } }

/-- A patch that removes the operation and adds an inbound section. -/
def wideningPatch : Patch where
  scope := some .api
  operationId := some none
  sections := some { inbound := some {} }

theorem update_update_handlingModel :
    let s := State.ofModel handlingModel
    let p : Patch := { apiId := some (some "items") }
    (s.update p).update wideningPatch = s.update (p.followedBy wideningPatch) ∧
      (s.policyModel.sections.get? .onError).isSome = true ∧
      ((s.run ([p, wideningPatch].map .update)).policyModel.sections.get? .onError).isSome = true := by
  intro s p
  obtain ⟨hcompose, -, hrun⟩ := update_update s
  have hkind : (s.policyModel.sections.get? .onError).isSome = true := rfl
  exact ⟨hcompose p wideningPatch, hkind, (hrun [p, wideningPatch]).2.1 .onError hkind⟩

end Wizard

end GatewayPolicy
