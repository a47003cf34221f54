import GatewayPolicy.Wizard
/-!
# Kept results are never stale

The result of a validation that a session keeps is always about the model at hand: an update drops
it, validation renews it, and nothing else touches the model. This holds however operations on the
state itself and operations in a session are mixed, since both lead to the same state.
-/

namespace GatewayPolicy.Wizard

variable {s t : State} {op : Operation} {ops : List Operation} {b : Bool}

/-! ## Runs -/

/-- An operation leads to a state, if it is done on the state itself or in a session. -/
inductive LeadsTo (op : Operation) (s : State) : State → Prop where
  /-- It is done on the state itself. -/
  | value : LeadsTo op s (s.apply op)
  /-- It is done in a session. -/
  | session : LeadsTo op s ((Session.perform op).run s).2

/-- A list of operations leads to a state, each of them done in one way or the other. -/
inductive Run : List Operation → State → State → Prop where
  /-- Nothing is done. -/
  | nil {s : State} : Run [] s s
  /-- The first operation leads to a state from which the others go on. -/
  | cons {op : Operation} {ops : List Operation} {s t u : State} (step : LeadsTo op s t)
    (rest : Run ops t u) : Run (op :: ops) s u

/-- The start of a session. -/
inductive IsStart : State → Prop where
  /-- A session on a new model. -/
  | start (scope : Scope) (apiId operationId : Option String) :
    IsStart (.start scope apiId operationId)
  /-- A session on a model. -/
  | ofModel (m : Model) : IsStart (.ofModel m)

/-- The blank state is gone as soon as the operation is done. -/
theorem run_transition (f : State → State) (s : State) :
    (Session.transition f).run s = ((), f s) := rfl

/-- A session does what operations on the state do. -/
theorem run_perform (op : Operation) (s : State) :
    (Session.perform op).run s = ((), s.apply op) := by
  cases op with
  | validate => rfl
  | update p => exact run_transition (·.update p) s
  | next => exact run_transition State.next s
  | previous => exact run_transition State.previous s
  | goTo i => exact run_transition (·.goTo i) s
  | complete id => exact run_transition (·.complete id) s

theorem LeadsTo.eq_apply (h : LeadsTo op s t) : t = s.apply op := by
  cases h with
  | value => rfl
  | session => rw [run_perform]

/-! ## Validated models -/

/-- Whether the model is validated after an operation, given whether it was before. -/
def Operation.leavesValidated (b : Bool) : Operation → Bool
  | .update _ => false
  | .validate => true
  | _ => b

/-- A result is kept exactly if the model is validated, and then it is the result for the model. -/
def IsFresh (b : Bool) (s : State) : Prop :=
  s.validationResult = if b then some s.policyModel.validate else none

theorem isFresh_of_isStart (h : IsStart s) : IsFresh false s := by
  cases h <;> rfl

theorem IsFresh.apply (h : IsFresh b s) (op : Operation) :
    IsFresh (op.leavesValidated b) (s.apply op) := by
  cases op with
  | update p => rfl
  | validate => rfl
  | _ => exact h

/-- The invariant along a run: what the operations leave is told by the last update and the last
validation. -/
theorem IsFresh.run (h : IsFresh b s) (hrun : Run ops s t) :
    IsFresh (ops.foldl Operation.leavesValidated b) t := by
  induction hrun generalizing b with
  | nil => exact h
  | cons step _ ih =>
    rw [List.foldl_cons]
    refine ih ?_
    rw [step.eq_apply]
    exact h.apply _

/-- Only validation makes a model validated. -/
theorem foldl_leavesValidated (h : Operation.validate ∉ ops) :
    ops.foldl Operation.leavesValidated false = false := by
  induction ops with
  | nil => rfl
  | cons op ops ih =>
    have hfalse : op.leavesValidated false = false := by
      cases op with
      | validate => exact absurd List.mem_cons_self h
      | _ => rfl
    rw [List.foldl_cons, hfalse, ih fun hops => h (List.mem_cons_of_mem op hops)]

namespace IsFresh

theorem eq_validate (h : IsFresh b s) {r : ValidationResult} (hr : s.validationResult = some r) :
    r = s.policyModel.validate := by
  rw [h] at hr
  split at hr
  · exact (Option.some.inj hr).symm
  · simp at hr

theorem errors_eq_nil (h : IsFresh b s) (hexport : s.canExport = true) :
    s.policyModel.validate.errors = [] := by
  obtain ⟨r, hr, hvalid⟩ := (Option.any_eq_true _ _).1 hexport
  rw [h.eq_validate hr] at hvalid
  exact List.isEmpty_iff.1 hvalid

theorem canExport_eq_false (h : IsFresh false s) : s.canExport = false := by
  rw [State.canExport, h]
  rfl

end IsFresh

/-- Along every run of a session, a kept result is the result for the model at hand, so a model
that may be exported has no errors, and after an update none may be exported until the next
validation. -/
theorem validationResult_fresh {s₀ : State} (hstart : IsStart s₀) (hrun : Run ops s₀ s) :
    (∀ r, s.validationResult = some r → r = s.policyModel.validate) ∧
      (s.canExport = true → s.policyModel.validate.errors = []) ∧
      ∀ p ops' t, Run (.update p :: ops') s t → Operation.validate ∉ ops' →
        t.canExport = false := by
  have hfresh := (isFresh_of_isStart hstart).run hrun
  refine ⟨fun r hr => hfresh.eq_validate hr, hfresh.errors_eq_nil, fun p ops' t hupdate hnot => ?_⟩
  have ht := hfresh.run hupdate
  rw [List.foldl_cons, Operation.leavesValidated, foldl_leavesValidated hnot] at ht
  exact ht.canExport_eq_false

/-- A patch that puts a reference to a fragment into the inbound section. -/
def fragmentPatch : Patch :=
  let s : Section := { items := [.fragment ⟨"inbound-0", 0, "auth"⟩] }
  { sections := some { inbound := some s } }

theorem validationResult_fresh_fragmentPatch :
    ∃ s t, Run [.update fragmentPatch, .validate] (.start .global none none) s ∧
      s.canExport = true ∧ s.policyModel.validate.errors = [] ∧
      Run [.update {}, .next] s t ∧ t.canExport = false := by
  let s₀ := State.start .global none none
  let s := (s₀.apply (.update fragmentPatch)).apply .validate
  have hrun : Run [.update fragmentPatch, .validate] s₀ s :=
    .cons .value (.cons .session .nil)
  have hupdate : Run [.update {}, .next] s ((s.apply (.update {})).apply .next) :=
    .cons .session (.cons .value .nil)
  have hexport : s.canExport = true := by decide +kernel
  obtain ⟨-, herrors, hstale⟩ := validationResult_fresh (.start .global none none) hrun
  exact ⟨s, _, hrun, hexport, herrors hexport, hupdate, hstale {} [.next] _ hupdate (by simp)⟩

end GatewayPolicy.Wizard
