import GatewayPolicy.Proofs.Wizard
/-!
# Sessions follow states

A session takes its state out for every operation but validation, leaves a blank one meanwhile and
puts back what the state became. None of this is to be seen from outside: after any operations, from
any start, a session holds the state that the same operations give as values. A caller who asks for
the model and for the document after every operation gets those of that state, and a validation
gives back the result that is kept.
-/

namespace GatewayPolicy.Wizard

/-! ## What a caller sees -/

/-- What a caller gets from an operation and from asking for the model and the document after it. -/
structure View where
  /-- The result, if the operation gives one back. -/
  result : Option ValidationResult
  /-- The model. -/
  model : Model
  /-- The document. -/
  document : String

namespace Session

/-- Does an operation; only a validation gives a result back. -/
def answer : Operation → Session (Option ValidationResult)
  | .validate => some <$> validate
  | op => do
    perform op
    return none

/-- Does an operation and asks for the model and the document. -/
def step (op : Operation) : Session View := do
  let result ← answer op
  let model ← model
  let document ← toXml
  return { result, model, document }

/-- Does a list of operations, with the questions after each of them. -/
def transcript (ops : List Operation) : Session (List View) := ops.mapM step

end Session

namespace State

/-- What a state shows that an operation led to; after a validation the result is the kept one. -/
def view (s : State) (op : Operation) : View where
  result := match op with
    | .validate => s.validationResult
    | _ => none
  model := s.policyModel
  document := s.toXml

/-- What the states show that a list of operations goes through. -/
def views (s : State) : List Operation → List View
  | [] => []
  | op :: ops => (s.apply op).view op :: (s.apply op).views ops

theorem run_cons (s : State) (op : Operation) (ops : List Operation) :
    s.run (op :: ops) = (s.apply op).run ops := rfl

end State

/-! ## One operation -/

namespace Session

theorem run_validate (s : State) :
    validate.run s = (s.policyModel.validate, s.apply .validate) := rfl

theorem run_answer (op : Operation) (s : State) :
    (answer op).run s = (((s.apply op).view op).result, s.apply op) := by
  cases op with
  | validate => exact congrArg (Prod.map some id) (run_validate s)
  | _ =>
    rw [answer, StateT.run_bind, run_perform]
    · rfl
    · nofun

/-- One operation with the questions after it: they are answered as by the state, and leave it. -/
theorem run_step (op : Operation) (s : State) :
    (step op).run s = ((s.apply op).view op, s.apply op) :=
  calc (step op).run s
      = (⟨((answer op).run s).1, ((answer op).run s).2.policyModel, ((answer op).run s).2.toXml⟩,
          ((answer op).run s).2) := rfl
    _ = ((s.apply op).view op, s.apply op) := by
      rw [run_answer]
      rfl

theorem run_transcript_cons (op : Operation) (ops : List Operation) (s : State) :
    (transcript (op :: ops)).run s =
      (((step op).run s).1 :: ((transcript ops).run ((step op).run s).2).1,
        ((transcript ops).run ((step op).run s).2).2) := by
  simp only [transcript, List.mapM_cons, StateT.run_bind, StateT.run_pure]
  rfl

end Session

/-! ## Lists of operations -/

/-- From every state, and so from both kinds of start, a session that does a list of operations ends
in the state that the operations give as values. On the way it shows after each operation what the
state at that point shows. -/
theorem run_transcript (ops : List Operation) (s : State) :
    (Session.transcript ops).run s = (s.views ops, s.run ops) := by
  induction ops generalizing s with
  | nil => rfl
  | cons op ops ih =>
    rw [Session.run_transcript_cons, Session.run_step, ih, State.run_cons]
    rfl

end GatewayPolicy.Wizard
