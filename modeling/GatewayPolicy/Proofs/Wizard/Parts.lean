import Mathlib.Data.Rat.Defs
import GatewayPolicy.Proofs.Bindings
import GatewayPolicy.Wizard
/-!
# The parts of a session are independent

A session keeps a model, a place among the steps and a set of completed steps. Every operation is about
one of them and leaves the others alone, so each part is told by the operations that are about it,
however they are mixed with the others. The place never leaves the range of an index, since moves
stop at both of its ends, and what was completed stays completed, so progress is never lost.
-/

namespace GatewayPolicy

/-- The number that a binary64 number stands for. -/
def Binary64.toRat (x : Binary64) : ℚ := (if x.negative then -1 else 1) * (x.num / x.den)

namespace Wizard

variable {s : State} {ops : List Operation}

/-! ## What an operation is about -/

/-- A move to another step. -/
inductive Move where
  /-- One step on. -/
  | next
  /-- One step back. -/
  | previous
  /-- To a step. -/
  | goTo (index : StepIndex)

/-- Where a move leads to. It stops at the largest index and at the first one. -/
def Move.target (i : Nat) : Move → Nat
  | next => min (i + 1) (stepLimit - 1)
  | previous => i - 1
  | goTo index => index.val

namespace Operation

/-- The patch of an update. -/
def patch? : Operation → Option Patch
  | update p => some p
  | _ => none

/-- The move to another step. -/
def move? : Operation → Option Move
  | next => some .next
  | previous => some .previous
  | goTo i => some (.goTo i)
  | _ => none

/-- The step that is noted as completed. -/
def completed? : Operation → Option String
  | complete id => some id
  | _ => none

end Operation

/-! ## Runs -/

theorem run_append (s : State) (ops more : List Operation) :
    s.run (ops ++ more) = (s.run ops).run more :=
  List.foldl_append

theorem policyModel_run (s : State) (ops : List Operation) :
    (s.run ops).policyModel =
      (ops.filterMap Operation.patch?).foldl (fun m p => p.apply m) s.policyModel := by
  rw [List.foldl_filterMap]
  refine (List.foldl_hom State.policyModel fun s op => ?_).symm
  cases op <;> rfl

theorem completedSteps_run (s : State) (ops : List Operation) :
    (s.run ops).completedSteps =
      (ops.filterMap Operation.completed?).foldl NameSet.add s.completedSteps := by
  rw [List.foldl_filterMap]
  refine (List.foldl_hom State.completedSteps fun s op => ?_).symm
  cases op <;> rfl

theorem val_next (i : StepIndex) : i.next.val = min (i.val + 1) (stepLimit - 1) := by
  unfold StepIndex.next
  split
  · dsimp only
    omega
  · omega

theorem currentStep_run (s : State) (ops : List Operation) :
    (s.run ops).currentStep.val =
      (ops.filterMap Operation.move?).foldl Move.target s.currentStep.val := by
  rw [List.foldl_filterMap]
  refine (List.foldl_hom (fun s : State => s.currentStep.val) fun s op => ?_).symm
  cases op with
  | next => exact (val_next s.currentStep).symm
  | _ => rfl

/-! ## Progress -/

theorem isCompleted_run {id : String} :
    (s.run ops).isCompleted id = true ↔
      s.isCompleted id = true ∨ id ∈ ops.filterMap Operation.completed? := by
  rw [State.isCompleted, State.isCompleted, NameMap.contains_iff_mem_keys,
    NameMap.contains_iff_mem_keys, completedSteps_run, NameSet.mem_keys_foldl_add, or_comm]

/-- Runs that complete the same steps, in any order and any number of times, leave the same set. -/
theorem completedSteps_run_congr {ops' : List Operation}
    (h : ∀ id, id ∈ ops.filterMap Operation.completed? ↔ id ∈ ops'.filterMap Operation.completed?) :
    (s.run ops).completedSteps = (s.run ops').completedSteps := by
  refine NameSet.ext_keys fun id => ?_
  rw [completedSteps_run, completedSteps_run, NameSet.mem_keys_foldl_add,
    NameSet.mem_keys_foldl_add, h]

theorem completedRequired_le (s : State) (ops : List Operation) :
    s.completedRequired ≤ (s.run ops).completedRequired := by
  rw [State.completedRequired, State.completedRequired, ← List.countP_eq_length_filter,
    ← List.countP_eq_length_filter]
  exact List.countP_mono_left fun id _ hid => isCompleted_run.2 (.inl hid)

/-- All steps are completed that cannot be left out. -/
theorem completedRequired_eq_iff : s.completedRequired = requiredSteps.length ↔
    ∀ step ∈ steps, step.required = true → s.isCompleted step.id = true := by
  rw [State.completedRequired, List.length_filter_eq_length_iff, requiredSteps, List.forall_mem_map]
  simp only [List.mem_filter, and_imp]

/-- The progress once so many steps are completed that cannot be left out. -/
def progressOf (n : Nat) : Binary64 :=
  (Binary64.ofRatio? false n requiredSteps.length).getD (.zero false)

theorem toRat_progressOf : ∀ n ≤ requiredSteps.length,
    (∀ k ≤ n, (progressOf k).toRat ≤ (progressOf n).toRat) ∧
      ((progressOf n).toRat = 1 ↔ n = requiredSteps.length) := by
  decide +kernel

theorem completedRequired_le_length (s : State) : s.completedRequired ≤ requiredSteps.length :=
  List.length_filter_le ..

theorem progress_le (s : State) (ops : List Operation) :
    s.progress.toRat ≤ (s.run ops).progress.toRat :=
  (toRat_progressOf _ (completedRequired_le_length (s.run ops))).1 _ (completedRequired_le s ops)

theorem progress_eq_one_iff : s.progress.toRat = 1 ↔
    ∀ step ∈ steps, step.required = true → s.isCompleted step.id = true :=
  (toRat_progressOf _ (completedRequired_le_length s)).2.trans completedRequired_eq_iff

/-! ## All parts -/

/-- After any operations, from any state, the model is what the updates make of it, the completed steps
are those of the start and those that were noted, and the step is where the moves lead to. The
progress only grows, and it is complete if all steps are that cannot be left out. -/
theorem run_parts (s : State) (ops : List Operation) :
    (s.run ops).policyModel =
      (ops.filterMap Operation.patch?).foldl (fun m p => p.apply m) s.policyModel ∧
    (∀ id, (s.run ops).isCompleted id = true ↔
      s.isCompleted id = true ∨ id ∈ ops.filterMap Operation.completed?) ∧
    (∀ ops' : List Operation,
      (∀ id, id ∈ ops.filterMap Operation.completed? ↔ id ∈ ops'.filterMap Operation.completed?) →
        (s.run ops).completedSteps = (s.run ops').completedSteps) ∧
    (s.run ops).currentStep.val =
      (ops.filterMap Operation.move?).foldl Move.target s.currentStep.val ∧
    (∀ more : List Operation,
      (s.run ops).completedRequired ≤ (s.run (ops ++ more)).completedRequired ∧
        (s.run ops).progress.toRat ≤ (s.run (ops ++ more)).progress.toRat) ∧
    ((s.run ops).progress.toRat = 1 ↔
      ∀ step ∈ steps, step.required = true → (s.run ops).isCompleted step.id = true) := by
  refine ⟨policyModel_run s ops, fun _ => isCompleted_run, fun _ => completedSteps_run_congr,
    currentStep_run s ops, fun more => ?_, progress_eq_one_iff⟩
  rw [run_append]
  exact ⟨completedRequired_le _ more, progress_le _ more⟩

/-- A session that has the last index and only the export left. -/
def exportSession : State :=
  { State.blank with
    currentStep := ⟨stepLimit - 1, by decide⟩
    completedSteps := .ofNames ["validation", "policy-configuration", "policy-selection",
      "section-selection", "scope-selection", "my-step"] }

theorem run_parts_exportSession :
    let ops : List Operation := [.complete "review-export", .next, .validate, .complete "my-step"]
    let ops' : List Operation := [.complete "my-step", .complete "review-export", .previous,
      .complete "my-step"]
    (exportSession.run ops).completedSteps = (exportSession.run ops').completedSteps ∧
      (exportSession.run ops).currentStep.val = stepLimit - 1 ∧
      (exportSession.run ops).progress.toRat = 1 := by
  intro ops ops'
  obtain ⟨-, -, hcongr, hstep, -, hprogress⟩ := run_parts exportSession ops
  refine ⟨hcongr ops' fun id => ?_, hstep, hprogress.2 ?_⟩
  · have hids : ops.filterMap Operation.completed? = ["review-export", "my-step"] := rfl
    have hids' : ops'.filterMap Operation.completed? = ["my-step", "review-export", "my-step"] := rfl
    rw [hids, hids']
    simp [or_comm]
  · decide

end Wizard

end GatewayPolicy
