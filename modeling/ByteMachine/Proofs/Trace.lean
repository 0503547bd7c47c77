import ByteMachine.Proofs.Repetition

/-!
The instructions that a machine has carried out, in order. A step that fails carries out nothing,
and neither does a machine that has stopped, so the counter of steps is the length of the trace.
-/
namespace ByteMachine.Machine

variable {m : Machine} {i : Instruction} {n : Nat}

def executed? (m : Machine) : Option Instruction :=
  match m.status, Instruction.decode m.rest, m.step.result with
  | .running, .ok i, .ok _ => some i
  | _, _, _ => none

def trace (m : Machine) (n : Nat) : List Instruction :=
  (List.range n).filterMap fun k => (m.after k).executed?

theorem executed?_eq_some_iff : m.executed? = some i ↔ m.Executes i := by
  constructor
  · intro found
    unfold executed? at found
    split at found
    · rename_i running decoded ok
      obtain rfl := Option.some.inj found
      exact ⟨running, decoded, _, ok⟩
    · contradiction
  · intro executes
    obtain ⟨answer, ok⟩ := executes.succeeds
    simp only [executed?, executes.running, executes.decoded, ok]

theorem step_of_idle (idle : m.executed? = none) :
    m.step.machine = { m with status := m.step.machine.status } := by
  by_cases running : m.status = .running
  · obtain ⟨i, executes⟩ | ⟨fault, failed⟩ := executes_or_fails running
    · rw [executed?_eq_some_iff.mpr executes] at idle
      contradiction
    · rw [(step_of_error running failed).1]
  · rw [step_of_stopped running]

theorem trace_zero (m : Machine) : m.trace 0 = [] := rfl

theorem trace_succ_last (m : Machine) (n : Nat) :
    m.trace (n + 1) = m.trace n ++ (m.after n).executed?.toList := by
  rw [trace, trace, List.range_succ, List.filterMap_append]
  cases found : (m.after n).executed? <;> simp [found]

theorem mem_trace_iff : i ∈ m.trace n ↔ ∃ k < n, (m.after k).Executes i := by
  simp only [trace, List.mem_filterMap, List.mem_range, executed?_eq_some_iff]

theorem mem_trace_succ : i ∈ m.trace (n + 1) ↔ i ∈ m.trace n ∨ (m.after n).Executes i := by
  rw [trace_succ_last, List.mem_append, Option.mem_toList, executed?_eq_some_iff]

theorem steps_step (m : Machine) :
    m.step.machine.steps = m.steps + m.executed?.toList.length := by
  cases found : m.executed? with
  | none =>
    rw [step_of_idle found]
    rfl
  | some i =>
    rw [(executed?_eq_some_iff.mp found).obeys.steps]
    rfl

theorem steps_after (m : Machine) (n : Nat) :
    (m.after n).steps = m.steps + (m.trace n).length := by
  induction n with
  | zero => rfl
  | succ n ih =>
    rw [after_succ_last, steps_step, ih, trace_succ_last, List.length_append, Nat.add_assoc]

end ByteMachine.Machine
