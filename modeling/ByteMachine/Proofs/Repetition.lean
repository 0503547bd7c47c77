import ByteMachine.Execution.Run
import ByteMachine.Proofs.InstructionTable

/-!
Steps made one after another. A number of steps can be split anywhere, a machine that has stopped
absorbs all further ones, and a run with a budget comes to the same machine and the same events as
that many steps. Its answer is what the status says afterwards.
-/
namespace ByteMachine

def Status.answer : Status → Except Fault Status
  | faulted fault => .error fault
  | status => .ok status

theorem Status.answer_eq_running {status : Status} (going : status.answer = .ok .running) :
    status = .running := by
  cases status with
  | running => rfl
  | halted => cases going
  | faulted fault => cases going

namespace Machine

def stepTimes (m : Machine) : Nat → Transition (List (Except Fault Status))
  | 0 => ⟨m, [], []⟩
  | n + 1 =>
    let t := m.step
    let later := t.machine.stepTimes n
    ⟨later.machine, t.result :: later.result, t.events ++ later.events⟩

def after (m : Machine) (n : Nat) : Machine := (m.stepTimes n).machine

variable {m : Machine}

theorem after_zero (m : Machine) : m.after 0 = m := rfl

theorem after_succ (m : Machine) (n : Nat) : m.after (n + 1) = m.step.machine.after n := rfl

theorem stepTimes_add (m : Machine) (a b : Nat) :
    m.stepTimes (a + b) =
      ⟨(m.after a).after b, (m.stepTimes a).result ++ ((m.after a).stepTimes b).result,
        (m.stepTimes a).events ++ ((m.after a).stepTimes b).events⟩ := by
  induction a generalizing m with
  | zero =>
    rw [Nat.zero_add]
    rfl
  | succ a ih =>
    rw [Nat.succ_add, stepTimes, ih, after_succ]
    simp only [stepTimes, List.cons_append, List.append_assoc]

theorem values_stepTimes_succ (m : Machine) (n : Nat) :
    (m.stepTimes (n + 1)).values = m.step.values ++ (m.step.machine.stepTimes n).values :=
  List.filterMap_append

theorem values_stepTimes_add (m : Machine) (a b : Nat) :
    (m.stepTimes (a + b)).values = (m.stepTimes a).values ++ ((m.after a).stepTimes b).values := by
  rw [stepTimes_add]
  exact List.filterMap_append

theorem after_add (m : Machine) (a b : Nat) : m.after (a + b) = (m.after a).after b := by
  rw [after, stepTimes_add]

theorem after_succ_last (m : Machine) (n : Nat) : m.after (n + 1) = (m.after n).step.machine :=
  after_add m n 1

theorem Executes.answer_eq {i : Instruction} (executes : m.Executes i) :
    m.step.machine.status.answer = .ok m.step.machine.status := by
  rw [executes.obeys.status]
  unfold statusAfter
  split <;> rfl

theorem step_result_eq (m : Machine) : m.step.result = m.step.machine.status.answer := by
  cases status : m.status with
  | halted => simp only [step_of_halted status, status, Status.answer]
  | faulted fault => simp only [step_of_faulted status, status, Status.answer]
  | running =>
    obtain ⟨i, executes⟩ | ⟨fault, failed⟩ := executes_or_fails status
    · rw [executes.result_eq, executes.answer_eq]
    · rw [failed, (step_of_error status failed).1]
      rfl

theorem step_of_stopped (stopped : m.status ≠ .running) : m.step = ⟨m, m.status.answer, []⟩ := by
  cases status : m.status with
  | running => contradiction
  | halted => exact step_of_halted status
  | faulted fault => exact step_of_faulted status

theorem stepTimes_of_stopped (stopped : m.status ≠ .running) (n : Nat) :
    m.stepTimes n = ⟨m, List.replicate n m.status.answer, []⟩ := by
  induction n with
  | zero => rfl
  | succ n ih =>
    rw [stepTimes, step_of_stopped stopped]
    simp only [ih, List.replicate_succ, List.nil_append]

theorem after_of_stopped (stopped : m.status ≠ .running) (n : Nat) : m.after n = m := by
  rw [after, stepTimes_of_stopped stopped]

theorem stays_stopped {k n : Nat} (stopped : (m.after k).status ≠ .running) (later : k ≤ n) :
    m.after n = m.after k ∧ (m.stepTimes n).events = (m.stepTimes k).events := by
  obtain ⟨extra, rfl⟩ := Nat.exists_eq_add_of_le later
  constructor
  · rw [after_add, after_of_stopped stopped]
  · rw [stepTimes_add, stepTimes_of_stopped stopped, List.append_nil]

theorem was_running {k n : Nat} (running : (m.after n).status = .running) (earlier : k ≤ n) :
    (m.after k).status = .running := by
  by_contra stopped
  rw [(stays_stopped stopped earlier).1] at running
  exact stopped running

theorem steps_of_failing (running : m.status = .running) {fault : Fault}
    (faulted : m.step.machine.status = .faulted fault) : m.step.machine.steps = m.steps := by
  have failed : m.step.result = .error fault := by
    rw [step_result_eq, faulted]
    rfl
  rw [(step_of_error running failed).1]

theorem steps_of_going (going : m.step.machine.status = .running) :
    m.step.machine.steps = m.steps + 1 := by
  have running : m.status = .running := was_running (n := 1) going (Nat.zero_le 1)
  obtain ⟨i, executes⟩ | ⟨fault, failed⟩ := executes_or_fails running
  · exact executes.obeys.steps
  · rw [step_result_eq, going] at failed
    cases failed

theorem steps_step_le (m : Machine) :
    m.steps ≤ m.step.machine.steps ∧ m.step.machine.steps ≤ m.steps + 1 := by
  by_cases running : m.status = .running
  · obtain ⟨i, executes⟩ | ⟨fault, failed⟩ := executes_or_fails running
    · rw [executes.obeys.steps]
      omega
    · rw [(step_of_error running failed).1]
      exact ⟨Nat.le_refl _, Nat.le_succ _⟩
  · rw [step_of_stopped running]
    exact ⟨Nat.le_refl _, Nat.le_succ _⟩

theorem steps_after_le (m : Machine) (n : Nat) :
    m.steps ≤ (m.after n).steps ∧ (m.after n).steps ≤ m.steps + n := by
  induction n generalizing m with
  | zero => exact ⟨Nat.le_refl _, Nat.le_refl _⟩
  | succ n ih =>
    have first := steps_step_le m
    have later := ih m.step.machine
    rw [after_succ]
    omega

theorem steps_of_running {n : Nat} (running : (m.after n).status = .running) :
    (m.after n).steps = m.steps + n := by
  induction n with
  | zero => rfl
  | succ n ih =>
    have before := ih (was_running running (Nat.le_succ n))
    rw [after_succ_last] at running ⊢
    rw [steps_of_going running, before, Nat.add_assoc]

theorem steps_of_faulted {n : Nat} {fault : Fault} (running : m.status = .running)
    (faulted : (m.after n).status = .faulted fault) : (m.after n).steps < m.steps + n := by
  induction n generalizing m with
  | zero =>
    rw [after_zero, running] at faulted
    cases faulted
  | succ n ih =>
    rw [after_succ] at faulted ⊢
    cases status : m.step.machine.status with
    | running =>
      have later := ih status faulted
      have first := steps_of_going status
      omega
    | halted =>
      rw [after_of_stopped (by rw [status]; nofun), status] at faulted
      cases faulted
    | faulted other =>
      rw [after_of_stopped (by rw [status]; nofun), steps_of_failing running status]
      omega

theorem runFor_eq_stepTimes (m : Machine) (n : Nat) :
    m.runFor (n + 1) =
      ⟨m.after (n + 1), (m.after (n + 1)).status.answer, (m.stepTimes (n + 1)).events⟩ := by
  induction n generalizing m with
  | zero =>
    rw [after_succ, after_zero, ← step_result_eq]
    by_cases going : m.step.result = .ok .running
    · rw [runFor_succ_of_running going, runFor_zero, going,
        Status.answer_eq_running ((step_result_eq m).symm.trans going)]
      rfl
    · rw [runFor_succ_of_stopped going, stepTimes, stepTimes, List.append_nil]
  | succ n ih =>
    by_cases going : m.step.result = .ok .running
    · rw [runFor_succ_of_running going, ih]
      rfl
    · have stopped : m.step.machine.status ≠ .running := by
        intro running
        rw [step_result_eq, running] at going
        exact going rfl
      rw [runFor_succ_of_stopped going, after_succ, after_of_stopped stopped, ← step_result_eq,
        stepTimes, stepTimes_of_stopped stopped, List.append_nil]

theorem runFor_machine (m : Machine) (n : Nat) : (m.runFor n).machine = m.after n := by
  cases n with
  | zero => rfl
  | succ n => rw [runFor_eq_stepTimes]

theorem runFor_events (m : Machine) (n : Nat) : (m.runFor n).events = (m.stepTimes n).events := by
  cases n with
  | zero => rfl
  | succ n => rw [runFor_eq_stepTimes]

end Machine

end ByteMachine
