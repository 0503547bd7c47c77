import ByteMachine.Proofs.Lifecycle

/-!
The course of a run. A machine that has stopped did so at one step, in carrying out a halt or in
attempting what faulted, and the status says which. What is printed on the way are the values of the
prints carried out, so a longer run prints at least as much.
-/
namespace ByteMachine.Machine

variable {m : Machine} {n : Nat} {fault : Fault}

def HaltsWithin (m : Machine) (n : Nat) : Prop := ∃ i ∈ m.trace n, i.opcode = .hlt

/-- Fewer than `n` steps carry out an instruction each, and the attempt after them faults. -/
def FaultsWithin (m : Machine) (n : Nat) (fault : Fault) : Prop :=
  ∃ k < n, (m.trace k).length = k ∧ (m.after k).status = .running ∧
    (m.after k).step.result = .error fault

def printed (m : Machine) (n : Nat) : List UInt8 :=
  (List.range n).flatMap fun k => ((m.after k).executed?.map (m.after k).emitted).getD []

theorem stops_at (running : m.status = .running) (stopped : (m.after n).status ≠ .running) :
    ∃ k < n, (m.after k).status = .running ∧ (m.after k).step.machine = m.after n := by
  induction n with
  | zero => exact absurd running stopped
  | succ n ih =>
    by_cases going : (m.after n).status = .running
    · exact ⟨n, Nat.lt_succ_self n, going, (after_succ_last m n).symm⟩
    · obtain ⟨k, before, going', last⟩ := ih going
      exact ⟨k, Nat.lt_succ_of_lt before, going', last.trans (stays_stopped going n.le_succ).1.symm⟩

theorem length_trace_of_running {k : Nat} (going : (m.after k).status = .running) :
    (m.trace k).length = k := by
  have counted := steps_after m k
  rw [steps_of_running going] at counted
  omega

theorem halted_iff_haltsWithin (running : m.status = .running) :
    (m.after n).status = .halted ↔ m.HaltsWithin n := by
  constructor
  · intro halted
    have stopped : (m.after n).status ≠ .running := by rw [halted]; nofun
    obtain ⟨k, before, going, last⟩ := stops_at running stopped
    obtain ⟨i, executes⟩ | ⟨fault, failed⟩ := executes_or_fails going
    · exact ⟨i, mem_trace_iff.mpr ⟨k, before, executes⟩, executes.hlt_of_halted (last ▸ halted)⟩
    · rw [step_result_eq, last, halted] at failed
      contradiction
  · rintro ⟨i, carried, hlt⟩
    obtain ⟨k, before, executes⟩ := mem_trace_iff.mp carried
    have halted : (m.after (k + 1)).status = .halted := by
      rw [after_succ_last, executes.obeys.status, statusAfter, hlt]
    have stopped : (m.after (k + 1)).status ≠ .running := by rw [halted]; nofun
    rw [(stays_stopped stopped before).1, halted]

theorem faulted_iff_faultsWithin (running : m.status = .running) :
    (m.after n).status = .faulted fault ↔ m.FaultsWithin n fault := by
  constructor
  · intro faulted
    have stopped : (m.after n).status ≠ .running := by rw [faulted]; nofun
    obtain ⟨k, before, going, last⟩ := stops_at running stopped
    refine ⟨k, before, length_trace_of_running going, going, ?_⟩
    rw [step_result_eq, last, faulted]
    rfl
  · rintro ⟨k, before, -, going, failed⟩
    have faulted : (m.after (k + 1)).status = .faulted fault := by
      rw [after_succ_last, (step_of_error going failed).1]
    have stopped : (m.after (k + 1)).status ≠ .running := by rw [faulted]; nofun
    rw [(stays_stopped stopped before).1, faulted]

theorem values_step (m : Machine) : m.step.values = (m.executed?.map m.emitted).getD [] := by
  cases found : m.executed? with
  | some i => exact (executed?_eq_some_iff.mp found).values_eq
  | none =>
    by_cases running : m.status = .running
    · obtain ⟨i, executes⟩ | ⟨fault, failed⟩ := executes_or_fails running
      · rw [executed?_eq_some_iff.mpr executes] at found
        contradiction
      · exact (step_of_error running failed).2
    · rw [step_of_stopped running]
      rfl

theorem values_stepTimes (m : Machine) (n : Nat) : (m.stepTimes n).values = m.printed n := by
  induction n with
  | zero => rfl
  | succ n ih =>
    rw [values_stepTimes_add, values_stepTimes_succ, values_step, ih, printed, printed,
      List.range_succ, List.flatMap_append]
    simp [stepTimes, Transition.values]

theorem printed_of_le {k : Nat} (earlier : k ≤ n) : ∃ rest, m.printed n = m.printed k ++ rest := by
  obtain ⟨extra, rfl⟩ := Nat.exists_eq_add_of_le earlier
  exact ⟨_, by rw [← values_stepTimes, values_stepTimes_add, values_stepTimes]⟩

end ByteMachine.Machine
