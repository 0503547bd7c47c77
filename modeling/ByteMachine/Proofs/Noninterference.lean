import ByteMachine.Proofs.Comparison
import ByteMachine.Proofs.Course

/-!
What flags and counters leave alone. No instruction looks at the flags or at the counter of steps,
so machines that differ in nothing else carry out the same instructions, give the same answers and
emit the same values. Their counters grow alike, and a comparison makes their flags equal.
-/
namespace ByteMachine.Machine

variable {m m' : Machine} {i : Instruction} {n : Nat}

namespace Alike

theorem result_eq (alike : Alike m m') : m.step.result = m'.step.result := by
  rw [step_result_eq, step_result_eq, alike.step.status]

theorem executed?_eq (alike : Alike m m') : m.executed? = m'.executed? := by
  have rest : m.rest = m'.rest := by
    simp only [Machine.rest, alike.memory, alike.counter]
  simp only [executed?, alike.status, rest, alike.result_eq]

theorem executes (alike : Alike m m') (executes : m.Executes i) : m'.Executes i := by
  rw [← executed?_eq_some_iff] at executes ⊢
  rw [← alike.executed?_eq]
  exact executes

theorem operand_eq (alike : Alike m m') (x : UInt8) : m.operand x = m'.operand x := by
  simp only [operand, alike.registers]

theorem values_eq (alike : Alike m m') : m.step.values = m'.step.values := by
  have emitted : m.emitted = m'.emitted := by
    funext i
    simp only [Machine.emitted, alike.operand_eq]
  rw [values_step, values_step, alike.executed?_eq, emitted]

theorem trace_eq (alike : Alike m m') (n : Nat) : m.trace n = m'.trace n := by
  induction n with
  | zero => rfl
  | succ n ih => rw [trace_succ_last, trace_succ_last, ih, (alike.after n).executed?_eq]

theorem results_eq (alike : Alike m m') (n : Nat) :
    (m.stepTimes n).result = (m'.stepTimes n).result := by
  induction n generalizing m m' with
  | zero => rfl
  | succ n ih => simp only [stepTimes, alike.result_eq, ih alike.step]

theorem values_stepTimes_eq (alike : Alike m m') (n : Nat) :
    (m.stepTimes n).values = (m'.stepTimes n).values := by
  induction n generalizing m m' with
  | zero => rfl
  | succ n ih => rw [values_stepTimes_succ, values_stepTimes_succ, alike.values_eq, ih alike.step]

theorem flags_step_eq (alike : Alike m m')
    (told : m.flags = m'.flags ∨ ∃ i, m.Executes i ∧ i.opcode = .cmp) :
    m.step.machine.flags = m'.step.machine.flags := by
  apply Flags.bits_injective
  rcases told with same | ⟨i, executes, comparison⟩
  · have compared : m.compared? = m'.compared? := by
      simp only [compared?, alike.executed?_eq, alike.operand_eq]
    rw [bits_step, bits_step, compared, same]
  · rw [executes.obeys.bits, (alike.executes executes).obeys.bits]
    simp only [bitsAfter, comparison, alike.operand_eq]

theorem flags_after_eq (alike : Alike m m') (compares : ∃ i ∈ m.trace n, i.opcode = .cmp) :
    (m.after n).flags = (m'.after n).flags := by
  obtain ⟨i, member, comparison⟩ := compares
  induction n with
  | zero => simp [trace_zero] at member
  | succ n ih =>
    rw [after_succ_last, after_succ_last]
    apply (alike.after n).flags_step_eq
    rcases mem_trace_succ.mp member with earlier | last
    · exact Or.inl (ih earlier)
    · exact Or.inr ⟨i, last, comparison⟩

end Alike

theorem flags_after_of_uncompared (uncompared : ∀ i ∈ m.trace n, i.opcode ≠ .cmp) :
    (m.after n).flags = m.flags := by
  induction n with
  | zero => rfl
  | succ n ih =>
    have before := ih fun i earlier => uncompared i (mem_trace_succ.mpr (Or.inl earlier))
    rw [after_succ_last, ← before]
    cases found : (m.after n).executed? with
    | none => rw [step_of_idle found]
    | some i =>
      have executes := executed?_eq_some_iff.mp found
      have other := uncompared i (mem_trace_succ.mpr (Or.inr executes))
      exact flags_step_of_none (executes.compared?_of_ne other)

/-- What two machines have in common over `n` steps if they differ in flags and counters alone. -/
theorem flags_and_counter_have_no_influence {σ : Type} [Sink σ] (sink : σ) {m m' : Machine}
    (alike : Alike m m') (n : Nat) :
    (m.stepTimes n).result = (m'.stepTimes n).result ∧
      (m.stepTimes n).values = (m'.stepTimes n).values ∧
      (deliver sink (m.stepTimes n).events).1 = (deliver sink (m'.stepTimes n).events).1 ∧
      Alike (m.after n) (m'.after n) ∧
      (∃ grown, (m.after n).steps = m.steps + grown ∧ (m'.after n).steps = m'.steps + grown) ∧
      ((∃ i ∈ m.trace n, i.opcode = .cmp) → (m.after n).flags = (m'.after n).flags) ∧
      ((∀ i ∈ m.trace n, i.opcode ≠ .cmp) →
        (m.after n).flags = m.flags ∧ (m'.after n).flags = m'.flags) := by
  have values := alike.values_stepTimes_eq n
  refine ⟨alike.results_eq n, values, ?_, alike.after n, ?_, alike.flags_after_eq, ?_⟩
  · rw [deliver_sink, deliver_sink]
    exact congrArg (Sink.acceptAll sink) values
  · refine ⟨(m.trace n).length, steps_after m n, ?_⟩
    rw [alike.trace_eq]
    exact steps_after m' n
  · intro uncompared
    constructor
    · exact flags_after_of_uncompared uncompared
    · rw [alike.trace_eq] at uncompared
      exact flags_after_of_uncompared uncompared

def printingAndComparing : Image := ⟨[0x47, 0, 0xA7, 0, 7], by decide⟩

def experienced (image : Image) : Machine := { ofImage image with flags := ⟨some .gt⟩, steps := 40 }

theorem experienced_prints_alike :
    Alike (ofImage printingAndComparing) (experienced printingAndComparing) ∧
      ((experienced printingAndComparing).stepTimes 2).values = [0] ∧
      ((experienced printingAndComparing).after 2).flags.bits = 0b100 := by
  have alike : Alike (ofImage printingAndComparing) (experienced printingAndComparing) :=
    ⟨rfl, rfl, rfl, rfl⟩
  obtain ⟨-, values, -, -, -, flags, -⟩ :=
    flags_and_counter_have_no_influence Collector.empty alike 2
  have course : (ofImage printingAndComparing).trace 2 = [⟨.prn, 0, 0⟩, ⟨.cmp, 0, 7⟩] ∧
      ((ofImage printingAndComparing).stepTimes 2).values = [0] ∧
      ((ofImage printingAndComparing).after 2).flags.bits = 0b100 := by decide +kernel
  obtain ⟨trace, printed, less⟩ := course
  rw [← values, ← flags (by simp [trace])]
  exact ⟨alike, printed, less⟩

end ByteMachine.Machine
