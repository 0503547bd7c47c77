import Mathlib.Control.Monad.Basic
import ByteMachine.Proofs.Delivery
import ByteMachine.Proofs.Resolving
import ByteMachine.Proofs.Stepping

/-!
Faults. Five conditions, told from the memory at the program counter, decide whether a step fails
and with which fault. They exclude each other, so together with the step they leave one fault at
most, and a step that fails changes nothing but the status.
-/
namespace ByteMachine.Machine

variable {m : Machine} {fault : Fault}

theorem rest_eq_cons {x : UInt8} (here : m.memory.cells[m.pc]? = some x) :
    m.rest = x :: m.memory.toList.drop (m.pc + 1) := by
  obtain ⟨inside, rfl⟩ := Vector.getElem?_eq_some_iff.mp here
  have bound : m.pc < m.memory.toList.length := by rw [Memory.length_toList]; exact inside
  rw [rest, List.drop_eq_getElem_cons bound]
  rfl

theorem cell_of_rest {x : UInt8} {tail : List UInt8} (found : m.rest = x :: tail) :
    m.memory.cells[m.pc]? = some x := by
  have inside : m.pc < memorySize := by
    have count := m.length_rest
    rw [found, List.length_cons] at count
    omega
  have here := rest_eq_cons (Vector.getElem?_eq_getElem inside)
  rw [found] at here
  rw [Vector.getElem?_eq_getElem inside, (List.cons.inj here).1]

theorem length_tail_of_rest {x : UInt8} {tail : List UInt8} (found : m.rest = x :: tail) :
    m.pc + 1 + tail.length = memorySize := by
  have count := m.length_rest
  rw [found, List.length_cons] at count
  omega

/-- The faults that the step of a running machine can meet, in the order in which it meets them.
Each condition leaves out the ones before it. -/
inductive Raises (m : Machine) : Fault → Prop where
  | outside (past : m.pc = memorySize) : Raises m (.addressOutOfRange 256 .fetch)
  | unknown {x : UInt8} (here : m.memory.cells[m.pc]? = some x) (foreign : NoOpcode x) :
      Raises m (.unknownInstruction x m.pc)
  | cutOff {opcode : Opcode} (here : m.memory.cells[m.pc]? = some opcode.byte)
      (long : memorySize < m.pc + opcode.length) : Raises m (.addressOutOfRange 256 .fetch)
  | register {i : Instruction} {x : UInt8} (decoded : Instruction.decode m.rest = .ok i)
      (bad : i.badOperand? = some x) :
      Raises m (.registerOutOfRange x.toNat i.opcode.registerAccess)
  | back {i : Instruction} (decoded : Instruction.decode m.rest = .ok i)
      (named : i.badOperand? = none) (call : i.opcode = .call) (last : m.pc = 254) :
      Raises m (.addressOutOfRange 256 .write)

theorem raises_of_fetch_error (inside : m.pc ≤ memorySize) (lost : m.fetch = .error fault) :
    Raises m fault := by
  obtain ⟨e, failed, rfl⟩ := fetch_eq_error_iff.mp lost
  have way := Instruction.decoding_decode m.rest
  have last : max m.pc memorySize = 256 := Nat.max_eq_right inside
  have count := m.length_rest
  rw [failed] at way
  generalize found : m.rest = bytes at way count
  cases way with
  | empty =>
    simp only [fetchFault, last]
    exact .outside (by simp only [List.length_nil] at count; omega)
  | unknown tail foreign => exact .unknown (cell_of_rest found) foreign
  | @truncated opcode tail short =>
    have total := length_tail_of_rest found
    simp only [fetchFault, last]
    exact .cutOff (cell_of_rest found) (by simp only [Opcode.length]; omega)

theorem raises_of_refusal {i : Instruction} (fetched : m.fetch = .ok i)
    (resolved : i.resolve m.pc = .error fault) : Raises m fault := by
  have decoded := fetch_eq_ok_iff.mp fetched
  cases Instruction.resolve_eq_error_iff.mp resolved with
  | register bad => exact .register decoded bad
  | back call named far =>
    have fits := fits_of_fetch fetched
    have length : i.opcode.length = 2 := by rw [call]; rfl
    have last : m.pc = 254 := by simp only [memorySize] at fits far; omega
    rw [last]
    exact .back decoded named call last

theorem result_of_fetch_error (running : m.status = .running) (lost : m.fetch = .error fault) :
    m.step.result = .error fault := by
  rw [step_of_fetch_error running lost]
  rfl

theorem result_of_refusal {i : Instruction} (running : m.status = .running)
    (decoded : Instruction.decode m.rest = .ok i) (refuses : Refuses m.pc i fault) :
    m.step.result = .error fault := by
  rw [step_of_fetch running (fetch_eq_ok_iff.mpr decoded),
    execute_of_error (Instruction.resolve_eq_error_iff.mpr refuses)]
  rfl

theorem executes_of_named {i : Instruction} (running : m.status = .running)
    (decoded : Instruction.decode m.rest = .ok i) (named : i.badOperand? = none)
    (back : i.opcode = .call → m.pc + 2 < memorySize) : m.Executes i := by
  obtain ⟨action, resolved⟩ := Instruction.resolve_of_named named back
  apply executes_iff_performs.mpr
  exact ⟨action, running, fetch_eq_ok_iff.mpr decoded, resolved⟩

theorem result_of_raises (running : m.status = .running) (inside : m.pc ≤ memorySize)
    (raises : Raises m fault) : m.step.result = .error fault := by
  have last : max m.pc memorySize = 256 := Nat.max_eq_right inside
  cases raises with
  | outside past =>
    have nothing : m.rest = [] :=
      List.drop_of_length_le (Nat.le_of_eq ((Memory.length_toList _).trans past.symm))
    refine result_of_fetch_error running (fetch_eq_error_iff.mpr ⟨.truncated 0 1 0, ?_, ?_⟩)
    · rw [nothing]
      rfl
    · simp only [fetchFault, last]
  | @unknown x here foreign =>
    refine result_of_fetch_error running (fetch_eq_error_iff.mpr ⟨.unknownOpcode x, ?_, rfl⟩)
    rw [rest_eq_cons here]
    exact Instruction.decode_of_foreign foreign _
  | @cutOff opcode here long =>
    have found := rest_eq_cons here
    have total := length_tail_of_rest found
    have short : (m.memory.toList.drop (m.pc + 1)).length < opcode.operandCount := by
      simp only [Opcode.length] at long
      omega
    have failed := Instruction.decode_of_short short
    rw [← found] at failed
    refine result_of_fetch_error running (fetch_eq_error_iff.mpr ⟨_, failed, ?_⟩)
    simp only [fetchFault, last]
  | register decoded bad => exact result_of_refusal running decoded (.register bad)
  | back decoded named call final =>
    have far : m.pc + 2 = 256 := by rw [final]
    have refuses := Refuses.back call named (Nat.le_of_eq far.symm)
    rw [far] at refuses
    exact result_of_refusal running decoded refuses

/-- A step fails exactly under one of the five conditions, and with the fault that belongs to it.
Then the status tells the fault, and neither the rest of the machine nor a sink has changed. -/
theorem step_fails_iff_raises {σ : Type} [Sink σ] (sink : σ) {m : Machine}
    (running : m.status = .running) (inside : m.pc ≤ memorySize) (fault : Fault) :
    (m.step.result = .error fault ↔ Raises m fault) ∧
      (m.step.result = .error fault →
        m.step.machine = { m with status := .faulted fault } ∧ m.step.values = [] ∧
          (deliver sink m.step.events).1 = sink) := by
  constructor
  · constructor
    · intro failed
      have way := stepping_step running
      generalize m.step = t at way failed
      cases way with
      | lost fetched =>
        obtain rfl := Except.error.inj failed
        exact raises_of_fetch_error inside fetched
      | refused fetched resolved =>
        obtain rfl := Except.error.inj failed
        exact raises_of_refusal fetched resolved
      | done performs => contradiction
    · exact result_of_raises running inside
  · intro failed
    obtain ⟨kept, silent⟩ := step_of_error running failed
    refine ⟨kept, silent, ?_⟩
    rw [deliver_sink, ← Transition.values, silent]
    rfl

def callingAtEnd : Machine :=
  { initial with memory := initial.memory.set 254 0x50, pc := 254 }

theorem callingAtEnd_fails :
    callingAtEnd.status = .running ∧ callingAtEnd.pc ≤ memorySize ∧
      Raises callingAtEnd (.addressOutOfRange 256 .write) ∧
      callingAtEnd.step.machine =
        { callingAtEnd with status := .faulted (.addressOutOfRange 256 .write) } := by
  have failed : callingAtEnd.step.result = .error (.addressOutOfRange 256 .write) := by
    decide +kernel
  have inside : callingAtEnd.pc ≤ memorySize := by decide
  have ⟨exact, atomic⟩ := step_fails_iff_raises Collector.empty rfl inside
    (.addressOutOfRange 256 .write)
  exact ⟨rfl, inside, exact.mp failed, (atomic failed).1⟩

end ByteMachine.Machine
