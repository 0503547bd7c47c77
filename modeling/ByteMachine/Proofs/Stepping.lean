import ByteMachine.Execution.Step
import ByteMachine.Proofs.Decoding

/-!
What a step can do. Fetching looks at the memory from the program counter on, and a running
machine either fails, in its fetch or with the operands of what it fetched, or performs an action.
Facts about single steps are derived from this case distinction.
-/
namespace ByteMachine

theorem Memory.length_toList (memory : Memory) : memory.toList.length = memorySize := by
  simp [toList]

namespace Machine

def rest (m : Machine) : List UInt8 := m.memory.toList.drop m.pc

theorem length_rest (m : Machine) : m.rest.length = memorySize - m.pc := by
  rw [rest, List.length_drop, Memory.length_toList]

def fetchFault (m : Machine) : DecodeError → Fault
  | .unknownOpcode opcode => .unknownInstruction opcode m.pc
  | .truncated .. => .addressOutOfRange (max m.pc memorySize) .fetch

theorem fetch_eq_decode_rest (m : Machine) :
    m.fetch = (Instruction.decode m.rest).mapError m.fetchFault := by
  have window : m.memory.window m.pc Instruction.maxLength = m.rest.take Instruction.maxLength :=
    Memory.window_eq ..
  simp only [fetch, window, Instruction.decode_take_maxLength]
  cases found : Instruction.decode m.rest with
  | ok i => rfl
  | error e =>
    cases e with
    | unknownOpcode opcode => rfl
    | truncated opcode needed available =>
      have few := Instruction.length_lt_of_truncated found
      have missing : m.pc + (m.rest.take Instruction.maxLength).length = max m.pc memorySize := by
        rw [List.length_take, Nat.min_eq_right (Nat.le_of_lt few), length_rest]
        omega
      exact congrArg (fun address => Except.error (Fault.addressOutOfRange address .fetch)) missing

theorem fetch_eq_ok_iff {m : Machine} {i : Instruction} :
    m.fetch = .ok i ↔ Instruction.decode m.rest = .ok i := by
  rw [fetch_eq_decode_rest]
  cases Instruction.decode m.rest with
  | ok j =>
    change Except.ok j = .ok i ↔ _
    simp only [Except.ok.injEq]
  | error e =>
    change Except.error (m.fetchFault e) = .ok i ↔ _
    simp only [reduceCtorEq]

theorem fetch_eq_error_iff {m : Machine} {fault : Fault} :
    m.fetch = .error fault ↔
      ∃ e, Instruction.decode m.rest = .error e ∧ m.fetchFault e = fault := by
  rw [fetch_eq_decode_rest]
  cases Instruction.decode m.rest with
  | ok i =>
    change Except.ok i = .error fault ↔ _
    simp
  | error e =>
    change Except.error (m.fetchFault e) = .error fault ↔ _
    simp

theorem fits_of_fetch {m : Machine} {i : Instruction} (fetched : m.fetch = .ok i) :
    m.pc + i.opcode.length ≤ memorySize := by
  have written := (Instruction.decode_eq_ok_iff.mp (fetch_eq_ok_iff.mp fetched)).1
  have fits := written.length_le
  have long := i.opcode.length_pos
  rw [Instruction.length_encode, length_rest] at fits
  omega

structure Performs (m : Machine) (i : Instruction) (action : Action) : Prop where
  running : m.status = .running
  fetched : m.fetch = .ok i
  resolved : i.resolve m.pc = .ok action

inductive Stepping (m : Machine) : Transition (Except Fault Status) → Prop where
  | lost {fault : Fault} (fetched : m.fetch = .error fault) : Stepping m (m.fail fault)
  | refused {i : Instruction} {fault : Fault} (fetched : m.fetch = .ok i)
      (resolved : i.resolve m.pc = .error fault) :
      Stepping m ((m.fail fault).after [.note (.executing m.pc i)])
  | done {i : Instruction} {action : Action} (performs : m.Performs i action) :
      Stepping m ((m.complete (m.pc + i.opcode.length) action).after [.note (.executing m.pc i)])

theorem stepping_step {m : Machine} (running : m.status = .running) : Stepping m m.step := by
  cases fetched : m.fetch with
  | error fault =>
    rw [step_of_fetch_error running fetched]
    exact .lost fetched
  | ok i =>
    rw [step_of_fetch running fetched]
    cases resolved : i.resolve m.pc with
    | error fault =>
      rw [execute_of_error resolved]
      exact .refused fetched resolved
    | ok action =>
      rw [execute_of_ok resolved]
      exact .done ⟨running, fetched, resolved⟩

theorem Performs.step_eq {m : Machine} {i : Instruction} {action : Action}
    (performs : m.Performs i action) :
    m.step = (m.complete (m.pc + i.opcode.length) action).after [.note (.executing m.pc i)] := by
  rw [step_of_fetch performs.running performs.fetched, execute_of_ok performs.resolved]

theorem step_of_error {m : Machine} {fault : Fault} (running : m.status = .running)
    (failed : m.step.result = .error fault) :
    m.step.machine = { m with status := .faulted fault } ∧ m.step.values = [] := by
  have way := stepping_step running
  generalize m.step = t at way failed
  cases way with
  | lost fetched =>
    obtain rfl := Except.error.inj failed
    exact ⟨rfl, rfl⟩
  | refused fetched resolved =>
    obtain rfl := Except.error.inj failed
    exact ⟨rfl, rfl⟩
  | done performs => contradiction

structure Executes (m : Machine) (i : Instruction) : Prop where
  running : m.status = .running
  decoded : Instruction.decode m.rest = .ok i
  succeeds : ∃ answer, m.step.result = .ok answer

theorem executes_iff_performs {m : Machine} {i : Instruction} :
    m.Executes i ↔ ∃ action, m.Performs i action := by
  constructor
  · intro executes
    have fetched := fetch_eq_ok_iff.mpr executes.decoded
    cases resolved : i.resolve m.pc with
    | ok action => exact ⟨action, executes.running, fetched, resolved⟩
    | error fault =>
      obtain ⟨answer, succeeds⟩ := executes.succeeds
      rw [step_of_fetch executes.running fetched, execute_of_error resolved] at succeeds
      contradiction
  · rintro ⟨action, performs⟩
    refine ⟨performs.running, fetch_eq_ok_iff.mp performs.fetched, ?_⟩
    rw [performs.step_eq]
    exact ⟨_, rfl⟩

theorem executes_of_ok {m : Machine} {answer : Status} (running : m.status = .running)
    (ok : m.step.result = .ok answer) : ∃ i, m.Executes i := by
  cases found : m.fetch with
  | ok i => exact ⟨i, running, fetch_eq_ok_iff.mp found, answer, ok⟩
  | error fault =>
    rw [step_of_fetch_error running found] at ok
    contradiction

theorem executes_or_fails {m : Machine} (running : m.status = .running) :
    (∃ i, m.Executes i) ∨ ∃ fault, m.step.result = .error fault := by
  cases answer : m.step.result with
  | ok status => exact .inl (executes_of_ok running answer)
  | error fault => exact .inr ⟨fault, rfl⟩

end Machine

end ByteMachine
