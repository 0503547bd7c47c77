import ByteMachine.Execution.Action
import ByteMachine.Execution.Transition

/-!
One step: fetch, resolve, perform. A machine that has stopped stays as it is and repeats its
answer. A step that faults changes the status and nothing else.
-/
namespace ByteMachine.Machine

/-- The instruction at the program counter. If the memory ends too early, the fault names the
first address that is missing. -/
def fetch (m : Machine) : Except Fault Instruction :=
  let window := m.memory.window m.pc Instruction.maxLength
  (Instruction.decode window).mapError fun
    | .unknownOpcode opcode => .unknownInstruction opcode m.pc
    | .truncated .. => .addressOutOfRange (m.pc + window.length) .fetch

def report (m : Machine) : Action → List Event
  | .emit source => [.emit (m.registers.get source)]
  | .halt => [.note (.halted m.pc (m.steps + 1))]
  | _ => []

def fail (m : Machine) (fault : Fault) : Transition (Except Fault Status) :=
  ⟨{ m with status := .faulted fault }, .error fault, [.note (.faulted m.pc fault)]⟩

def complete (m : Machine) (next : Nat) (action : Action) : Transition (Except Fault Status) :=
  let m' := { m.perform next action with steps := m.steps + 1 }
  ⟨m', .ok m'.status, m.report action⟩

def execute (m : Machine) (i : Instruction) : Transition (Except Fault Status) :=
  Transition.after [.note (.executing m.pc i)] <|
    match i.resolve m.pc with
    | .error fault => m.fail fault
    | .ok action => m.complete (m.pc + i.opcode.length) action

def step (m : Machine) : Transition (Except Fault Status) :=
  match m.status with
  | .halted => ⟨m, .ok .halted, []⟩
  | .faulted fault => ⟨m, .error fault, []⟩
  | .running =>
    match m.fetch with
    | .error fault => m.fail fault
    | .ok i => m.execute i

theorem step_of_halted {m : Machine} (h : m.status = .halted) : m.step = ⟨m, .ok .halted, []⟩ := by
  simp [step, h]

theorem step_of_faulted {m : Machine} {fault : Fault} (h : m.status = .faulted fault) :
    m.step = ⟨m, .error fault, []⟩ := by
  simp [step, h]

theorem step_of_fetch_error {m : Machine} {fault : Fault} (running : m.status = .running)
    (h : m.fetch = .error fault) : m.step = m.fail fault := by
  simp [step, running, h]

theorem step_of_fetch {m : Machine} {i : Instruction} (running : m.status = .running)
    (h : m.fetch = .ok i) : m.step = m.execute i := by
  simp [step, running, h]

theorem execute_of_error {m : Machine} {i : Instruction} {fault : Fault}
    (h : i.resolve m.pc = .error fault) :
    m.execute i = (m.fail fault).after [.note (.executing m.pc i)] := by
  simp [execute, h]

theorem execute_of_ok {m : Machine} {i : Instruction} {action : Action}
    (h : i.resolve m.pc = .ok action) :
    m.execute i =
      (m.complete (m.pc + i.opcode.length) action).after [.note (.executing m.pc i)] := by
  simp [execute, h]

end ByteMachine.Machine
