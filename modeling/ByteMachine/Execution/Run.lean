import ByteMachine.Execution.Step

/-!
Runs: steps repeated until the machine stops or a budget is used up. A machine has finitely many
configurations of memory, registers and program counter, and flags and counters decide nothing, so
a machine that is still running after as many steps as there are configurations will never stop.
-/
namespace ByteMachine.Machine

def runFrom (past : List Event) (m : Machine) : Nat → Transition (Except Fault Status)
  | 0 => ⟨m, .ok m.status, past.reverse⟩
  | budget + 1 =>
    let t := m.step
    let past := t.events.reverse ++ past
    match t.result with
    | .ok .running => runFrom past t.machine budget
    | result => ⟨t.machine, result, past.reverse⟩

/-- At most `budget` steps. A budget of zero asks for the status alone, so its answer is never a
fault. -/
def runFor (m : Machine) (budget : Nat) : Transition (Except Fault Status) := runFrom [] m budget

/-- Program counters in or just past the memory, times the contents of all registers and cells. -/
def configurations : Nat := (memorySize + 1) * Nat.pow 256 (registerCount + memorySize)

def run (m : Machine) : Option (Transition (Except Fault Unit)) :=
  let t := m.runFor configurations
  match t.machine.status with
  | .running => none
  | .halted => some (t.map fun _ => .ok ())
  | .faulted fault => some (t.map fun _ => .error fault)

theorem runFrom_eq_after (past : List Event) (m : Machine) (budget : Nat) :
    runFrom past m budget = (m.runFor budget).after past.reverse := by
  induction budget generalizing past m with
  | zero => simp [runFor, runFrom, Transition.after]
  | succ budget ih =>
    simp only [runFor, runFrom]
    split
    · rw [ih, ih (m.step.events.reverse ++ [])]
      simp [Transition.after]
    · simp [Transition.after]

theorem runFor_zero (m : Machine) : m.runFor 0 = ⟨m, .ok m.status, []⟩ := rfl

theorem runFor_succ_of_running {m : Machine} (going : m.step.result = .ok .running)
    (budget : Nat) :
    m.runFor (budget + 1) = (m.step.machine.runFor budget).after m.step.events := by
  simp [runFor, runFrom, going, runFrom_eq_after m.step.events.reverse]

theorem runFor_succ_of_stopped {m : Machine} (stopped : m.step.result ≠ .ok .running)
    (budget : Nat) : m.runFor (budget + 1) = m.step := by
  simp [runFor, runFrom]

end ByteMachine.Machine
