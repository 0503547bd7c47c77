import ByteMachine.Execution.Run

/-!
What a host may ask of a machine. Access from outside never faults the machine: a bad index or
address is answered, and nothing changes.
-/
namespace ByteMachine

inductive Request where
  | step
  | run
  | runFor (budget : Nat)
  | readRegister (index : Nat)
  | writeRegister (index : Nat) (value : UInt8)
  | readMemory (address : Nat)
  | writeMemory (address : Nat) (value : UInt8)
  | dump
  deriving DecidableEq, Repr

inductive Reply where
  | status (result : Except Fault Status)
  | done (result : Except Fault Unit)
  | byte (result : Except Fault UInt8)
  | cells (bytes : List UInt8)
  | endless

namespace Machine

def change (m : Machine) (update : Except Fault Machine) : Transition Reply :=
  match update with
  | .ok m' => ⟨m', .done (.ok ()), []⟩
  | .error fault => ⟨m, .done (.error fault), []⟩

def serve (m : Machine) : Request → Transition Reply
  | .step => m.step.map .status
  | .run =>
    match m.run with
    | some t => t.map .done
    | none => ⟨m, .endless, []⟩
  | .runFor budget => (m.runFor budget).map .status
  | .readRegister index => ⟨m, .byte (m.registers.read index), []⟩
  | .writeRegister index value =>
    m.change <| (m.registers.write index value).map fun registers =>
      { m with registers := registers }
  | .readMemory address => ⟨m, .byte (m.memory.read address), []⟩
  | .writeMemory address value =>
    m.change <| (m.memory.write address value).map fun memory => { m with memory := memory }
  | .dump => ⟨m, .cells m.memory.toList, []⟩

end Machine

end ByteMachine
