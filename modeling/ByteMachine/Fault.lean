import ByteMachine.Text.Numeral

/-!
What stops a running machine. A fault names the byte, index or address at which it arose and what
the machine was doing there.
-/
namespace ByteMachine

inductive Access where
  | fetch
  | read
  | write
  deriving DecidableEq, Repr

def Access.text : Access → String
  | fetch => "fetch"
  | read => "read"
  | write => "write"

inductive Fault where
  | unknownInstruction (opcode : UInt8) (address : Nat)
  | registerOutOfRange (index : Nat) (access : Access)
  | addressOutOfRange (address : Nat) (access : Access)
  deriving DecidableEq, Repr

def Fault.message : Fault → String
  | unknownInstruction opcode address =>
    s!"unknown instruction {hex opcode.toNat} at address {hex address}"
  | registerOutOfRange index access =>
    s!"register index {index} out of range during {access.text}"
  | addressOutOfRange address access =>
    s!"memory address {hex address} out of range during {access.text}"

end ByteMachine
