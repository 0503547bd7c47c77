import ByteMachine.Execution.Arithmetic
import ByteMachine.Execution.Machine
import ByteMachine.Isa.Instruction

/-!
Actions: instructions whose operands have been checked. Everything that can go wrong with an
instruction goes wrong while it is resolved, so a machine performs an action without failing and a
fault leaves it as it was.
-/
namespace ByteMachine

inductive Action where
  | halt
  | assign (target : Register) (value : UInt8)
  | emit (source : Register)
  | compute (operation : Operation) (a b : Register)
  | push (source : Register)
  | pop (target : Register)
  | call (target : Register) (back : UInt8)
  | ret
  deriving DecidableEq, Repr

def returnAddress (address : Nat) : Except Fault UInt8 :=
  if address < memorySize then .ok (UInt8.ofNat address)
  else .error (.addressOutOfRange address .write)

namespace Instruction

def resolveArithmetic (i : Instruction) (operation : Operation) : Except Fault Action := do
  let a ← Register.ofIndex .read i.a.toNat
  let b ← Register.ofIndex .read i.b.toNat
  return .compute operation a b

def resolve (i : Instruction) (address : Nat) : Except Fault Action :=
  match i.opcode with
  | .hlt => .ok .halt
  | .ret => .ok .ret
  | .ldi => (Register.ofIndex .write i.a.toNat).map fun r => .assign r i.b
  | .prn => (Register.ofIndex .read i.a.toNat).map .emit
  | .add => i.resolveArithmetic .add
  | .mul => i.resolveArithmetic .multiply
  | .cmp => i.resolveArithmetic .compare
  | .push => (Register.ofIndex .read i.a.toNat).map .push
  | .pop => (Register.ofIndex .write i.a.toNat).map .pop
  | .call => do
    let r ← Register.ofIndex .read i.a.toNat
    let back ← returnAddress (address + i.opcode.length)
    return .call r back

end Instruction

namespace Machine

/-- The byte that a push stores. The stack pointer has moved by then, so pushing it stores its new
value. -/
def pushed (m : Machine) (source : Register) : UInt8 :=
  if source = .stackPointer then m.registers.stackPointer - 1 else m.registers.get source

/-- The registers after a pop. The stack pointer moves last, so popping into it leaves one more
than the byte popped. -/
def popInto (m : Machine) (target : Register) : Registers :=
  let filled := m.registers.set target (m.memory.get m.registers.stackPointer)
  filled.setStackPointer (filled.stackPointer + 1)

/-- The machine after an action; `next` is where it goes on unless the action says otherwise. A
call reads its target after the stack pointer has moved. -/
def perform (m : Machine) (next : Nat) : Action → Machine
  | .halt => { m with status := .halted }
  | .assign target value => { m with registers := m.registers.set target value, pc := next }
  | .emit _ => { m with pc := next }
  | .compute operation a b =>
    let (registers, flags) := operation.apply a b m.registers m.flags
    { m with registers := registers, flags := flags, pc := next }
  | .push source => { m.push (m.pushed source) with pc := next }
  | .pop target => { m with registers := m.popInto target, pc := next }
  | .call target back =>
    let called := m.push back
    { called with pc := (called.registers.get target).toNat }
  | .ret => { m.pop.2 with pc := m.pop.1.toNat }

end Machine

end ByteMachine
