import ByteMachine.Store.Flags
import ByteMachine.Store.Memory
import ByteMachine.Store.Registers

/-!
The state of a machine and its stack. The stack lies in memory and grows down; the stack pointer
names its newest byte and wraps at both ends.
-/
namespace ByteMachine

inductive Status where
  | running
  | halted
  | faulted (fault : Fault)
  deriving DecidableEq, Repr

structure Machine where
  memory : Memory
  registers : Registers
  flags : Flags
  pc : Nat
  status : Status
  /-- Instructions carried out so far, which are taken to stay below 2 ^ 64. -/
  steps : Nat
  deriving DecidableEq, Repr

namespace Machine

def initial : Machine := ⟨.zero, .initial, .clear, 0, .running, 0⟩

def ofImage (image : Image) : Machine := { initial with memory := initial.memory.load image }

def push (m : Machine) (value : UInt8) : Machine :=
  let top := m.registers.stackPointer - 1
  { m with registers := m.registers.setStackPointer top, memory := m.memory.set top value }

def pop (m : Machine) : UInt8 × Machine :=
  let top := m.registers.stackPointer
  (m.memory.get top, { m with registers := m.registers.setStackPointer (top + 1) })

@[simp] theorem stackPointer_push (m : Machine) (value : UInt8) :
    (m.push value).registers.stackPointer = m.registers.stackPointer - 1 := by
  simp [push]

@[simp] theorem stackPointer_pop (m : Machine) :
    m.pop.2.registers.stackPointer = m.registers.stackPointer + 1 := by
  simp [pop]

theorem pop_push (m : Machine) (value : UInt8) : (m.push value).pop.1 = value := by
  simp [push, pop]

end Machine

end ByteMachine
