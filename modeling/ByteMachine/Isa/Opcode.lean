/-!
The ten opcodes. An opcode byte describes itself: its top two bits count the operand bytes that
follow, bit 5 marks arithmetic, and bit 4 marks the instructions that set the program counter.
-/
namespace ByteMachine

inductive Opcode where
  | hlt
  | ret
  | push
  | pop
  | prn
  | call
  | ldi
  | add
  | mul
  | cmp
  deriving DecidableEq, Repr

def declaredOperands (byte : UInt8) : Nat := (byte >>> 6).toNat

namespace Opcode

def all : List Opcode := [hlt, ret, push, pop, prn, call, ldi, add, mul, cmp]

def byte : Opcode → UInt8
  | hlt => 0x01
  | ret => 0x11
  | push => 0x45
  | pop => 0x46
  | prn => 0x47
  | call => 0x50
  | ldi => 0x82
  | add => 0xA0
  | mul => 0xA2
  | cmp => 0xA7

def ofByte? (x : UInt8) : Option Opcode := all.find? fun opcode => opcode.byte = x

def mnemonic : Opcode → String
  | hlt => "HLT"
  | ret => "RET"
  | push => "PUSH"
  | pop => "POP"
  | prn => "PRN"
  | call => "CALL"
  | ldi => "LDI"
  | add => "ADD"
  | mul => "MUL"
  | cmp => "CMP"

def operandCount (opcode : Opcode) : Nat := declaredOperands opcode.byte

def length (opcode : Opcode) : Nat := 1 + opcode.operandCount

def isArithmetic (opcode : Opcode) : Bool := opcode.byte &&& 0x20 != 0

def setsCounter (opcode : Opcode) : Bool := opcode.byte &&& 0x10 != 0

theorem mem_all (opcode : Opcode) : opcode ∈ all := by
  cases opcode <;> decide

theorem ofByte?_byte (opcode : Opcode) : ofByte? opcode.byte = some opcode := by
  cases opcode <;> rfl

theorem ofByte?_eq_some_iff {x : UInt8} {opcode : Opcode} :
    ofByte? x = some opcode ↔ opcode.byte = x := by
  constructor
  · intro h
    simpa using List.find?_some h
  · rintro rfl
    exact ofByte?_byte opcode

theorem byte_injective {o p : Opcode} (h : o.byte = p.byte) : o = p :=
  Option.some.inj ((ofByte?_byte o).symm.trans (h ▸ ofByte?_byte p))

theorem operandCount_le (opcode : Opcode) : opcode.operandCount ≤ 2 := by
  cases opcode <;> decide

theorem length_pos (opcode : Opcode) : 0 < opcode.length := by
  simp only [length]
  omega

end Opcode

end ByteMachine
