import ByteMachine.Isa.Opcode
import ByteMachine.Text.Numeral

/-!
Instructions as bytes. An instruction is written as its opcode and the operands that the opcode
declares. Reading looks at no byte past those, and gives an operand that is not declared the value
zero.
-/
namespace ByteMachine

structure Instruction where
  opcode : Opcode
  a : UInt8
  b : UInt8
  deriving DecidableEq, Repr

inductive DecodeError where
  | unknownOpcode (opcode : UInt8)
  | truncated (opcode : UInt8) (needed available : Nat)
  deriving DecidableEq, Repr

def DecodeError.message : DecodeError → String
  | unknownOpcode opcode => s!"unknown opcode: {hex opcode.toNat}"
  | truncated opcode needed available =>
    s!"truncated instruction: {hex opcode.toNat} needs {needed} operand bytes, " ++
      s!"{available} available"

namespace Instruction

def maxLength : Nat := 3

def ofOperands (opcode : Opcode) (operands : List UInt8) : Instruction :=
  ⟨opcode, operands.getD 0 0, operands.getD 1 0⟩

def declared (i : Instruction) : List UInt8 := [i.a, i.b].take i.opcode.operandCount

def encode (i : Instruction) : List UInt8 := i.opcode.byte :: i.declared

def decode : List UInt8 → Except DecodeError Instruction
  | [] => .error (.truncated 0 1 0)
  | x :: rest =>
    match Opcode.ofByte? x with
    | none => .error (.unknownOpcode x)
    | some opcode =>
      if rest.length < opcode.operandCount then
        .error (.truncated x opcode.operandCount rest.length)
      else .ok (ofOperands opcode (rest.take opcode.operandCount))

theorem length_declared (i : Instruction) : i.declared.length = i.opcode.operandCount := by
  have := i.opcode.operandCount_le
  simp only [declared, List.length_take, List.length_cons, List.length_nil]
  omega

theorem length_encode (i : Instruction) : i.encode.length = i.opcode.length := by
  simp only [encode, List.length_cons, length_declared, Opcode.length]
  omega

theorem length_encode_le (i : Instruction) : i.encode.length ≤ maxLength := by
  have := i.opcode.operandCount_le
  simp only [length_encode, Opcode.length, maxLength]
  omega

theorem decode_encode_append (i : Instruction) (rest : List UInt8) :
    decode (i.encode ++ rest) = .ok (ofOperands i.opcode i.declared) := by
  have count := i.length_declared
  simp only [encode, List.cons_append, decode, Opcode.ofByte?_byte, List.length_append]
  rw [if_neg (by omega), ← count, List.take_left']
  rfl

end Instruction

end ByteMachine
