import ByteMachine.Isa.Instruction

/-!
Instructions as assembly text: the mnemonic, then the declared operands between commas. A register
operand carries an R, and an immediate stands alone.
-/
namespace ByteMachine

inductive OperandKind where
  | register
  | immediate
  deriving DecidableEq, Repr

def OperandKind.text : OperandKind → UInt8 → String
  | register, operand => s!"R{operand.toNat}"
  | immediate, operand => s!"{operand.toNat}"

def Opcode.signature : Opcode → List OperandKind
  | hlt | ret => []
  | push | pop | prn | call => [.register]
  | ldi => [.register, .immediate]
  | add | mul | cmp => [.register, .register]

theorem Opcode.length_signature (opcode : Opcode) :
    opcode.signature.length = opcode.operandCount := by
  cases opcode <;> rfl

def Instruction.text (i : Instruction) : String :=
  match i.opcode.signature.zipWith OperandKind.text i.declared with
  | [] => i.opcode.mnemonic
  | operands => i.opcode.mnemonic ++ " " ++ String.intercalate "," operands

end ByteMachine
