import ByteMachine.Isa.Instruction

/-!
What decoding makes of bytes, case by case. An instruction is found exactly where its encoding
stands, and no more of the bytes than the longest instruction is ever looked at.
-/
namespace ByteMachine

def NoOpcode (x : UInt8) : Prop := ∀ opcode : Opcode, opcode.byte ≠ x

theorem Opcode.ofByte?_eq_none_iff {x : UInt8} : ofByte? x = none ↔ NoOpcode x := by
  constructor
  · intro unknown opcode same
    have known := ofByte?_byte opcode
    rw [same, unknown] at known
    contradiction
  · intro foreign
    cases found : ofByte? x with
    | none => rfl
    | some opcode => exact absurd (ofByte?_eq_some_iff.mp found) (foreign opcode)

namespace Instruction

def Canonical (i : Instruction) : Prop := ofOperands i.opcode i.declared = i

theorem decode_of_foreign {x : UInt8} (foreign : NoOpcode x) (rest : List UInt8) :
    decode (x :: rest) = .error (.unknownOpcode x) := by
  simp only [decode, Opcode.ofByte?_eq_none_iff.mpr foreign]

theorem decode_of_short {opcode : Opcode} {rest : List UInt8}
    (short : rest.length < opcode.operandCount) :
    decode (opcode.byte :: rest) =
      .error (.truncated opcode.byte opcode.operandCount rest.length) := by
  simp only [decode, Opcode.ofByte?_byte, if_pos short]

theorem decode_of_enough {opcode : Opcode} {rest : List UInt8}
    (enough : opcode.operandCount ≤ rest.length) :
    decode (opcode.byte :: rest) = .ok (ofOperands opcode (rest.take opcode.operandCount)) := by
  simp only [decode, Opcode.ofByte?_byte, if_neg (Nat.not_lt.mpr enough)]

theorem decode_operands (opcode : Opcode) (operands : List UInt8)
    (count : operands.length = opcode.operandCount) (rest : List UInt8) :
    decode (opcode.byte :: (operands ++ rest)) = .ok (ofOperands opcode operands) := by
  have enough : opcode.operandCount ≤ (operands ++ rest).length := by
    rw [List.length_append, count]
    omega
  rw [decode_of_enough enough, ← count, List.take_left]

inductive Decoding : List UInt8 → Except DecodeError Instruction → Prop where
  | empty : Decoding [] (.error (.truncated 0 1 0))
  | unknown {x : UInt8} (rest : List UInt8) (foreign : NoOpcode x) :
      Decoding (x :: rest) (.error (.unknownOpcode x))
  | truncated {opcode : Opcode} {rest : List UInt8} (short : rest.length < opcode.operandCount) :
      Decoding (opcode.byte :: rest)
        (.error (.truncated opcode.byte opcode.operandCount rest.length))
  | whole {opcode : Opcode} {rest : List UInt8} (enough : opcode.operandCount ≤ rest.length) :
      Decoding (opcode.byte :: rest) (.ok (ofOperands opcode (rest.take opcode.operandCount)))

theorem decoding_decode (bytes : List UInt8) : Decoding bytes (decode bytes) := by
  cases bytes with
  | nil => exact .empty
  | cons x rest =>
    cases found : Opcode.ofByte? x with
    | none =>
      have foreign := Opcode.ofByte?_eq_none_iff.mp found
      rw [decode_of_foreign foreign]
      exact .unknown rest foreign
    | some opcode =>
      obtain rfl := Opcode.ofByte?_eq_some_iff.mp found
      by_cases short : rest.length < opcode.operandCount
      · rw [decode_of_short short]
        exact .truncated short
      · have enough := Nat.not_lt.mp short
        rw [decode_of_enough enough]
        exact .whole enough

theorem declared_ofOperands {opcode : Opcode} {operands : List UInt8}
    (count : operands.length = opcode.operandCount) :
    (ofOperands opcode operands).declared = operands := by
  have few := opcode.operandCount_le
  match operands with
  | [] => simp [declared, ofOperands, ← count]
  | [a] => simp [declared, ofOperands, ← count]
  | [a, b] => simp [declared, ofOperands, ← count]
  | _ :: _ :: _ :: _ => simp only [List.length_cons] at count; omega

theorem canonical_ofOperands {opcode : Opcode} {operands : List UInt8}
    (count : operands.length = opcode.operandCount) : (ofOperands opcode operands).Canonical := by
  simp only [Canonical, declared_ofOperands count]
  rfl

theorem decode_eq_ok_iff {bytes : List UInt8} {i : Instruction} :
    decode bytes = .ok i ↔ i.encode <+: bytes ∧ i.Canonical := by
  constructor
  · intro found
    have way := decoding_decode bytes
    rw [found] at way
    cases way with
    | @whole opcode rest enough =>
      have count : (rest.take opcode.operandCount).length = opcode.operandCount := by
        simp only [List.length_take]
        omega
      refine ⟨?_, canonical_ofOperands count⟩
      rw [encode, declared_ofOperands count]
      exact List.prefix_cons_inj _ |>.mpr (List.take_prefix _ rest)
  · rintro ⟨⟨rest, rfl⟩, canonical⟩
    rw [decode_encode_append, canonical]

theorem length_lt_of_truncated {bytes : List UInt8} {x : UInt8} {needed available : Nat}
    (found : decode bytes = .error (.truncated x needed available)) :
    bytes.length < maxLength := by
  have way := decoding_decode bytes
  rw [found] at way
  cases way with
  | empty => simp [maxLength]
  | @truncated opcode rest short =>
    have few := opcode.operandCount_le
    simp only [List.length_cons, maxLength]
    omega

theorem decode_take_maxLength (bytes : List UInt8) : decode (bytes.take maxLength) = decode bytes := by
  cases bytes with
  | nil => rfl
  | cons x rest =>
    simp only [maxLength, List.take_succ_cons, decode]
    cases Opcode.ofByte? x with
    | none => rfl
    | some opcode =>
      have few := opcode.operandCount_le
      have least : min opcode.operandCount 2 = opcode.operandCount := by omega
      by_cases short : rest.length < opcode.operandCount
      · have all : rest.take 2 = rest := List.take_of_length_le (by omega)
        simp only [all]
      · have enough : ¬ (rest.take 2).length < opcode.operandCount := by
          simp only [List.length_take]
          omega
        simp only [if_neg short, if_neg enough, List.take_take, least]

end Instruction

end ByteMachine
