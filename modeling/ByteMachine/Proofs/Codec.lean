import ByteMachine.Proofs.Decoding

/-!
Encoding and decoding undo each other. Decoding what was encoded gives the instruction back, except
that operands which the opcode does not declare have become zero, and whatever is decoded stands
there encoded. What cannot be decoded is told from the first byte and the number of bytes after it.
-/
namespace ByteMachine.Instruction

def zeroed (i : Instruction) : Instruction :=
  ⟨i.opcode, if 1 ≤ i.opcode.operandCount then i.a else 0,
    if 2 ≤ i.opcode.operandCount then i.b else 0⟩

variable {i : Instruction} {bytes : List UInt8} {e : DecodeError}

theorem ofOperands_declared (i : Instruction) : ofOperands i.opcode i.declared = i.zeroed := by
  have few := i.opcode.operandCount_le
  obtain count | count | count : i.opcode.operandCount = 0 ∨ i.opcode.operandCount = 1 ∨
      i.opcode.operandCount = 2 := by omega
  all_goals simp [ofOperands, declared, zeroed, count]

theorem canonical_iff_zero :
    i.Canonical ↔
      (i.opcode.operandCount < 1 → i.a = 0) ∧ (i.opcode.operandCount < 2 → i.b = 0) := by
  rw [Canonical, ofOperands_declared]
  obtain ⟨opcode, a, b⟩ := i
  simp only [zeroed, mk.injEq, true_and, ite_eq_left_iff, Nat.not_le, eq_comm (a := (0 : UInt8))]

theorem decode_eq_error_iff :
    decode bytes = .error e ↔
      (bytes = [] ∧ e = .truncated 0 1 0) ∨
      (∃ x rest, bytes = x :: rest ∧ NoOpcode x ∧ e = .unknownOpcode x) ∨
      ∃ opcode rest, bytes = Opcode.byte opcode :: rest ∧ rest.length < opcode.operandCount ∧
        e = .truncated opcode.byte opcode.operandCount rest.length := by
  constructor
  · intro failed
    have way := decoding_decode bytes
    rw [failed] at way
    cases way with
    | empty => exact .inl ⟨rfl, rfl⟩
    | @unknown x rest foreign => exact .inr (.inl ⟨x, rest, rfl, foreign, rfl⟩)
    | @truncated opcode rest short => exact .inr (.inr ⟨opcode, rest, rfl, short, rfl⟩)
  · rintro (⟨rfl, rfl⟩ | ⟨x, rest, rfl, foreign, rfl⟩ | ⟨opcode, rest, rfl, short, rfl⟩)
    · rfl
    · exact decode_of_foreign foreign rest
    · exact decode_of_short short

/-- An encoded instruction is read back whatever follows it, what is read stands there encoded, and
nothing is read exactly if there are no bytes, a byte that is no opcode, or too few operands. -/
theorem decode_inverts_encode (i : Instruction) (bytes : List UInt8) :
    (∀ rest, decode (i.encode ++ rest) = .ok i.zeroed) ∧
      i.encode.length = 1 + (i.opcode.byte >>> 6).toNat ∧
      (decode bytes = .ok i ↔ i.encode <+: bytes ∧
        (i.opcode.operandCount < 1 → i.a = 0) ∧ (i.opcode.operandCount < 2 → i.b = 0)) ∧
      (decode bytes = .ok i → ∀ other, i.encode <+: other → decode other = .ok i) ∧
      ∀ e, decode bytes = .error e ↔
        (bytes = [] ∧ e = .truncated 0 1 0) ∨
        (∃ x rest, bytes = x :: rest ∧ NoOpcode x ∧ e = .unknownOpcode x) ∨
        ∃ opcode rest, bytes = Opcode.byte opcode :: rest ∧ rest.length < opcode.operandCount ∧
          e = .truncated opcode.byte opcode.operandCount rest.length := by
  refine ⟨fun rest => ?_, i.length_encode, ?_, fun found other written => ?_,
    fun e => decode_eq_error_iff⟩
  · rw [decode_encode_append, ofOperands_declared]
  · rw [decode_eq_ok_iff, canonical_iff_zero]
  · have canonical := (decode_eq_ok_iff.mp found).2
    exact decode_eq_ok_iff.mpr ⟨written, canonical⟩

theorem print_decodes_alone :
    decode [0x47, 3, 0xAA] = .ok ⟨.prn, 3, 0⟩ ∧ decode [0x47, 3] = .ok ⟨.prn, 3, 0⟩ := by
  have found : decode [0x47, 3, 0xAA] = .ok ⟨.prn, 3, 0⟩ := rfl
  obtain ⟨-, -, -, elsewhere, -⟩ := decode_inverts_encode ⟨.prn, 3, 0⟩ [0x47, 3, 0xAA]
  exact ⟨found, elsewhere found [0x47, 3] (List.prefix_refl _)⟩

end ByteMachine.Instruction
