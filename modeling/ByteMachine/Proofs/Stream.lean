import Mathlib.Data.Set.Function
import ByteMachine.Proofs.Codec
import ByteMachine.Proofs.Progress
import ByteMachine.Proofs.StraightLine

/-!
Instructions one after another. The encoding of an instruction says itself where it ends, so a
sequence of encodings is read back in one way only: each instruction is looked for where the one
before it ends. Bytes that are read without an error are the encoding of what was read.
-/
namespace ByteMachine.Instruction

/-- The instructions from an offset on, up to the end of the bytes, and the offset where that
stops. -/
def decodeFrom (bytes : List UInt8) (offset : Nat) :
    Except DecodeError (List Instruction × Nat) :=
  if offset < bytes.length then do
    let i ← decode (bytes.drop offset)
    let (later, stop) ← decodeFrom bytes (offset + i.opcode.length)
    return (i :: later, stop)
  else .ok ([], offset)
termination_by bytes.length - offset
decreasing_by
  have long := i.opcode.length_pos
  omega

variable {bytes : List UInt8} {i : Instruction} {is js : List Instruction} {offset stop : Nat}

theorem decodeFrom_of_le (past : bytes.length ≤ offset) :
    decodeFrom bytes offset = .ok ([], offset) := by
  rw [decodeFrom, if_neg (Nat.not_lt.mpr past)]

theorem decodeFrom_eq_ok_iff (before : offset < bytes.length) :
    decodeFrom bytes offset = .ok (is, stop) ↔
      ∃ i later, is = i :: later ∧ decode (bytes.drop offset) = .ok i ∧
        decodeFrom bytes (offset + i.opcode.length) = .ok (later, stop) := by
  rw [decodeFrom, if_pos before]
  simp only [bind_eq_ok_iff]
  constructor
  · rintro ⟨i, found, ⟨later, stop'⟩, rest, same⟩
    obtain ⟨rfl, rfl⟩ := Prod.mk.inj (Except.ok.inj same)
    exact ⟨i, later, rfl, found, rest⟩
  · rintro ⟨i, later, rfl, found, rest⟩
    exact ⟨i, found, (later, stop), rest, rfl⟩

theorem decodeFrom_encodeAll (front : List UInt8) (is : List Instruction) :
    decodeFrom (front ++ encodeAll is) front.length =
      .ok (is.map zeroed, (front ++ encodeAll is).length) := by
  induction is generalizing front with
  | nil =>
    have nothing : front ++ encodeAll [] = front := List.append_nil front
    rw [nothing]
    exact decodeFrom_of_le (Nat.le_refl _)
  | cons i is ih =>
    have found : decode ((front ++ encodeAll (i :: is)).drop front.length) = .ok i.zeroed := by
      rw [List.drop_left, encodeAll_cons, decode_encode_append, ofOperands_declared]
    have later := ih (front ++ i.encode)
    rw [List.append_assoc, ← encodeAll_cons, List.length_append, length_encode] at later
    have before : front.length < (front ++ encodeAll (i :: is)).length := by
      have long := i.opcode.length_pos
      simp only [encodeAll_cons, List.length_append, length_encode]
      omega
    exact (decodeFrom_eq_ok_iff before).mpr ⟨i.zeroed, is.map zeroed, rfl, found, later⟩

example : decodeFrom (encodeAll [⟨.prn, 3, 9⟩, ⟨.ret, 1, 0⟩]) 0 =
    .ok ([⟨.prn, 3, 0⟩, ⟨.ret, 0, 0⟩], 3) := by cbv

theorem encodeAll_of_decodeFrom (found : decodeFrom bytes offset = .ok (is, stop))
    (inside : offset ≤ bytes.length) :
    stop = bytes.length ∧ encodeAll is = bytes.drop offset ∧ ∀ i ∈ is, i.zeroed = i := by
  -- The bytes stay the same; the offset moves to their end, so the induction is on what is left.
  induction left : bytes.length - offset using Nat.strongRecOn generalizing offset is with
  | ind left' ih =>
    by_cases before : offset < bytes.length
    · obtain ⟨i, later, rfl, decoded, rest⟩ := (decodeFrom_eq_ok_iff before).mp found
      obtain ⟨⟨tail, written⟩, canonical⟩ := decode_eq_ok_iff.mp decoded
      have long := i.opcode.length_pos
      have room : offset + i.opcode.length ≤ bytes.length := by
        have total := congrArg List.length written
        rw [List.length_append, length_encode, List.length_drop] at total
        omega
      obtain ⟨stops, encoded, zeros⟩ := ih _ (by omega) rest room rfl
      refine ⟨stops, ?_, ?_⟩
      · rw [encodeAll_cons, encoded, ← List.drop_drop, ← written, ← i.length_encode,
          List.drop_left]
      · intro j member
        rcases List.mem_cons.mp member with rfl | member
        · rwa [Canonical, ofOperands_declared] at canonical
        · exact zeros j member
    · rw [decodeFrom_of_le (Nat.le_of_not_lt before)] at found
      obtain ⟨rfl, rfl⟩ := Prod.mk.inj (Except.ok.inj found)
      refine ⟨by omega, ?_, ?_⟩
      · rw [List.drop_of_length_le (Nat.le_of_not_lt before)]
        rfl
      · intro j member
        contradiction

theorem zeroed_eq_of_encodeAll (same : encodeAll is = encodeAll js) :
    is.map zeroed = js.map zeroed := by
  have first := decodeFrom_encodeAll [] is
  have second := decodeFrom_encodeAll [] js
  rw [same, second] at first
  exact (Prod.mk.inj (Except.ok.inj first)).1.symm

theorem map_zeroed (zeros : ∀ i ∈ is, i.zeroed = i) : is.map zeroed = is := by
  rw [List.map_congr_left zeros, List.map_id']

/-- Encoding one after another loses nothing but operands that are not declared, and reaches exactly
the bytes that can be read one after another. A machine goes from instruction to instruction in the
same way. -/
theorem stream_uniquely_decodable :
    (∀ is, decodeFrom (encodeAll is) 0 = .ok (is.map zeroed, (encodeAll is).length)) ∧
      (∀ bytes is stop, decodeFrom bytes 0 = .ok (is, stop) →
        stop = bytes.length ∧ encodeAll is = bytes) ∧
      Set.BijOn encodeAll { is | ∀ i ∈ is, i.zeroed = i }
        { bytes | ∃ is stop, decodeFrom bytes 0 = .ok (is, stop) } ∧
      ∀ (m : Machine) (i : Instruction), m.Executes i → ¬ i.Jumps → i.opcode ≠ .hlt →
        decode (m.memory.toList.drop m.pc) = .ok i ∧
          m.step.machine.pc = m.pc + i.opcode.length := by
  refine ⟨decodeFrom_encodeAll [], ?_, ⟨?_, ?_, ?_⟩, ?_⟩
  · intro bytes is stop found
    obtain ⟨stops, encoded, -⟩ := encodeAll_of_decodeFrom found (Nat.zero_le _)
    exact ⟨stops, encoded⟩
  · intro is _
    exact ⟨_, _, decodeFrom_encodeAll [] is⟩
  · intro is zeros js zeros' same
    have equal := zeroed_eq_of_encodeAll same
    rwa [map_zeroed zeros, map_zeroed zeros'] at equal
  · rintro bytes ⟨is, stop, found⟩
    obtain ⟨-, encoded, zeros⟩ := encodeAll_of_decodeFrom found (Nat.zero_le _)
    exact ⟨is, zeros, encoded⟩
  · intro m i executes straight goes
    exact ⟨executes.decoded, (executes.advances straight goes).2⟩

end ByteMachine.Instruction
