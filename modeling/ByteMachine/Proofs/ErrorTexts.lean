import ByteMachine.Fault
import ByteMachine.Image.Basic
import ByteMachine.Isa.Instruction
import ByteMachine.Proofs.Numerals

/-!
What the texts of errors tell. A text is a row of words with one space between any two of them, and
the words say which error it is and with which bytes, numbers and access. So no two errors have the
same text, be they faults of a machine, errors of decoding or errors of loading.
-/
namespace ByteMachine

inductive AnyError where
  | fault (fault : Fault)
  | decoding (error : DecodeError)
  | loading (error : LoadError)
  deriving DecidableEq, Repr

namespace AnyError

def message : AnyError → String
  | fault e => e.message
  | decoding e => e.message
  | loading e => e.message

def words : AnyError → List String
  | fault (.unknownInstruction opcode address) =>
    ["unknown", "instruction", hex opcode.toNat, "at", "address", hex address]
  | fault (.registerOutOfRange index access) =>
    ["register", "index", toString index, "out", "of", "range", "during", access.text]
  | fault (.addressOutOfRange address access) =>
    ["memory", "address", hex address, "out", "of", "range", "during", access.text]
  | decoding (.unknownOpcode opcode) => ["unknown", "opcode:", hex opcode.toNat]
  | decoding (.truncated opcode needed available) =>
    ["truncated", "instruction:", hex opcode.toNat, "needs", toString needed, "operand", "bytes,",
      toString available, "available"]
  | loading (.programTooLarge length capacity) =>
    ["program", "of", toString length, "bytes", "exceeds", "memory", "size", "of",
      toString capacity]

end AnyError

theorem Access.text_inj {x y : Access} : x.text = y.text ↔ x = y := by
  cases x <;> cases y <;> simp [text]

namespace AnyError

theorem space_notMem_hex (n : Nat) : ' ' ∉ (hex n).toList := by
  apply notMem_hex
  · decide
  · decide

theorem space_notMem_decimal (n : Nat) : ' ' ∉ Nat.toDigits 10 n := by
  apply notMem_decimal
  decide

theorem space_notMem_access (access : Access) : ' ' ∉ access.text.toList := by
  cases access <;> simp [Access.text]

theorem space_notMem_words (e : AnyError) : ∀ word ∈ e.words, ' ' ∉ word.toList := by
  rcases e with (_ | _ | _) | (_ | _) | _ <;>
    simp [words, space_notMem_hex, space_notMem_decimal, space_notMem_access]

theorem message_eq_words (e : AnyError) : e.message = " ".intercalate e.words := by
  apply String.ext
  rcases e with e | e | e
  · cases e <;>
    · unfold message Fault.message
      simp [words, toString]
  · cases e <;>
    · unfold message DecodeError.message
      simp [words, toString]
  · cases e
    unfold message LoadError.message
    simp [words, toString]

theorem splitOn_message (e : AnyError) :
    e.message.toList.splitOn ' ' = e.words.map String.toList := by
  have nonempty : e.words.map String.toList ≠ [] := by
    rcases e with (_ | _ | _) | (_ | _) | _ <;> simp [words]
  have single : ∀ word ∈ e.words.map String.toList, ' ' ∉ word := by
    intro word member
    obtain ⟨text, inside, rfl⟩ := List.mem_map.mp member
    exact space_notMem_words e text inside
  rw [message_eq_words, String.toList_intercalate]
  exact List.splitOn_intercalate ' ' single nonempty

/-- Errors of two kinds differ in one of the first two words, or in how many words there are. -/
theorem words_injective {e f : AnyError} (same : e.words = f.words) : e = f := by
  rcases e with (_ | _ | _) | (_ | _) | ⟨_, _⟩ <;>
    rcases f with (_ | _ | _) | (_ | _) | ⟨_, _⟩ <;>
    simp only [words, Nat.toString_eq_repr, List.cons.injEq, String.reduceEq, reduceCtorEq, hex_inj,
      UInt8.toNat_inj, decimal_inj, Access.text_inj, and_true, true_and, and_false, false_and] at same
  all_goals simp only [same]

/-- No two errors have the same text, whatever numbers they carry. -/
theorem message_tells_error : Function.Injective message := by
  intro e f same
  have pieces := congrArg (fun text => text.toList.splitOn ' ') same
  simp only [splitOn_message] at pieces
  apply words_injective
  exact List.map_inj_right (fun _ _ => String.toList_injective) |>.mp pieces

end AnyError

end ByteMachine
