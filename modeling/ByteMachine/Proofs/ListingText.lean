import Mathlib.Data.List.TakeWhile
import ByteMachine.Isa.Listing
import ByteMachine.Proofs.Numerals
import ByteMachine.Proofs.Stream

/-!
What the assembly text of an instruction tells. The text can be read back in two parts: what stands
before the first space is the mnemonic, and the numerals in the text are the declared operands. So
texts are equal exactly where encodings are, and a listing line by line is as good as the bytes.
-/
namespace ByteMachine

def numeralsIn (text : List Char) : List Nat :=
  ((text.splitOnP fun c => !c.isDigit).filter (· ≠ [])).map (Nat.ofDigitChars 10 · 0)

section Numerals

variable {c : Char}

theorem numeralsIn_append_break (other : c.isDigit = false) (front rest : List Char) :
    numeralsIn (front ++ c :: rest) = numeralsIn front ++ numeralsIn rest := by
  unfold numeralsIn
  rw [List.splitOnP_append_cons front rest (by rw [other]; rfl), List.filter_append,
    List.map_append]

theorem numeralsIn_of_digitless {text : List Char} (digitless : ∀ c ∈ text, c.isDigit = false) :
    numeralsIn text = [] := by
  induction text with
  | nil => rfl
  | cons c text ih =>
    rw [List.forall_mem_cons] at digitless
    rw [← List.nil_append (c :: text), numeralsIn_append_break digitless.1, ih digitless.2]
    rfl

theorem numeralsIn_decimal (n : Nat) : numeralsIn (Nat.toDigits 10 n) = [n] := by
  have digits : ∀ c ∈ Nat.toDigits 10 n, (!c.isDigit) = false := by
    intro c member
    rw [Nat.isDigit_of_mem_toDigits (by decide) (by decide) member]
    rfl
  unfold numeralsIn
  rw [List.splitOnP_eq_singleton digits]
  simp [Nat.toDigits_ne_nil]

theorem numeralsIn_operand (kind : OperandKind) (operand : UInt8) :
    numeralsIn (kind.text operand).toList = [operand.toNat] := by
  cases kind with
  | register =>
    have written : (OperandKind.register.text operand).toList =
        [] ++ 'R' :: Nat.toDigits 10 operand.toNat := by
      simp [OperandKind.text, toString]
    rw [written, numeralsIn_append_break (by decide), numeralsIn_decimal]
    rfl
  | immediate =>
    have written : (OperandKind.immediate.text operand).toList =
        Nat.toDigits 10 operand.toNat := by
      simp [OperandKind.text, toString]
    rw [written, numeralsIn_decimal]

theorem numeralsIn_intercalate (texts : List String) :
    numeralsIn (",".intercalate texts).toList = texts.flatMap fun text => numeralsIn text.toList := by
  induction texts with
  | nil => rfl
  | cons text texts ih =>
    cases texts with
    | nil => simp
    | cons next texts =>
      have cut : (",".intercalate (text :: next :: texts)).toList =
          text.toList ++ ',' :: (",".intercalate (next :: texts)).toList := by
        simp [String.intercalate_cons_cons]
      rw [cut, numeralsIn_append_break (by decide), ih]
      rfl

theorem numeralsIn_operands {kinds : List OperandKind} {operands : List UInt8}
    (count : operands.length = kinds.length) :
    numeralsIn (",".intercalate (kinds.zipWith OperandKind.text operands)).toList =
      operands.map UInt8.toNat := by
  rw [numeralsIn_intercalate]
  induction kinds generalizing operands with
  | nil =>
    rw [List.length_nil, List.length_eq_zero_iff] at count
    subst count
    rfl
  | cons kind kinds ih =>
    cases operands with
    | nil => contradiction
    | cons operand operands =>
      have rest := ih (Nat.succ.inj count)
      rw [List.zipWith_cons_cons, List.flatMap_cons, numeralsIn_operand, rest]
      rfl

end Numerals

namespace Opcode

theorem find?_mnemonic (opcode : Opcode) :
    (all.find? fun other => other.mnemonic = opcode.mnemonic) = some opcode := by
  cases opcode <;> rfl

theorem mnemonic_injective {o p : Opcode} (same : o.mnemonic = p.mnemonic) : o = p := by
  have found := find?_mnemonic o
  rw [same, find?_mnemonic p] at found
  exact (Option.some.inj found).symm

theorem mnemonic_plain (opcode : Opcode) :
    ∀ c ∈ opcode.mnemonic.toList, c ≠ ' ' ∧ c.isDigit = false := by
  have plain : opcode.mnemonic.toList.all (fun c => c ≠ ' ' && !c.isDigit) = true := by
    cases opcode <;> rfl
  intro c member
  have both := List.all_eq_true.mp plain c member
  simpa using both

end Opcode

namespace Instruction

variable {i j : Instruction} {is js : List Instruction}

def operandTexts (i : Instruction) : List String :=
  i.opcode.signature.zipWith OperandKind.text i.declared

theorem text_of_bare (bare : i.operandTexts = []) : i.text = i.opcode.mnemonic := by
  unfold operandTexts at bare
  unfold text
  rw [bare]

theorem text_of_operands (operands : i.operandTexts ≠ []) :
    i.text = i.opcode.mnemonic ++ " " ++ ",".intercalate i.operandTexts := by
  unfold text
  split
  · rename_i bare
    exact absurd bare operands
  · rfl

structure TextTells (i : Instruction) : Prop where
  mnemonic : i.text.toList.takeWhile (· ≠ ' ') = i.opcode.mnemonic.toList
  operands : numeralsIn i.text.toList = i.declared.map UInt8.toNat

theorem text_tells (i : Instruction) : i.TextTells := by
  have plain := i.opcode.mnemonic_plain
  have letters : numeralsIn i.opcode.mnemonic.toList = [] :=
    numeralsIn_of_digitless fun c member => (plain c member).2
  have word : ∀ c ∈ i.opcode.mnemonic.toList, decide (c ≠ ' ') = true := by
    intro c member
    exact decide_eq_true (plain c member).1
  have shown : numeralsIn (",".intercalate i.operandTexts).toList = i.declared.map UInt8.toNat := by
    apply numeralsIn_operands
    rw [length_declared, Opcode.length_signature]
  by_cases bare : i.operandTexts = []
  · rw [bare] at shown
    constructor
    · rw [text_of_bare bare, List.takeWhile_eq_self_iff.mpr word]
    · rw [text_of_bare bare, letters, ← shown]
      rfl
  · have cut : i.text.toList =
        i.opcode.mnemonic.toList ++ ' ' :: (",".intercalate i.operandTexts).toList := by
      rw [text_of_operands bare]
      simp
    constructor
    · rw [cut, List.takeWhile_append_of_pos word]
      simp
    · rw [cut, numeralsIn_append_break (by decide), letters, shown]
      rfl

theorem text_of_encode (same : i.encode = j.encode) : i.text = j.text := by
  obtain ⟨byte, declared⟩ := List.cons.inj same
  have opcode := Opcode.byte_injective byte
  unfold text
  rw [opcode, declared]

theorem encode_of_text (same : i.text = j.text) : i.encode = j.encode := by
  have first := i.text_tells
  have second := j.text_tells
  have name : i.opcode.mnemonic = j.opcode.mnemonic := by
    apply String.ext
    rw [← first.mnemonic, same, second.mnemonic]
  have numbers : i.declared.map UInt8.toNat = j.declared.map UInt8.toNat := by
    rw [← first.operands, same, second.operands]
  have operands : i.declared = j.declared := by
    apply List.map_inj_right _ |>.mp numbers
    intro x y
    exact UInt8.toNat_inj.mp
  unfold encode
  rw [Opcode.mnemonic_injective name, operands]

theorem text_eq_iff : i.text = j.text ↔ i.encode = j.encode :=
  ⟨encode_of_text, text_of_encode⟩

theorem encode_zeroed (i : Instruction) : i.zeroed.encode = i.encode := by
  have operands : i.zeroed.declared = i.declared := by
    rw [← ofOperands_declared, declared_ofOperands i.length_declared]
  unfold encode
  rw [operands]
  rfl

theorem map_text_eq_iff : is.map text = js.map text ↔ is.map encode = js.map encode := by
  induction is generalizing js with
  | nil => cases js <;> simp
  | cons i is ih =>
    cases js with
    | nil => simp
    | cons j js => simp only [List.map_cons, List.cons.injEq, text_eq_iff, ih]

theorem map_encode_eq_iff : is.map encode = js.map encode ↔ encodeAll is = encodeAll js := by
  constructor
  · intro same
    unfold encodeAll
    rw [List.flatMap_def, same, List.flatMap_def]
  · intro same
    have zeros := congrArg (List.map encode) (zeroed_eq_of_encodeAll same)
    simpa only [List.map_map, Function.comp_def, encode_zeroed] using zeros

/-- Instructions have the same text exactly if they have the same encoding. The text shows the
mnemonic and the declared operands, and nothing of the others. Line by line, listings are equal
exactly if the bytes are that the instructions come to one after another. -/
theorem text_identifies_encoding :
    (∀ i j : Instruction, i.text = j.text ↔ i.encode = j.encode) ∧
      (∀ i : Instruction, i.TextTells) ∧
      ∀ is js : List Instruction, is.map text = js.map text ↔ encodeAll is = encodeAll js := by
  refine ⟨fun i j => text_eq_iff, text_tells, ?_⟩
  intro is js
  rw [map_text_eq_iff, map_encode_eq_iff]

end Instruction

end ByteMachine
