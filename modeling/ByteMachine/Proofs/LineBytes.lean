import Mathlib.Tactic.Ring
import ByteMachine.Image.Binary
import ByteMachine.Proofs.LineEndings
import ByteMachine.Proofs.Numerals

/-!
The byte on a line, told as a number. The run of binary digits that opens a line denotes a natural
number, however long it is, and the byte is that number modulo 256. Blanks before the run, what
follows it, and the carriage return of a line ending make no difference.
-/
namespace ByteMachine

def binaryNumber (digits : List Char) : Nat := Nat.ofDigitChars 2 digits 0

def beginsBinary (line : List Char) : Bool := (line.dropWhile isBlank).head?.any isBinaryDigit

def octet (byte : UInt8) : List Char := (Nat.toDigits 2 byte.toNat).leftpad 8 '0'

variable {line blanks run tail digits : List Char}

theorem binaryDigit_cases {c : Char} : isBinaryDigit c = true ↔ c = '0' ∨ c = '1' := by
  simp [isBinaryDigit]

theorem not_isBlank_of_binary {c : Char} (binary : isBinaryDigit c = true) : isBlank c = false := by
  obtain rfl | rfl := binaryDigit_cases.mp binary <;> decide

theorem shift_ofNat {c : Char} (binary : isBinaryDigit c = true) (n : Nat) :
    2 * UInt8.ofNat n + (if c = '1' then 1 else 0) =
      UInt8.ofNat (2 * n + (c.toNat - '0'.toNat)) := by
  rw [UInt8.ofNat_add, UInt8.ofNat_mul]
  obtain rfl | rfl := binaryDigit_cases.mp binary <;> rfl

theorem binaryValue_eq (binary : ∀ c ∈ digits, isBinaryDigit c = true) :
    binaryValue digits = UInt8.ofNat (binaryNumber digits) := by
  suffices folded : ∀ n, digits.foldl (fun value digit => 2 * value + if digit = '1' then 1 else 0)
      (UInt8.ofNat n) = UInt8.ofNat (Nat.ofDigitChars 2 digits n) from folded 0
  induction digits with
  | nil => intro n; rfl
  | cons c digits ih =>
    intro n
    rw [List.forall_mem_cons] at binary
    rw [List.foldl_cons, shift_ofNat binary.1, ih binary.2, Nat.ofDigitChars_cons]

theorem binaryRun_isBinary (line : List Char) : ∀ c ∈ binaryRun line, isBinaryDigit c = true :=
  fun _ member => binaryDigit_cases.mpr (mem_binaryRun member)

theorem beginsBinary_iff_run : beginsBinary line = true ↔ binaryRun line ≠ [] := by
  unfold beginsBinary binaryRun
  cases line.dropWhile isBlank with
  | nil => simp
  | cons c rest => cases binary : isBinaryDigit c <;> simp [binary]

theorem lineByte?_eq (line : List Char) :
    lineByte? line =
      if beginsBinary line then some (UInt8.ofNat (binaryNumber (binaryRun line))) else none := by
  unfold lineByte?
  by_cases begins : beginsBinary line = true
  · have nonempty := beginsBinary_iff_run.mp begins
    rw [if_pos begins, binaryValue_eq (binaryRun_isBinary line)]
    simp [nonempty]
  · have nothing : binaryRun line = [] := by
      by_contra nonempty
      exact begins (beginsBinary_iff_run.mpr nonempty)
    rw [if_neg begins, nothing]
    rfl

theorem isNone_lineByte? (line : List Char) : (lineByte? line).isNone = !beginsBinary line := by
  rw [lineByte?_eq]
  cases beginsBinary line <;> rfl

theorem binaryRun_of_parts (blank : ∀ c ∈ blanks, isBlank c = true)
    (binary : ∀ c ∈ run, isBinaryDigit c = true) (nonempty : run ≠ [])
    (ends : ∀ c ∈ tail.head?, isBinaryDigit c = false) :
    binaryRun (blanks ++ (run ++ tail)) = run := by
  have start : (run ++ tail).dropWhile isBlank = run ++ tail := by
    obtain ⟨c, more, rfl⟩ := List.exists_cons_of_ne_nil nonempty
    have first := not_isBlank_of_binary (binary c List.mem_cons_self)
    simp [first]
  have stop : tail.takeWhile isBinaryDigit = [] := by
    cases tail with
    | nil => rfl
    | cons c more => simp [ends c rfl]
  rw [binaryRun, List.dropWhile_append_of_pos blank, start, List.takeWhile_append_of_pos binary,
    stop, List.append_nil]

theorem binaryRun_append_return (line : List Char) :
    binaryRun (line ++ ['\r']) = binaryRun line := by
  have blank : isBlank '\r' = true := by decide
  have other : isBinaryDigit '\r' = false := by decide
  unfold binaryRun
  rw [List.dropWhile_append]
  split
  · rename_i all
    rw [List.isEmpty_iff.mp all]
    simp [blank]
  · rw [List.takeWhile_append]
    split
    · rename_i whole
      rw [(List.takeWhile_prefix isBinaryDigit).eq_of_length whole]
      simp [other]
    · rfl

theorem lineByte?_append_return (line : List Char) :
    lineByte? (line ++ ['\r']) = lineByte? line := by
  rw [lineByte?, binaryRun_append_return]
  rfl

theorem lineByte?_closedLine (piece : List Char) :
    lineByte? (closedLine piece) = lineByte? piece := by
  obtain same | longer := closedLine_or_return piece
  · rw [same]
  · conv => rhs; rw [longer]
    exact (lineByte?_append_return (closedLine piece)).symm

theorem mem_toDigits_two {c : Char} {n : Nat} (member : c ∈ Nat.toDigits 2 n) :
    isBinaryDigit c = true := by
  obtain ⟨d, small, rfl⟩ := mem_toDigits (by decide) member
  obtain rfl | rfl : d = 0 ∨ d = 1 := by omega
  all_goals decide

theorem octet_isBinary (byte : UInt8) : ∀ c ∈ octet byte, isBinaryDigit c = true := by
  intro c member
  obtain ⟨-, rfl⟩ | digit := by
    simpa only [octet, List.leftpad, List.mem_append, List.mem_replicate] using member
  · rfl
  · exact mem_toDigits_two digit

theorem length_octet (byte : UInt8) : (octet byte).length = 8 := by
  have short : (Nat.toDigits 2 byte.toNat).length ≤ 8 :=
    (Nat.length_toDigits_le_iff (by decide) (by decide)).mpr byte.toNat_lt
  simp only [octet, List.leftpad, List.length_append, List.length_replicate]
  omega

theorem ofDigitChars_shift (digits : List Char) (n : Nat) :
    Nat.ofDigitChars 2 digits n = 2 ^ digits.length * n + binaryNumber digits := by
  induction digits generalizing n with
  | nil => simp [binaryNumber]
  | cons c digits ih =>
    simp only [binaryNumber, Nat.ofDigitChars_cons] at ih ⊢
    rw [ih, ih (2 * 0 + _), List.length_cons]
    ring

theorem binaryNumber_octet (byte : UInt8) : binaryNumber (octet byte) = byte.toNat := by
  simp only [binaryNumber, octet, List.leftpad, Nat.ofDigitChars_append,
    Nat.ofDigitChars_replicate_zero, Nat.mul_zero]
  exact Nat.ofDigitChars_toDigits (by decide) (by decide)

example : octet 0x47 = ['0', '1', '0', '0', '0', '1', '1', '1'] := by decide

theorem ofNat_binaryNumber_octet (wide : List Char) (byte : UInt8) :
    UInt8.ofNat (binaryNumber (wide ++ octet byte)) = byte := by
  have number : binaryNumber (wide ++ octet byte) = 2 ^ 8 * binaryNumber wide + byte.toNat := by
    rw [binaryNumber, Nat.ofDigitChars_append, ofDigitChars_shift, length_octet,
      binaryNumber_octet, binaryNumber]
  apply UInt8.toNat_inj.mp
  rw [UInt8.toNat_ofNat', number, Nat.mul_add_mod, Nat.mod_eq_of_lt byte.toNat_lt]

end ByteMachine
