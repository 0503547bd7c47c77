import ByteMachine.Text.Numeral

/-!
Numerals read back. A number can be told from its decimal digits and from its hexadecimal digits,
also where these have been padded, because zeros in front do not change what digits denote. No
numeral contains a blank or a sign that texts put around numerals.
-/
namespace ByteMachine

def hexDigitValue (c : Char) : Nat :=
  if c.isDigit then c.toNat - '0'.toNat else c.toNat - 'a'.toNat + 10

def hexNumber (digits : List Char) : Nat :=
  digits.foldl (fun value c => 16 * value + hexDigitValue c) 0

theorem hexDigitValue_digitChar {d : Nat} (small : d < 16) :
    hexDigitValue d.digitChar = d := by
  revert d
  decide

theorem mem_toDigits {b n : Nat} {c : Char} (base : 1 < b) (member : c ∈ Nat.toDigits b n) :
    ∃ d < b, c = d.digitChar := by
  induction n using Nat.strongRecOn with
  | ind n ih =>
    by_cases small : n < b
    · rw [Nat.toDigits_of_lt_base small, List.mem_singleton] at member
      exact ⟨n, small, member⟩
    · rw [Nat.toDigits_of_base_le base (Nat.le_of_not_lt small), List.mem_append,
        List.mem_singleton] at member
      rcases member with front | last
      · have less : n / b < n := Nat.div_lt_self (by omega) base
        exact ih (n / b) less front
      · exact ⟨n % b, Nat.mod_lt n (by omega), last⟩

theorem notMem_decimal {c : Char} (other : c.isDigit = false) (n : Nat) :
    c ∉ Nat.toDigits 10 n := by
  intro member
  have digit := Nat.isDigit_of_mem_toDigits (by decide) (by decide) member
  rw [other] at digit
  contradiction

theorem decimal_inj {n k : Nat} : n.repr = k.repr ↔ n = k := by
  constructor
  · intro same
    have numbers := congrArg (fun text => Nat.ofDigitChars 10 text.toList 0) same
    simpa only [Nat.toList_repr, Nat.ofDigitChars_ten_toDigits] using numbers
  · intro same
    rw [same]

theorem hexNumber_toDigits (n : Nat) : hexNumber (Nat.toDigits 16 n) = n := by
  induction n using Nat.strongRecOn with
  | ind n ih =>
    by_cases small : n < 16
    · rw [Nat.toDigits_of_lt_base small]
      simpa [hexNumber] using hexDigitValue_digitChar small
    · have front := ih (n / 16) (by omega)
      have last := hexDigitValue_digitChar (Nat.mod_lt n (by decide : 0 < 16))
      rw [Nat.toDigits_of_base_le (by decide) (Nat.le_of_not_lt small)]
      unfold hexNumber at front ⊢
      rw [List.foldl_append, front, List.foldl_cons, List.foldl_nil, last]
      omega

theorem hexNumber_zeros (count : Nat) (digits : List Char) :
    hexNumber (List.replicate count '0' ++ digits) = hexNumber digits := by
  induction count with
  | zero => rfl
  | succ count ih =>
    rw [List.replicate_succ, List.cons_append]
    exact ih

theorem toList_hex (n : Nat) :
    (hex n).toList = '0' :: 'x' :: (Nat.toDigits 16 n).leftpad 2 '0' := by
  simp [hex]

theorem hex_inj {n k : Nat} : hex n = hex k ↔ n = k := by
  constructor
  · intro same
    have padded := congrArg String.toList same
    simp only [toList_hex, List.cons.injEq, true_and, List.leftpad] at padded
    have numbers := congrArg hexNumber padded
    simpa only [hexNumber_zeros, hexNumber_toDigits] using numbers
  · intro same
    rw [same]

example : hex 0x0A = "0x0a" ∧ hex 0x100 = "0x100" := by decide

theorem notMem_hex {c : Char} (other : ∀ d < 16, c ≠ d.digitChar) (mark : c ≠ 'x') (n : Nat) :
    c ∉ (hex n).toList := by
  have zero : c ≠ '0' := other 0 (by decide)
  intro member
  simp only [toList_hex, List.leftpad, List.mem_cons, List.mem_append, List.mem_replicate,
    zero, mark, and_false, false_or] at member
  obtain ⟨d, small, rfl⟩ := mem_toDigits (by decide) member
  exact other d small rfl

end ByteMachine
