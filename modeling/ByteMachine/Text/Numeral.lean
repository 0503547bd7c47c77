/-!
Numbers as text. Addresses and opcodes are shown in hexadecimal, counts in decimal, and a bounded
decimal can be read back from what a user typed.
-/
namespace ByteMachine

def hex (n : Nat) : String :=
  "0x" ++ String.ofList ((Nat.toDigits 16 n).leftpad 2 '0')

def dropPlus : List Char → List Char
  | '+' :: rest => rest
  | all => all

/-- The number below `bound` that a decimal numeral denotes: digits after an optional plus sign,
and nothing else. -/
def readDecimal? (bound : Nat) (text : String) : Option Nat :=
  let digits := dropPlus text.toList
  let value := Nat.ofDigitChars 10 digits 0
  if digits ≠ [] ∧ digits.all Char.isDigit ∧ value < bound then some value else none

theorem readDecimal?_lt {bound n : Nat} {text : String} (h : readDecimal? bound text = some n) :
    n < bound := by
  simp only [readDecimal?, Option.ite_none_right_eq_some, Option.some.injEq] at h
  omega

end ByteMachine
