import ByteMachine.Text.Blank

/-!
The byte on a line of program text: after blanks, the leading run of binary digits. A run longer
than eight digits keeps its low eight bits, and whatever follows the run is a comment.
-/
namespace ByteMachine

def isBinaryDigit (c : Char) : Bool := c = '0' || c = '1'

def binaryRun (line : List Char) : List Char := (line.dropWhile isBlank).takeWhile isBinaryDigit

def binaryValue (digits : List Char) : UInt8 :=
  digits.foldl (fun value digit => 2 * value + if digit = '1' then 1 else 0) 0

def lineByte? (line : List Char) : Option UInt8 :=
  if (binaryRun line).isEmpty then none else some (binaryValue (binaryRun line))

theorem mem_binaryRun {c : Char} {line : List Char} (h : c ∈ binaryRun line) :
    c = '0' ∨ c = '1' := by
  have := List.all_takeWhile (p := isBinaryDigit) (l := line.dropWhile isBlank)
  have := List.all_eq_true.mp this c h
  simpa [isBinaryDigit] using this

theorem lineByte?_eq_none_iff {line : List Char} : lineByte? line = none ↔ binaryRun line = [] := by
  simp [lineByte?]

end ByteMachine
