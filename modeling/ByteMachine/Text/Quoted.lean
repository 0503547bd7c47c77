import ByteMachine.Text.Unprintable

/-!
Quoted text: a text between double quotes on one line of printable characters. A quote or a
backslash inside is marked by a backslash, and a character that would not show is named.
-/
namespace ByteMachine

def escape (c : Char) : List Char :=
  match c with
  | '"' => ['\\', '"']
  | '\\' => ['\\', '\\']
  | '\t' => ['\\', 't']
  | '\r' => ['\\', 'r']
  | '\n' => ['\\', 'n']
  | '\x00' => ['\\', '0']
  | _ =>
    if isUnprintable c then ['\\', 'u', '{'] ++ Nat.toDigits 16 c.toNat ++ ['}'] else [c]

def quote (text : List Char) : String :=
  String.ofList (['"'] ++ text.flatMap escape ++ ['"'])

end ByteMachine
