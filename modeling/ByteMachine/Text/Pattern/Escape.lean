import ByteMachine.Text.Pattern
import ByteMachine.Text.Pattern.Scan

/-!
What a backslash in a pattern begins: characters by number or by name, classes of characters, and
conditions on a place. A backslash takes the meaning from punctuation.
-/
namespace ByteMachine

inductive Shorthand where
  | digit
  | blank
  | word
  deriving DecidableEq, Repr

def Shorthand.ranges : Shorthand → Ranges
  | digit => [(0x30, 0x39)]
  | blank => [(0x09, 0x0D), (0x20, 0x20)]
  | word => wordRanges

inductive AtomKind where
  /-- A byte is a character that was written with two hexadecimal digits. -/
  | char (c : Char) (isByte : Bool)
  | look (what : Look)
  | shorthand (class_ : Shorthand) (negated : Bool)
  /-- No property of characters is known; the fault says what was looked for. -/
  | property (fault : PatternFault)
  deriving DecidableEq, Repr

structure Atom where
  kind : AtomKind
  span : Span
  deriving DecidableEq, Repr

def propertyKey (name : List Char) : List Char :=
  let name := if (name.take 2).map Char.toLower = ['i', 's'] then name.drop 2 else name
  (name.filter fun c => c.toNat ≤ 0x7F && c != ' ' && c != '_' && c != '-').map Char.toLower

/-- Some names of properties are also names of values, which are looked up instead. -/
def propertyFault (name : List Char) : PatternFault :=
  if ':' ∈ name ∨ '=' ∈ name then .unknownProperty
  else match propertyKey name with
    | ['c', 'f'] | ['s', 'c'] | ['l', 'c'] => .unknownPropertyValue
    | _ => .unknownProperty

def isHexDigit (c : Char) : Bool :=
  c.isDigit || ('a'.toNat ≤ c.toNat && c.toNat ≤ 'f'.toNat) ||
    ('A'.toNat ≤ c.toNat && c.toNat ≤ 'F'.toNat)

def hexChar? (digits : List Char) : Option Char :=
  let n := digits.foldl (fun n c =>
    16 * n + (if c.isDigit then c.toNat - 0x30 else c.toLower.toNat - 0x57)) 0
  if n.isValidChar then some (Char.ofNat n) else none

namespace PatternRead

def hexDigits : Nat → PatternRead (List Char)
  | 0 => return []
  | n + 1 => do
    match ← peek? with
    | none => fail .unfinishedEscape (← here)
    | some c =>
      if isHexDigit c then
        advance
        return c :: (← hexDigits n)
      fail .invalidHexDigit (← charSpan)

def hexInBrackets (start : Place) : PatternRead Atom := do
  let opening ← charSpan
  advance
  let digits ← collect isHexDigit
  match ← peek? with
  | none => fail .unfinishedEscape (← since opening.start)
  | some '}' =>
    let stop ← place
    advance
    if digits = [] then fail .emptyHex (← since opening.start)
    match hexChar? digits with
    | some c => return ⟨.char c false, ← since start⟩
    | none => fail .invalidHex ⟨opening.stop, stop⟩
  | some _ => fail .invalidHexDigit (← charSpan)

def hex (start : Place) (count : Nat) : PatternRead Atom := do
  advance
  match ← peek? with
  | none => fail .unfinishedEscape (← here)
  | some '{' => hexInBrackets start
  | some _ =>
    let first ← place
    match hexChar? (← hexDigits count) with
    | some c => return ⟨.char c (count = 2), ← since start⟩
    | none => fail .invalidHex (← since first)

def property (start : Place) : PatternRead Atom := do
  advance
  let name ← match ← peek? with
    | none => fail .unfinishedEscape (← here)
    | some '{' => do
      advance
      let name ← collect (· ≠ '}')
      if (← peek?).isNone then fail .unfinishedEscape (← here)
      next
      pure name
    | some '\\' => fail .invalidProperty (← charSpan)
    | some c => do
      advance
      pure [c]
  return ⟨.property (propertyFault name), ← since start⟩

def isBoundaryChar (c : Char) : Bool := c.isAlpha || c = '-'

/-- A special edge in curly brackets, unless what they hold looks like a count. -/
def namedEdge? (start : Place) : PatternRead (Option WordEdge) := do
  let before ← get
  advance
  match ← peek? with
  | none => fail .unfinishedBoundary (← since start)
  | some c =>
    if !isBoundaryChar c then
      set before
      return none
    let first ← place
    let name ← collect isBoundaryChar
    if (← peek?) ≠ some '}' then fail .unclosedBoundary (← since before.place)
    let stop ← place
    next
    match String.ofList name with
    | "start" => return some .opening
    | "end" => return some .closing
    | "start-half" => return some .fresh
    | "end-half" => return some .done
    | _ => fail .unknownBoundary ⟨first, stop⟩

def edge (kind : WordEdge) (start : Place) : PatternRead Atom := do
  return ⟨.look (if (← flags).wide then .wideWord else .word kind), ← since start⟩

/-- Punctuation, but for the two brackets that stand for edges of words. -/
def isEscapable (c : Char) : Bool :=
  c.toNat ≤ 0x7F && !c.isAlphanum && c != '<' && c != '>'

def escape : PatternRead Atom := do
  let start ← place
  next
  match ← peek? with
  | none => fail .unfinishedEscape (← since start)
  | some c =>
    if c.isDigit then fail .backReference ⟨start, (← charSpan).stop⟩
    match c with
    | 'x' => hex start 2
    | 'u' => hex start 4
    | 'U' => hex start 8
    | 'p' | 'P' => property start
    | _ =>
      next
      let span ← since start
      let char (c : Char) : PatternRead Atom := return ⟨.char c false, span⟩
      match c with
      | 'd' => return ⟨.shorthand .digit false, span⟩
      | 'D' => return ⟨.shorthand .digit true, span⟩
      | 's' => return ⟨.shorthand .blank false, span⟩
      | 'S' => return ⟨.shorthand .blank true, span⟩
      | 'w' => return ⟨.shorthand .word false, span⟩
      | 'W' => return ⟨.shorthand .word true, span⟩
      | 'a' => char '\x07'
      | 'f' => char '\x0c'
      | 't' => char '\t'
      | 'n' => char '\n'
      | 'r' => char '\r'
      | 'v' => char '\x0b'
      | 'A' => return ⟨.look .start, span⟩
      | 'z' => return ⟨.look .finish, span⟩
      | 'b' =>
        let named ← if (← peek?) = some '{' then namedEdge? start else pure none
        edge (named.getD .edge) start
      | 'B' => edge .inner start
      | '<' => edge .opening start
      | '>' => edge .closing start
      | c => if isEscapable c then char c else fail .unknownEscape span

end PatternRead

end ByteMachine
