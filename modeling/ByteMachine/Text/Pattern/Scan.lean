import ByteMachine.Text.Blank
import ByteMachine.Text.Pattern.Fault

/-!
Reading a written pattern from left to right: what is left of it, the flags in force, and how to go
on by one character. With free spacing blanks and comments between the characters do not count.
-/
namespace ByteMachine

structure PatternFlags where
  caseless : Bool
  manyLines : Bool
  dotAll : Bool
  wide : Bool
  anyLineEnd : Bool
  freeSpacing : Bool
  deriving DecidableEq, Repr

def PatternFlags.initial : PatternFlags := ⟨false, false, false, true, false, false⟩

structure PatternScan where
  rest : List Char
  place : Place
  flags : PatternFlags
  names : List (List Char × Span)
  /-- The first part that is well written and cannot be used. -/
  refusal : Option PatternError

namespace PatternScan

def ofText (text : List Char) : PatternScan := ⟨text, .first, .initial, [], none⟩

/-- Past blanks and comments. A comment begins with a number sign and ends with its line. -/
def skipFrom (scan : PatternScan) (inComment : Bool) : List Char → Place → PatternScan
  | [], place => { scan with rest := [], place }
  | c :: rest, place =>
    if inComment then skipFrom scan (c ≠ '\n') rest (place.past c)
    else if c = '#' then skipFrom scan true rest (place.past c)
    else if isBlank c then skipFrom scan false rest (place.past c)
    else { scan with rest := c :: rest, place }

def skip (scan : PatternScan) : PatternScan := scan.skipFrom false scan.rest scan.place

def drop : Nat → PatternScan → PatternScan
  | 0, scan => scan
  | n + 1, scan =>
    match scan.rest with
    | [] => scan
    | c :: rest => drop n { scan with rest, place := scan.place.past c }

/-- The character after the next one. With free spacing blanks in between do not count, and neither
does the number sign of a comment. -/
def second? (scan : PatternScan) : Option Char :=
  let after := scan.rest.tail
  if scan.flags.freeSpacing then
    let solid := after.dropWhile isBlank
    let solid := if solid.head? = some '#' then (solid.tail).dropWhile isBlank else solid
    if solid = [] then after.head? else solid.head?
  else after.head?

end PatternScan

abbrev PatternRead := StateT PatternScan (Except PatternError)

namespace PatternRead

def fail {α : Type} (fault : PatternFault) (span : Span) : PatternRead α :=
  throw ⟨fault, span, none⟩

/-- Notes that a part cannot be used, and reads on. -/
def refuse (fault : PatternFault) (span : Span) : PatternRead Unit :=
  modify fun scan => { scan with refusal := scan.refusal.or (some ⟨fault, span, none⟩) }

def peek? : PatternRead (Option Char) := return (← get).rest.head?

def place : PatternRead Place := return (← get).place

def flags : PatternRead PatternFlags := return (← get).flags

def setFlags (flags : PatternFlags) : PatternRead Unit := modify fun scan => { scan with flags }

def skip : PatternRead Unit :=
  modify fun scan => if scan.flags.freeSpacing then scan.skip else scan

def next : PatternRead Unit := modify (PatternScan.drop 1)

def advance : PatternRead Unit := do
  next
  skip

def charSpan : PatternRead Span := return ⟨(← get).place, ((← get).drop 1).place⟩

def since (start : Place) : PatternRead Span := return ⟨start, (← get).place⟩

def here : PatternRead Span := return .ofPlace (← get).place

def accept (text : List Char) : PatternRead Bool := do
  let scan ← get
  if text.isPrefixOf scan.rest then
    set (scan.drop text.length)
    return true
  return false

def collectUpTo (kind : Char → Bool) : Nat → PatternRead (List Char)
  | 0 => return []
  | n + 1 => do
    match ← peek? with
    | none => return []
    | some c =>
      if kind c then
        advance
        return c :: (← collectUpTo kind n)
      return []

def collect (kind : Char → Bool) : PatternRead (List Char) := do
  collectUpTo kind (← get).rest.length

end PatternRead

end ByteMachine
