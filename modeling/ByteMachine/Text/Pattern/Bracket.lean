import ByteMachine.Text.Pattern.Escape

/-!
Character classes in square brackets. A class holds characters, ranges, named classes and other
classes; two ampersands, dashes or tildes between parts of it take what both sides have, what only
the left side has, or what one side has and the other has not.
-/
namespace ByteMachine

/-- For each depth below a part of a pattern, the first part that lies there. -/
abbrev Depths := List Span

namespace Depths

def merge : Depths → Depths → Depths
  | [], others => others
  | these, [] => these
  | first :: these, _ :: others => first :: merge these others

def around (span : Span) (parts : List Depths) : Depths := span :: parts.foldl merge []

end Depths

structure ClassPart where
  ranges : Ranges
  /-- Some characters are as written, so that their case may still matter. -/
  plain : Bool
  span : Span
  depths : Depths

def foldAsciiCase (ranges : Ranges) : Ranges :=
  ranges.foldl (fun all (low, high) =>
    let small := (max low 0x61, min high 0x7A)
    let capital := (max low 0x41, min high 0x5A)
    let all := if small.1 ≤ small.2 then all.insert (small.1 - 0x20) (small.2 - 0x20) else all
    if capital.1 ≤ capital.2 then all.insert (capital.1 + 0x20) (capital.2 + 0x20) else all) ranges

structure ClassUnion where
  parts : List ClassPart
  span : Span

namespace ClassUnion

def ofPlace (place : Place) : ClassUnion := ⟨[], .ofPlace place⟩

def push (union : ClassUnion) (part : ClassPart) : ClassUnion :=
  let start := if union.parts.isEmpty then part.span.start else union.span.start
  ⟨part :: union.parts, ⟨start, part.span.stop⟩⟩

def part (union : ClassUnion) : ClassPart :=
  match union.parts with
  | [part] => part
  | [] => ⟨[], false, union.span, []⟩
  | parts =>
    ⟨(parts.map ClassPart.ranges).foldl Ranges.union [], parts.any ClassPart.plain, union.span,
      .around union.span (parts.reverse.map ClassPart.depths)⟩

end ClassUnion

inductive ClassOperator where
  | both
  | onlyLeft
  | onlyOne
  deriving DecidableEq, Repr

def ClassOperator.apply : ClassOperator → Ranges → Ranges → Ranges
  | both, left, right => left.intersection topChar right
  | onlyLeft, left, right => left.difference topChar right
  | onlyOne, left, right =>
    (left.union right).difference topChar (left.intersection topChar right)

inductive ClassFrame where
  | bracket (outer : ClassUnion) (opening : Span) (negated : Bool)
  | operation (operator : ClassOperator) (left : ClassPart)

def namedClass? (name : List Char) : Option Ranges :=
  match String.ofList name with
  | "alnum" => some [(0x30, 0x39), (0x41, 0x5A), (0x61, 0x7A)]
  | "alpha" => some [(0x41, 0x5A), (0x61, 0x7A)]
  | "ascii" => some [(0x00, 0x7F)]
  | "blank" => some [(0x09, 0x09), (0x20, 0x20)]
  | "cntrl" => some [(0x00, 0x1F), (0x7F, 0x7F)]
  | "digit" => some [(0x30, 0x39)]
  | "graph" => some [(0x21, 0x7E)]
  | "lower" => some [(0x61, 0x7A)]
  | "print" => some [(0x20, 0x7E)]
  | "punct" => some [(0x21, 0x2F), (0x3A, 0x40), (0x5B, 0x60), (0x7B, 0x7E)]
  | "space" => some Shorthand.blank.ranges
  | "upper" => some [(0x41, 0x5A)]
  | "word" => some wordRanges
  | "xdigit" => some [(0x30, 0x39), (0x41, 0x46), (0x61, 0x66)]
  | _ => none

/-- A named class between colons in brackets of its own: its members, whether it stands for all
others, and how many characters it takes. -/
def readNamedClass? (text : List Char) : Option (Ranges × Bool × Nat) := do
  let '[' :: ':' :: inner := text | none
  let (negated, inner) := match inner with
    | '^' :: inner => (true, inner)
    | _ => (false, inner)
  let (name, rest) := inner.span (· ≠ ':')
  let ':' :: ']' :: _ := rest | none
  return (← namedClass? name, negated, name.length + (if negated then 5 else 4))

namespace PatternRead

def foldCase (part : ClassPart) : PatternRead ClassPart := do
  let flags ← flags
  if flags.caseless ∧ part.plain then
    if flags.wide then refuse .wideCase part.span
    return { part with ranges := foldAsciiCase part.ranges, plain := false }
  return part

/-- Everything else. Beyond ASCII that is more than bytes can tell. -/
def negate (part : ClassPart) : PatternRead ClassPart := do
  if !(← flags).wide then refuse .brokenText part.span
  return { part with ranges := part.ranges.complement topChar }

def closeClass (part : ClassPart) (negated : Bool) : PatternRead ClassPart := do
  let part ← foldCase part
  if negated then negate part else return part

def checkMember (c : Char) (isByte : Bool) (span : Span) : PatternRead Unit := do
  if !(← flags).wide && c.toNat > 0x7F then
    refuse (if isByte then .brokenText else .onlyAscii) span

def shorthandPart (shorthand : Shorthand) (negated : Bool) (span : Span) :
    PatternRead ClassPart := do
  let part : ClassPart := ⟨shorthand.ranges, false, span, []⟩
  if (← flags).wide then
    refuse .wideClass span
    return part
  if negated then negate part else return part

def refuseProperty (fault : PatternFault) (span : Span) : PatternRead Unit := do
  refuse (if (← flags).wide then fault else .onlyAscii) span

def classAtom : PatternRead Atom := do
  match ← peek? with
  | some '\\' => escape
  | c =>
    let span ← charSpan
    next
    return ⟨.char (c.getD ' ') false, span⟩

def classMember (atom : Atom) : PatternRead ClassPart := do
  match atom.kind with
  | .char c isByte =>
    checkMember c isByte atom.span
    return ⟨[(c.toNat, c.toNat)], true, atom.span, []⟩
  | .shorthand shorthand negated => shorthandPart shorthand negated atom.span
  | .property fault =>
    refuseProperty fault atom.span
    return ⟨[], false, atom.span, []⟩
  | .look _ => fail .misplacedEscape atom.span

def rangeEnd (atom : Atom) : PatternRead (Char × Bool) :=
  match atom.kind with
  | .char c isByte => return (c, isByte)
  | _ => fail .rangeOfClass atom.span

def unclosed {α : Type} (frames : List ClassFrame) : PatternRead α := do
  let opening? : ClassFrame → Option Span
    | .bracket _ opening _ => some opening
    | .operation .. => none
  fail .unclosedClass ((frames.findSome? opening?).getD (← here))

/-- A member or a range. A dash before a closing bracket or another dash makes no range. -/
def classItem (frames : List ClassFrame) : PatternRead ClassPart := do
  let first ← classAtom
  skip
  match ← peek? with
  | none => unclosed frames
  | some c =>
    let second? := (← get).second?
    if c ≠ '-' ∨ second? = some ']' ∨ second? = some '-' then classMember first
    else
      advance
      if (← peek?).isNone then unclosed frames
      let last ← classAtom
      let span : Span := ⟨first.span.start, last.span.stop⟩
      let (low, lowIsByte) ← rangeEnd first
      let (high, highIsByte) ← rangeEnd last
      if high.toNat < low.toNat then fail .invertedRange span
      checkMember low lowIsByte first.span
      checkMember high highIsByte last.span
      return ⟨[(low.toNat, high.toNat)], true, span, []⟩

def leadingDashes (start : Place) (union : ClassUnion) : Nat → PatternRead ClassUnion
  | 0 => return union
  | n + 1 => do
    if (← peek?) = some '-' then
      let member ← classMember ⟨.char '-' false, ← charSpan⟩
      advance
      if (← peek?).isNone then fail .unclosedClass (.ofPlace start)
      leadingDashes start (union.push member) n
    else return union

/-- An opening bracket, a caret if all others are meant, and what cannot close or divide a class at
its beginning. -/
def openClass (outer : ClassUnion) : PatternRead (ClassFrame × ClassUnion) := do
  let start ← place
  let advanceWithin : PatternRead Unit := do
    advance
    if (← peek?).isNone then fail .unclosedClass (← since start)
  advanceWithin
  let negated := (← peek?) = some '^'
  if negated then advanceWithin
  let union ← leadingDashes start (.ofPlace (← place)) (← get).rest.length
  let union ←
    if union.parts.isEmpty ∧ (← peek?) = some ']' then do
      let member ← classMember ⟨.char ']' false, ← charSpan⟩
      advanceWithin
      pure (union.push member)
    else pure union
  return (.bracket outer (← since start) negated, union)

def applyOperation (right : ClassPart) :
    List ClassFrame → PatternRead (ClassPart × List ClassFrame)
  | .operation operator left :: frames => do
    let span : Span := ⟨left.span.start, right.span.stop⟩
    let depths := Depths.around span [left.depths, right.depths]
    let right ← foldCase right
    let left ← foldCase left
    return (⟨operator.apply left.ranges right.ranges, left.plain || right.plain, span, depths⟩,
      frames)
  | frames => return (right, frames)

def operator? (text : List Char) : Option ClassOperator :=
  match text with
  | '&' :: '&' :: _ => some .both
  | '-' :: '-' :: _ => some .onlyLeft
  | '~' :: '~' :: _ => some .onlyOne
  | _ => none

/-- The rest of a class, of which each round reads a character at least. -/
def classRest : Nat → List ClassFrame → ClassUnion → PatternRead ClassPart
  | 0, frames, _ => unclosed frames
  | n + 1, frames, union => do
    skip
    let rest := (← get).rest
    match rest.head? with
    | none => unclosed frames
    | some '[' =>
      match readNamedClass? rest with
      | some (ranges, negated, length) =>
        let start ← place
        modify (PatternScan.drop length)
        let part ← closeClass ⟨ranges, true, ← since start, []⟩ negated
        classRest n frames (union.push part)
      | none =>
        let (frame, union) ← openClass union
        classRest n (frame :: frames) union
    | some ']' =>
      let (inner, frames) ← applyOperation union.part frames
      next
      match frames with
      | .bracket outer opening negated :: frames =>
        let span ← since opening.start
        let part ← closeClass ⟨inner.ranges, inner.plain, span, .around span [inner.depths]⟩ negated
        if frames.isEmpty then return part
        classRest n frames (outer.push part)
      | _ => return inner
    | some _ =>
      match operator? rest with
      | some operator =>
        modify (PatternScan.drop 2)
        let (left, frames) ← applyOperation union.part frames
        classRest n (.operation operator left :: frames) (.ofPlace (← place))
      | none => classRest n frames (union.push (← classItem frames))

def bracketClass : PatternRead ClassPart := do
  let (frame, union) ← openClass (.ofPlace (← place))
  classRest ((← get).rest.length + 1) [frame] union

end PatternRead

end ByteMachine
