import ByteMachine.Text.Line

/-!
Places in a text, by line and column, and notes that point at them. Lines and columns count from
one.
-/
namespace ByteMachine

structure Place where
  index : Nat
  line : Nat
  column : Nat
  deriving DecidableEq, Repr

namespace Place

def first : Place := ⟨0, 1, 1⟩

def past (place : Place) (c : Char) : Place :=
  if c = '\n' then ⟨place.index + 1, place.line + 1, 1⟩
  else ⟨place.index + 1, place.line, place.column + 1⟩

end Place

structure Span where
  start : Place
  stop : Place
  deriving DecidableEq, Repr

namespace Span

def ofPlace (place : Place) : Span := ⟨place, place⟩

def isOneLine (span : Span) : Bool := span.start.line = span.stop.line

def isBefore (a b : Span) : Bool :=
  a.start.index < b.start.index || (a.start.index = b.start.index && a.stop.index ≤ b.stop.index)

def course (span : Span) : String :=
  s!"on line {span.start.line} (column {span.start.column}) through line {span.stop.line} " ++
    s!"(column {span.stop.column - 1})"

end Span

/-- Carets under the spans, which must ascend, as far as they do not overlap; an empty span has one
caret too. -/
def underline (spans : List Span) : List Char :=
  spans.foldl (fun marks span =>
    marks ++ List.replicate (span.start.column - 1 - marks.length) ' ' ++
      List.replicate (max 1 (span.stop.column - span.start.column)) '^') []

/-- The lines of a text with notes below those that the spans lie in. Several lines are numbered. -/
def notated (text : List Char) (spans : List Span) : String :=
  let rows := lines text
  let count := if text.getLast? = some '\n' then rows.length + 1 else rows.length
  let width := if count ≤ 1 then 0 else (toString count).length
  let label (n : Nat) : List Char :=
    if width = 0 then [] else (toString n).toList.leftpad width ' ' ++ [':', ' ']
  let margin := if width = 0 then 4 else width + 2
  let note (n : Nat) (row : List Char) : List Char :=
    let here := spans.filter fun span => span.isOneLine && span.start.line = n
    let notes := if here = [] then [] else List.replicate margin ' ' ++ underline here ++ ['\n']
    (label n).leftpad margin ' ' ++ row ++ ['\n'] ++ notes
  String.ofList (rows.zipIdx 1 |>.flatMap fun (row, n) => note n row)

end ByteMachine
