import ByteMachine.Text.Ranges

/-!
Patterns that a text is searched for. A pattern is followed through a text from all places at once:
from marks at the places where it may begin to marks at the places where it can end.
-/
namespace ByteMachine

def topChar : Nat := 0x10FFFF

def wordRanges : Ranges := [(0x30, 0x39), (0x41, 0x5A), (0x5F, 0x5F), (0x61, 0x7A)]

inductive WordEdge where
  | edge
  | inner
  | opening
  | closing
  | fresh
  | done
  deriving DecidableEq, Repr

def WordEdge.holds : WordEdge → (before after : Bool) → Bool
  | edge, before, after => before != after
  | inner, before, after => before == after
  | opening, before, after => !before && after
  | closing, before, after => before && !after
  | fresh, before, _ => !before
  | done, _, after => !after

inductive Look where
  | start
  | finish
  | lineStart
  | lineFinish
  /-- A line begins after a line feed or a carriage return, but not between the two. -/
  | anyLineStart
  | anyLineFinish
  | word (kind : WordEdge)
  /-- A condition on the word characters of all scripts, for which there is no table. -/
  | wideWord
  deriving DecidableEq, Repr

namespace Look

def holds (look : Look) (before after : Option Char) : Bool :=
  let isWord (c : Option Char) : Bool := c.any fun c => wordRanges.contains c.toNat
  match look with
  | start => before = none
  | finish => after = none
  | lineStart => before = none ∨ before = some '\n'
  | lineFinish => after = none ∨ after = some '\n'
  | anyLineStart =>
    before = none ∨ before = some '\n' ∨ (before = some '\r' ∧ after ≠ some '\n')
  | anyLineFinish =>
    after = none ∨ after = some '\r' ∨ (after = some '\n' ∧ before ≠ some '\r')
  | word kind => kind.holds (isWord before) (isWord after)
  | wideWord => false

end Look

inductive Pattern where
  | empty
  | one (set : Ranges)
  | look (what : Look)
  | seq (first second : Pattern)
  | either (first second : Pattern)
  | group (body : Pattern)
  | repeated (body : Pattern) (least : Nat) (most : Option Nat)
  deriving DecidableEq, Repr

/-- The places of a text that have been reached: one before each character, and one at the end. -/
abbrev Marks := List Bool

namespace Marks

def union (some others : Marks) : Marks := List.zipWith (· || ·) some others

def steps (step : Marks → Marks) : Nat → Marks → Marks
  | 0, marks => marks
  | n + 1, marks =>
    let next := step marks
    if next = marks then marks else steps step n next

end Marks

def surroundings (text : List Char) : List (Option Char × Option Char) :=
  (none :: text.map some).zip (text.map some ++ [none])

namespace Pattern

def single (c : Char) : Pattern := one [(c.toNat, c.toNat)]

def matchNothing : Pattern := one []

/-- Where the pattern can end if it begins at a marked place. A repetition that leads anywhere new
leads past a character of the text, so no more steps than characters are needed. -/
def follow (text : List Char) : Pattern → Marks → Marks
  | empty, marks => marks
  | one set, marks =>
    false :: List.zipWith (fun c mark => mark && set.contains c.toNat) text marks
  | look what, marks =>
    List.zipWith (fun (before, after) mark => mark && what.holds before after)
      (surroundings text) marks
  | seq first second, marks => follow text second (follow text first marks)
  | either first second, marks => (follow text first marks).union (follow text second marks)
  | group body, marks => follow text body marks
  | repeated body least most, marks =>
    let more := (most.map (· - least)).getD text.length
    Marks.steps (fun reached => reached.union (follow text body reached)) more
      (Marks.steps (follow text body) least marks)

def occursIn (pattern : Pattern) (text : List Char) : Bool :=
  (pattern.follow text (true :: text.map fun _ => true)).any id

def isHollow : Pattern → Bool
  | empty | look _ => true
  | one _ => false
  | seq first second | either first second => isHollow first && isHollow second
  | group body | repeated body _ _ => isHollow body

def parts : Pattern → List Pattern
  | seq first second => parts first ++ parts second
  | empty => []
  | pattern => [pattern]

def sequence (patterns : List Pattern) : Pattern :=
  match (patterns.flatMap parts).reverse with
  | [] => empty
  | last :: others => others.foldl (fun rest first => seq first rest) last

def alternatives : Pattern → List Pattern
  | either first second => first :: alternatives second
  | pattern => [pattern]

def set? : Pattern → Option Ranges
  | one set => some set
  | _ => none

def hasGroup : Pattern → Bool
  | group _ => true
  | seq first second | either first second => hasGroup first || hasGroup second
  | repeated body _ _ => hasGroup body
  | empty | one _ | look _ => false

def isChar : Pattern → Bool
  | one [(low, high)] => low = high
  | _ => false

def elements (pattern : Pattern) : List (List Pattern) :=
  pattern.parts.foldr (fun part elements =>
    match elements with
    | [] => [[part]]
    | run :: others =>
      if part.isChar && run.all isChar then (part :: run) :: others else [part] :: elements) []

/-- The elements that two lists begin with. Groups differ, even where their contents do not. -/
def sharedElements : List (List Pattern) → List (List Pattern) → List (List Pattern)
  | first :: these, second :: others =>
    if first = second ∧ ¬ first.any hasGroup then first :: sharedElements these others else []
  | _, _ => []

/-- One of several patterns, where the first of them has no more than so many elements. If all are
sets of characters, so is the result, and what all of them begin with stands in front only once. -/
def choiceUpTo : Nat → List Pattern → Pattern
  | 0, _ => matchNothing
  | depth + 1, patterns =>
    let patterns := patterns.flatMap alternatives
    match patterns.mapM set? with
    | some sets => one (sets.foldl Ranges.union [])
    | none =>
      let rows := patterns.map elements
      let shared := match rows with
        | first :: others :: more =>
          if rows.all (2 ≤ ·.length) then (others :: more).foldl sharedElements first else []
        | _ => []
      if shared.isEmpty then
        match patterns.reverse with
        | [] => matchNothing
        | last :: others => others.foldl (fun rest first => either first rest) last
      else
        let ends := rows.map fun row => sequence (row.drop shared.length).flatten
        sequence (shared.flatten ++ [choiceUpTo depth ends])

def choice (patterns : List Pattern) : Pattern :=
  choiceUpTo ((patterns.map fun pattern => pattern.elements.length).foldl max 0 + 1) patterns

/-- A repetition in its simplest form: what matches only the empty text need not match twice. -/
def times (body : Pattern) (least : Nat) (most : Option Nat) : Pattern :=
  let least := if body.isHollow then min least 1 else least
  let most := if body.isHollow then some (min (most.getD 1) 1) else most
  if most = some 0 then empty
  else if least = 1 ∧ most = some 1 then body
  else repeated body least most

end Pattern

end ByteMachine
