/-!
The lines of a text. A line ends at a line feed, and one carriage return directly before the line
feed belongs to the ending. What follows the last line feed is a line only if it is not empty, and
it keeps every carriage return it has.
-/
namespace ByteMachine

/-- A text read from its end: the lines found so far, and whether it begins with a line feed. -/
structure Cut where
  lines : List (List Char)
  atFeed : Bool

namespace Cut

def empty : Cut := ⟨[], false⟩

def push (c : Char) (cut : Cut) : Cut :=
  if c = '\n' then ⟨[] :: cut.lines, true⟩
  else if c = '\r' ∧ cut.atFeed then ⟨cut.lines, false⟩
  else match cut.lines with
    | [] => ⟨[[c]], false⟩
    | line :: more => ⟨(c :: line) :: more, false⟩

def ofText (text : List Char) : Cut := text.foldr push empty

theorem ofText_nil : ofText [] = empty := rfl

theorem ofText_cons (c : Char) (rest : List Char) : ofText (c :: rest) = (ofText rest).push c := rfl

theorem ofText_append_feed (front rest : List Char) :
    ∃ line more atFeed, ofText (front ++ ['\n']) = ⟨line :: more, atFeed⟩ ∧
      ofText (front ++ '\n' :: rest) = ⟨line :: more ++ (ofText rest).lines, atFeed⟩ := by
  induction front with
  | nil => exact ⟨[], [], true, rfl, rfl⟩
  | cons c front ih =>
    obtain ⟨line, more, atFeed, found, whole⟩ := ih
    simp only [List.cons_append, ofText_cons, found, whole, push]
    by_cases feed : c = '\n'
    · exact ⟨[], line :: more, true, by simp [feed]⟩
    · by_cases back : c = '\r' ∧ atFeed
      · exact ⟨line, more, false, by simp [back]⟩
      · exact ⟨c :: line, more, false, by simp [feed, back]⟩

end Cut

def lines (text : List Char) : List (List Char) := (Cut.ofText text).lines

theorem lines_nil : lines [] = [] := rfl

theorem lines_feed (rest : List Char) : lines ('\n' :: rest) = [] :: lines rest := by
  simp [lines, Cut.ofText_cons, Cut.push]

theorem lines_return_feed (rest : List Char) :
    lines ('\r' :: '\n' :: rest) = [] :: lines rest := by
  simp [lines, Cut.ofText_cons, Cut.push]

theorem lines_append_feed (front rest : List Char) :
    lines (front ++ '\n' :: rest) = lines (front ++ ['\n']) ++ lines rest := by
  obtain ⟨line, more, atFeed, found, whole⟩ := Cut.ofText_append_feed front rest
  simp [lines, found, whole]

end ByteMachine
