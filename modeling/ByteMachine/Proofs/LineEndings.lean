import Mathlib.Data.List.Basic
import ByteMachine.Text.Line

/-!
The lines of a text, told from its line feeds. Every line feed closes one line, and a carriage
return directly before it belongs to the ending; what stands behind the last line feed is a line if
there is any of it. A text can be taken apart from the front, one line feed after another.
-/
namespace ByteMachine

/-- What a line feed closes: the piece before it, less one carriage return at the end. -/
def closedLine (piece : List Char) : List Char :=
  if piece.getLast? = some '\r' then piece.dropLast else piece

theorem closedLine_cons (c : Char) {line : List Char} (nonempty : line ≠ []) :
    closedLine (c :: line) = c :: closedLine line := by
  simp only [closedLine, List.getLast?_cons_of_ne_nil nonempty, List.dropLast_cons_of_ne_nil nonempty]
  split <;> rfl

theorem closedLine_or_return (piece : List Char) :
    closedLine piece = piece ∨ piece = closedLine piece ++ ['\r'] := by
  unfold closedLine
  split
  · rename_i ends
    exact .inr (List.dropLast_append_getLast? _ ends).symm
  · exact .inl rfl

theorem Cut.ofText_closed {piece : List Char} (whole : '\n' ∉ piece) :
    ofText (piece ++ ['\n']) = ⟨[closedLine piece], piece = []⟩ := by
  induction piece with
  | nil => rfl
  | cons c piece ih =>
    rw [List.mem_cons, not_or] at whole
    obtain ⟨other, whole⟩ := whole
    rw [List.cons_append, ofText_cons, ih whole, push, if_neg (Ne.symm other)]
    by_cases last : piece = []
    · subst last
      by_cases ends : c = '\r' <;> simp [closedLine, ends]
    · simp [last, closedLine_cons c last]

theorem Cut.ofText_open {piece : List Char} (whole : '\n' ∉ piece) :
    ofText piece = ⟨if piece = [] then [] else [piece], false⟩ := by
  induction piece with
  | nil => rfl
  | cons c piece ih =>
    rw [List.mem_cons, not_or] at whole
    obtain ⟨other, whole⟩ := whole
    rw [ofText_cons, ih whole, push, if_neg (Ne.symm other)]
    by_cases last : piece = [] <;> simp [last]

theorem lines_closed {piece : List Char} (whole : '\n' ∉ piece) (rest : List Char) :
    lines (piece ++ '\n' :: rest) = closedLine piece :: lines rest := by
  have first : lines (piece ++ ['\n']) = [closedLine piece] :=
    congrArg Cut.lines (Cut.ofText_closed whole)
  rw [lines_append_feed, first]
  rfl

theorem lines_open {piece : List Char} (whole : '\n' ∉ piece) :
    lines piece = if piece = [] then [] else [piece] :=
  congrArg Cut.lines (Cut.ofText_open whole)

theorem text_induction {motive : List Char → Prop}
    (last : ∀ piece, '\n' ∉ piece → motive piece)
    (feed : ∀ piece rest, '\n' ∉ piece → motive rest → motive (piece ++ '\n' :: rest))
    (text : List Char) : motive text := by
  induction length : text.length using Nat.strongRecOn generalizing text with
  | ind n ih =>
    by_cases found : '\n' ∈ text
    · obtain ⟨piece, rest, rfl, whole⟩ := List.eq_append_cons_of_mem found
      refine feed piece rest whole (ih rest.length ?_ rest rfl)
      rw [← length, List.length_append, List.length_cons]
      omega
    · exact last text found

theorem lines_eq_splitOn (text : List Char) :
    lines text = (text.splitOn '\n').dropLast.map closedLine ++
      ((text.splitOn '\n').getLast?.filter (· ≠ [])).toList := by
  induction text using text_induction with
  | last piece whole =>
    rw [lines_open whole, List.splitOn_eq_singleton whole]
    by_cases nothing : piece = [] <;> simp [nothing, Option.filter]
  | feed piece rest whole ih =>
    have nonempty : rest.splitOn '\n' ≠ [] := List.splitOn_ne_nil '\n' rest
    rw [lines_closed whole, ih, List.splitOn_append_cons_self_of_not_mem whole,
      List.dropLast_cons_of_ne_nil nonempty, List.getLast?_cons_of_ne_nil nonempty]
    rfl

end ByteMachine
