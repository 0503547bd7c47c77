/-!
Texts cut at every occurrence of a mark. There is one part more than there are marks.
-/
namespace ByteMachine

def splitAtEvery (mark : Char) (text : List Char) : List (List Char) :=
  text.foldr (fun c parts =>
    if c = mark then [] :: parts
    else match parts with
      | [] => [[c]]
      | part :: more => (c :: part) :: more) [[]]

theorem splitAtEvery_nil (mark : Char) : splitAtEvery mark [] = [[]] := rfl

theorem splitAtEvery_mark (mark : Char) (rest : List Char) :
    splitAtEvery mark (mark :: rest) = [] :: splitAtEvery mark rest := by
  simp [splitAtEvery]

theorem length_splitAtEvery (mark : Char) (text : List Char) :
    (splitAtEvery mark text).length = text.count mark + 1 := by
  induction text with
  | nil => rfl
  | cons c rest ih =>
    by_cases same : c = mark
    · rw [same, splitAtEvery_mark, List.length_cons, ih, List.count_cons_self]
    · have step : splitAtEvery mark (c :: rest) = match splitAtEvery mark rest with
          | [] => [[c]]
          | part :: more => (c :: part) :: more := by simp [splitAtEvery, same]
      rw [step, List.count_cons_of_ne same, ← ih]
      cases parts : splitAtEvery mark rest with
      | nil => simp [parts] at ih
      | cons part more => rfl

end ByteMachine
