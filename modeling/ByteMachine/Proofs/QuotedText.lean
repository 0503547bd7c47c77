import Mathlib.Data.List.Basic
import ByteMachine.Proofs.Numerals
import ByteMachine.Text.Quoted

/-!
What quoted text shows. A character shows as itself, as a mark after a backslash, or as the
hexadecimal number of a character that would not print. No way of showing one character begins
like that of another, so a quoted text can be read back.
-/
namespace ByteMachine

def marks : List (Char × Char) :=
  [('"', '"'), ('\\', '\\'), ('\t', 't'), ('\r', 'r'), ('\n', 'n'), ('\x00', '0')]

inductive Shows : Char → List Char → Prop where
  | plain {c : Char} (unmarked : ∀ mark, (c, mark) ∉ marks) (printable : isUnprintable c = false) :
      Shows c [c]
  | marked {c mark : Char} (listed : (c, mark) ∈ marks) : Shows c ['\\', mark]
  | numbered {c : Char} (unmarked : ∀ mark, (c, mark) ∉ marks) (hidden : isUnprintable c = true) :
      Shows c ('\\' :: 'u' :: '{' :: (Nat.toDigits 16 c.toNat ++ ['}']))

def Quotes (text shown : List Char) : Prop :=
  ∃ pieces, List.Forall₂ Shows text pieces ∧ shown = '"' :: (pieces.flatten ++ ['"'])

variable {c d : Char} {text other shown left right s t : List Char}

theorem shows_escape (c : Char) : Shows c (escape c) := by
  unfold escape
  split
  case h_7 quote back tab ret feed null =>
    have unmarked : ∀ mark, (c, mark) ∉ marks := by
      intro mark listed
      simp only [marks, List.mem_cons, Prod.mk.injEq, List.not_mem_nil, or_false] at listed
      rcases listed with ⟨h, -⟩ | ⟨h, -⟩ | ⟨h, -⟩ | ⟨h, -⟩ | ⟨h, -⟩ | ⟨h, -⟩
      · exact quote h
      · exact back h
      · exact tab h
      · exact ret h
      · exact feed h
      · exact null h
    cases hidden : isUnprintable c with
    | false => exact Shows.plain unmarked hidden
    | true => exact Shows.numbered unmarked hidden
  all_goals exact Shows.marked (by decide)

theorem mark_tells_character {mark : Char} (first : (c, mark) ∈ marks)
    (second : (d, mark) ∈ marks) : c = d := by
  have apart : ∀ p ∈ marks, ∀ q ∈ marks, p.2 = q.2 → p.1 = q.1 := by decide
  exact apart _ first _ second rfl

theorem mark_ne_u {mark : Char} (listed : (c, mark) ∈ marks) : mark ≠ 'u' := by
  have apart : ∀ p ∈ marks, p.2 ≠ 'u' := by decide
  exact apart _ listed

theorem brace_notMem_toDigits (n : Nat) : '}' ∉ Nat.toDigits 16 n := by
  intro member
  obtain ⟨d, small, same⟩ := mem_toDigits (by decide) member
  have apart : ∀ d < 16, '}' ≠ d.digitChar := by decide
  exact apart d small same

theorem ne_backslash_of_unmarked (unmarked : ∀ mark, (c, mark) ∉ marks) : c ≠ '\\' := by
  rintro rfl
  exact unmarked '\\' (by decide)

theorem append_mark_inj {mark : Char} (first : mark ∉ left) (second : mark ∉ right)
    (same : left ++ mark :: s = right ++ mark :: t) : left = right ∧ s = t := by
  induction left generalizing right with
  | nil =>
    cases right with
    | nil => exact ⟨rfl, (List.cons.inj same).2⟩
    | cons c right =>
      obtain ⟨rfl, -⟩ := List.cons.inj same
      exact absurd List.mem_cons_self second
  | cons c left ih =>
    cases right with
    | nil =>
      obtain ⟨rfl, -⟩ := List.cons.inj same
      exact absurd List.mem_cons_self first
    | cons d right =>
      obtain ⟨rfl, after⟩ := List.cons.inj same
      rw [List.mem_cons, not_or] at first second
      obtain ⟨rfl, rest⟩ := ih first.2 second.2 after
      exact ⟨rfl, rest⟩

theorem shown_first (first : Shows c left) (second : Shows d right)
    (same : left ++ s = right ++ t) : c = d ∧ s = t := by
  cases first with
  | plain unmarked =>
    have other := ne_backslash_of_unmarked unmarked
    cases second with
    | plain => exact List.cons.inj same
    | marked => exact absurd (List.cons.inj same).1 other
    | numbered => exact absurd (List.cons.inj same).1 other
  | marked listed =>
    cases second with
    | plain unmarked =>
      exact absurd (List.cons.inj same).1.symm (ne_backslash_of_unmarked unmarked)
    | marked also =>
      obtain ⟨-, after⟩ := List.cons.inj same
      obtain ⟨rfl, rest⟩ := List.cons.inj after
      exact ⟨mark_tells_character listed also, rest⟩
    | numbered =>
      obtain ⟨-, after⟩ := List.cons.inj same
      exact absurd (List.cons.inj after).1 (mark_ne_u listed)
  | numbered =>
    cases second with
    | plain unmarked =>
      exact absurd (List.cons.inj same).1.symm (ne_backslash_of_unmarked unmarked)
    | marked listed =>
      obtain ⟨-, after⟩ := List.cons.inj same
      exact absurd (List.cons.inj after).1.symm (mark_ne_u listed)
    | numbered =>
      have after : Nat.toDigits 16 c.toNat ++ '}' :: s = Nat.toDigits 16 d.toNat ++ '}' :: t := by
        simpa using same
      obtain ⟨digits, rest⟩ :=
        append_mark_inj (brace_notMem_toDigits _) (brace_notMem_toDigits _) after
      have number := congrArg hexNumber digits
      rw [hexNumber_toDigits, hexNumber_toDigits] at number
      exact ⟨Char.toNat_inj.mp number, rest⟩

theorem shown_ne_quote (shows : Shows c shown) : shown ++ s ≠ '"' :: t := by
  intro same
  cases shows with
  | plain unmarked =>
    obtain ⟨rfl, -⟩ := List.cons.inj same
    exact unmarked '"' (by decide)
  | marked => exact absurd (List.cons.inj same).1 (by decide)
  | numbered => exact absurd (List.cons.inj same).1 (by decide)

theorem pieces_tell_text {pieces others : List (List Char)} (first : List.Forall₂ Shows text pieces)
    (second : List.Forall₂ Shows other others)
    (same : pieces.flatten ++ '"' :: s = others.flatten ++ '"' :: t) : text = other ∧ s = t := by
  induction first generalizing other others with
  | nil =>
    cases second with
    | nil => exact ⟨rfl, (List.cons.inj same).2⟩
    | cons shows =>
      rw [List.flatten_cons, List.append_assoc] at same
      exact absurd same.symm (shown_ne_quote shows)
  | cons shows _ ih =>
    cases second with
    | nil =>
      rw [List.flatten_cons, List.append_assoc] at same
      exact absurd same (shown_ne_quote shows)
    | cons also rest =>
      rw [List.flatten_cons, List.flatten_cons, List.append_assoc, List.append_assoc] at same
      obtain ⟨rfl, after⟩ := shown_first shows also same
      obtain ⟨rfl, ends⟩ := ih rest after
      exact ⟨rfl, ends⟩

/-- A quoted text can be told from what it shows, and so can the place where it ends. -/
theorem quotes_tell_text (first : Quotes text left) (second : Quotes other right)
    (same : left ++ s = right ++ t) : text = other ∧ s = t := by
  obtain ⟨pieces, shows, rfl⟩ := first
  obtain ⟨others, also, rfl⟩ := second
  have inside : pieces.flatten ++ '"' :: s = others.flatten ++ '"' :: t := by
    simpa using same
  exact pieces_tell_text shows also inside

theorem quotes_quote (text : List Char) : Quotes text (quote text).toList := by
  refine ⟨text.map escape, ?_, ?_⟩
  · induction text with
    | nil => exact List.Forall₂.nil
    | cons c text ih => exact List.Forall₂.cons (shows_escape c) ih
  · simp [quote, List.flatMap_def]

theorem quote_injective (same : quote text = quote other) : text = other := by
  have shown := congrArg (String.toList · ++ []) same
  exact (quotes_tell_text (quotes_quote text) (quotes_quote other) shown).1

example : quote ['a', '"', '\t', '\x07', '#'] = "\"a\\\"\\t\\u\x7b7\x7d#\"" := by decide

end ByteMachine
