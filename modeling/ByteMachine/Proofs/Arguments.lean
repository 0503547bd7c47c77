import ByteMachine.CommandLine.Invocation

/-!
Command lines in their plain form, as they are read. Numerals written out are read back, a verbose
flag in front of the command counts once each time, and a run with a path and a limit is understood
as such.
-/
namespace ByteMachine

def runArguments (verbosity : Nat) (path : String) (limit : Option Nat) : List String :=
  List.replicate verbosity "-v" ++ "run" :: path :: match limit with
    | some n => ["--max-steps", toString n]
    | none => []

theorem dropPlus_of_digits {digits : List Char} (all : ∀ c ∈ digits, c.isDigit = true) :
    dropPlus digits = digits := by
  cases digits with
  | nil => rfl
  | cons c rest =>
    have first := all c List.mem_cons_self
    unfold dropPlus
    split
    · rename_i plus
      rw [(List.cons.inj plus).1] at first
      contradiction
    · rfl

theorem readDecimal?_toString {bound n : Nat} (small : n < bound) :
    readDecimal? bound (toString n) = some n := by
  have digits : ∀ c ∈ Nat.toDigits 10 n, c.isDigit = true := fun c member =>
    Nat.isDigit_of_mem_toDigits (by decide) (by decide) member
  have text : dropPlus (toString n).toList = Nat.toDigits 10 n := by
    rw [Nat.toString_eq_repr, Nat.toList_repr, dropPlus_of_digits digits]
  unfold readDecimal?
  simp only [text, Nat.ofDigitChars_ten_toDigits]
  rw [if_pos ⟨Nat.toDigits_ne_nil, List.all_eq_true.mpr digits, small⟩]

theorem Argument.ofString_of_head {text : String} (other : text.toList.head? ≠ some '-') :
    Argument.ofString text = .plain text := by
  unfold Argument.ofString
  split
  · rename_i dashes
    rw [dashes] at other
    contradiction
  · rename_i dashes
    rw [dashes] at other
    contradiction
  · rename_i dash
    rw [dash] at other
    contradiction
  · rfl

theorem Argument.ofString_numeral (n : Nat) :
    Argument.ofString (toString n) = .plain (toString n) := by
  apply Argument.ofString_of_head
  rw [Nat.toString_eq_repr, Nat.toList_repr]
  intro dash
  have digit := Nat.isDigit_of_mem_toDigits (by decide) (by decide) (List.mem_of_head? dash)
  contradiction

theorem readCommand_verbose (d : Draft) (verbosity : Nat) (rest : List String) :
    readCommand d (List.replicate verbosity "-v" ++ rest) =
      readCommand { d with verbosity := d.verbosity + verbosity } rest := by
  have flag : Argument.ofString "-v" = .short ['v'] := by decide
  induction verbosity generalizing d with
  | zero => rfl
  | succ verbosity ih =>
    have counted : d.addLetters ['v'] = .ok { d with verbosity := d.verbosity + 1 } := rfl
    rw [List.replicate_succ, List.cons_append, readCommand, flag]
    simp only [counted]
    change readCommand _ (List.replicate verbosity "-v" ++ rest) = _
    rw [ih, Nat.add_assoc, Nat.add_comm 1]

theorem readCommand_run (d : Draft) (rest : List String) :
    readCommand d ("run" :: rest) =
      readArguments { Draft.empty with name := some .run, before := d.verbosity } rest := by
  have word : Argument.ofString "run" = .plain "run" := by decide
  rw [readCommand, word]
  rfl

theorem Draft.addPath_first {d : Draft} {path : String} (first : d.path = none)
    (named : path ≠ "") : d.addPath path = .ok { d with path := some path } := by
  unfold addPath
  rw [if_pos ⟨by rw [first]; rfl, named⟩]

theorem readArguments_path {d : Draft} {path : String}
    (plain : Argument.ofString path = .plain path) (named : path ≠ "") (first : d.path = none)
    (rest : List String) :
    readArguments d (path :: rest) = readArguments { d with path := some path } rest := by
  rw [readArguments.eq_def]
  simp only [plain, Draft.addPath_first first named]
  rfl

theorem readArguments_limit {d : Draft} {n : Nat} (run : d.name = some .run)
    (first : d.limit = none) (small : n < limitBound) (rest : List String) :
    readArguments d ("--max-steps" :: toString n :: rest) =
      readArguments { d with limit := some n } rest := by
  have option : Argument.ofString "--max-steps" = .long "max-steps" none := by decide
  have taken : d.addLimit (toString n) = .ok { d with limit := some n } := by
    unfold Draft.addLimit
    simp only [readDecimal?_toString small]
    rw [if_pos ⟨run, by rw [first]; rfl⟩]
  rw [readArguments.eq_def]
  simp only [option, Argument.ofString_numeral, taken]
  rfl

theorem ofArguments_run (verbosity : Nat) {path : String} {limit : Option Nat}
    (plain : Argument.ofString path = .plain path) (named : path ≠ "")
    (small : ∀ n ∈ limit, n < limitBound) :
    Invocation.ofArguments (runArguments verbosity path limit) =
      .command (.run path limit) verbosity := by
  unfold Invocation.ofArguments runArguments
  rw [readCommand_verbose, readCommand_run, readArguments_path plain named rfl]
  cases limit with
  | none => simp [readArguments, Draft.finish, Draft.empty]
  | some n =>
    rw [readArguments_limit rfl rfl (small n rfl)]
    simp [readArguments, Draft.finish, Draft.empty]

/-- A command as it can be written, with its path set apart from the options. -/
def Command.written : Command → List String
  | .run path none => ["run", "--", path]
  | .run path (some n) => ["run", "--max-steps", toString n, "--", path]
  | .load path => ["load", "--", path]

end ByteMachine
