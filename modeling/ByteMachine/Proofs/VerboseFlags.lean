import ByteMachine.Proofs.Arguments

/-!
Verbose flags in front of a command line. They are counted while the arguments are read and decide
nothing on the way, so a command that is understood without them is the same with them.
-/
namespace ByteMachine

def Draft.raised (d : Draft) (own front : Nat) : Draft :=
  { d with verbosity := d.verbosity + own, before := d.before + front }

/-- Two readings that break off with one answer, short of a command, or come to drafts of which the
second has more verbose flags. -/
inductive SameReading (own front : Nat) :
    Except Invocation Draft → Except Invocation Draft → Prop where
  | early (answer : Invocation) (short : ∀ chosen verbosity, answer ≠ .command chosen verbosity) :
      SameReading own front (.error answer) (.error answer)
  | draft (d : Draft) : SameReading own front (.ok d) (.ok (d.raised own front))

variable {own front own' front' : Nat}

theorem SameReading.misuse : SameReading own front (.error .misuse) (.error .misuse) :=
  .early _ nofun

theorem SameReading.bind {x y : Except Invocation Draft} {f g : Draft → Except Invocation Draft}
    (first : SameReading own front x y)
    (next : ∀ d, SameReading own' front' (f d) (g (d.raised own front))) :
    SameReading own' front' (x >>= f) (y >>= g) := by
  cases first with
  | early answer short => exact .early answer short
  | draft d => exact next d

theorem SameReading.foldlM {α : Type} {f : Draft → α → Except Invocation Draft}
    (next : ∀ d x, SameReading own front (f d x) (f (d.raised own front) x)) (xs : List α)
    (d : Draft) :
    SameReading own front (xs.foldlM f d) (xs.foldlM f (d.raised own front)) := by
  induction xs generalizing d with
  | nil => exact .draft d
  | cons x xs ih =>
    rw [List.foldlM_cons, List.foldlM_cons]
    exact (next d x).bind ih

variable (d : Draft)

theorem sameReading_addFlag (flag : Option Flag) :
    SameReading own front (d.addFlag flag) ((d.raised own front).addFlag flag) := by
  cases flag with
  | none => exact .misuse
  | some flag =>
    cases flag with
    | verbose =>
      have counted : (d.raised own front).addFlag (some .verbose) =
          .ok (Draft.raised { d with verbosity := d.verbosity + 1 } own front) := by
        simp only [Draft.addFlag, Draft.raised, Nat.add_right_comm]
      rw [counted]
      exact .draft _
    | help => exact .early _ nofun
    | version =>
      refine .early _ fun chosen verbosity => ?_
      split <;> nofun

theorem sameReading_addLetters (letters : List Char) :
    SameReading own front (d.addLetters letters) ((d.raised own front).addLetters letters) :=
  SameReading.foldlM (fun d letter => sameReading_addFlag d (Flag.ofLetter? letter)) letters d

theorem sameReading_addPath (text : String) :
    SameReading own front (d.addPath text) ((d.raised own front).addPath text) := by
  by_cases free : d.path.isNone ∧ text ≠ ""
  · have free' : (d.raised own front).path.isNone ∧ text ≠ "" := free
    rw [Draft.addPath, Draft.addPath, if_pos free, if_pos free']
    exact .draft { d with path := some text }
  · have free' : ¬((d.raised own front).path.isNone ∧ text ≠ "") := free
    rw [Draft.addPath, Draft.addPath, if_neg free, if_neg free']
    exact .misuse

theorem sameReading_addLimit (text : String) :
    SameReading own front (d.addLimit text) ((d.raised own front).addLimit text) := by
  unfold Draft.addLimit
  cases readDecimal? limitBound text with
  | none => exact .misuse
  | some limit =>
    by_cases free : d.name = some .run ∧ d.limit.isNone
    · have free' : (d.raised own front).name = some .run ∧ (d.raised own front).limit.isNone := free
      simp only
      rw [if_pos free, if_pos free']
      exact .draft { d with limit := some limit }
    · have free' : ¬((d.raised own front).name = some .run ∧ (d.raised own front).limit.isNone) :=
        free
      simp only
      rw [if_neg free, if_neg free']
      exact .misuse

theorem sameReading_readArguments (arguments : List String) :
    SameReading own front (readArguments d arguments)
      (readArguments (d.raised own front) arguments) := by
  fun_induction readArguments d arguments with
  | case1 d => exact .draft d
  | case2 d text rest separator =>
    rw [readArguments.eq_def]
    simp only [separator]
    exact SameReading.foldlM sameReading_addPath rest d
  | case3 d text rest letters short ih =>
    rw [readArguments.eq_def]
    simp only [short]
    exact (sameReading_addLetters d letters).bind ih
  | case4 d text rest value plain ih =>
    rw [readArguments.eq_def]
    simp only [plain]
    exact (sameReading_addPath d value).bind ih
  | case5 d text rest value option ih =>
    rw [readArguments.eq_def]
    simp only [option]
    exact (sameReading_addLimit d value).bind ih
  | case6 d text option =>
    rw [readArguments.eq_def]
    simp only [option]
    exact .misuse
  | case7 d text option next rest value plain ih =>
    rw [readArguments.eq_def]
    simp only [option, plain]
    exact (sameReading_addLimit d value).bind ih
  | case8 d text option next rest other =>
    rw [readArguments.eq_def]
    simp only [option]
    exact .misuse
  | case9 d text rest name other flag ih =>
    rw [readArguments.eq_def]
    simp only [flag]
    exact (sameReading_addFlag d (Flag.ofName? name)).bind ih
  | case10 d text rest name value other valued =>
    rw [readArguments.eq_def]
    simp only [valued]
    exact .misuse

theorem sameReading_readCommand (more : Nat) (arguments : List String) :
    SameReading 0 more (readCommand d arguments) (readCommand (d.raised more 0) arguments) := by
  fun_induction readCommand d arguments with
  | case1 d => exact .misuse
  | case2 d text rest letters short ih =>
    rw [readCommand.eq_def]
    simp only [short]
    exact (sameReading_addLetters d letters).bind ih
  | case3 d text rest name flag ih =>
    rw [readCommand.eq_def]
    simp only [flag]
    exact (sameReading_addFlag d (Flag.ofName? name)).bind ih
  | case4 d text rest help =>
    rw [readCommand.eq_def]
    simp only [help]
    refine .early _ fun chosen verbosity => ?_
    unfold helpTopic
    split <;> nofun
  | case5 d text rest word other plain name found =>
    rw [readCommand.eq_def]
    simp only [plain, found]
    -- The flags counted so far are in front of the command from here on.
    exact sameReading_readArguments { Draft.empty with name := some name, before := d.verbosity }
      rest
  | case6 d text rest word other plain unknown =>
    rw [readCommand.eq_def]
    simp only [plain, unknown]
    exact .misuse
  | case7 d text rest short flag help plain =>
    rw [readCommand.eq_def]
    simp only
    exact .misuse

variable {d} {chosen : Command}

theorem Draft.finish_raised (more : Nat) (parsed : d.finish = .command chosen 0) :
    (d.raised 0 more).finish = .command chosen more := by
  obtain ⟨name, path, limit, verbosity, before⟩ := d
  have total : (if verbosity = 0 then before else verbosity) = 0 := by
    simp only [finish] at parsed
    split at parsed
    · exact (Invocation.command.inj parsed).2
    · exact (Invocation.command.inj parsed).2
    · contradiction
  have unasked : verbosity = 0 ∧ before = 0 := by
    split at total <;> omega
  obtain ⟨rfl, rfl⟩ := unasked
  simp only [finish, raised, Nat.zero_add, if_true] at parsed ⊢
  split at parsed
  · exact congrArg (Invocation.command · more) (Invocation.command.inj parsed).1
  · exact congrArg (Invocation.command · more) (Invocation.command.inj parsed).1
  · contradiction

theorem ofArguments_verbose {arguments : List String} (more : Nat)
    (parsed : Invocation.ofArguments arguments = .command chosen 0) :
    Invocation.ofArguments (List.replicate more "-v" ++ arguments) = .command chosen more := by
  have same : SameReading 0 more (readCommand .empty arguments)
      (readCommand { Draft.empty with verbosity := Draft.empty.verbosity + more } arguments) :=
    sameReading_readCommand .empty more arguments
  unfold Invocation.ofArguments at parsed ⊢
  rw [readCommand_verbose]
  generalize readCommand .empty arguments = plain at same parsed
  generalize readCommand _ arguments = verbose at same ⊢
  cases same with
  | early answer short => exact absurd parsed (short chosen 0)
  | draft d => exact Draft.finish_raised more parsed

end ByteMachine
