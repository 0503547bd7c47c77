import ByteMachine.Log.Setting

/-!
Log settings that are the name of a threshold and nothing else. A name consists of letters, so it
contains no mark that a setting is cut at and nothing around it is stripped off.
-/
namespace ByteMachine

section Letters

variable {mark c : Char} {text : List Char}

theorem isAlpha_of_isLower_toLower (small : c.toLower.isLower = true) : c.isAlpha = true := by
  unfold Char.toLower at small
  split at small
  · rename_i capital
    have upper : c.isUpper = true := decide_eq_true capital
    exact (Bool.or_eq_true _ _).mpr (.inl upper)
  · exact (Bool.or_eq_true _ _).mpr (.inr small)

theorem code_of_isAlpha (letter : c.isAlpha = true) :
    65 ≤ c.toNat ∧ c.toNat ≤ 90 ∨ 97 ≤ c.toNat ∧ c.toNat ≤ 122 := by
  obtain upper | lower := (Bool.or_eq_true _ _).mp letter
  · exact .inl (of_decide_eq_true upper)
  · obtain ⟨least, most⟩ := (Bool.and_eq_true _ _).mp lower
    exact .inr ⟨of_decide_eq_true least, of_decide_eq_true most⟩

theorem isBlank_of_isAlpha (letter : c.isAlpha = true) : isBlank c = false := by
  have code := code_of_isAlpha letter
  simp only [isBlank, Bool.or_eq_false_iff, Bool.and_eq_false_iff, decide_eq_false_iff_not]
  omega

theorem splitAtEvery_of_notMem (absent : mark ∉ text) : splitAtEvery mark text = [text] := by
  induction text with
  | nil => rfl
  | cons c text ih =>
    rw [List.mem_cons, not_or] at absent
    have rest := ih absent.2
    have other : c ≠ mark := fun same => absent.1 same.symm
    simp only [splitAtEvery] at rest
    simp only [splitAtEvery, List.foldr_cons, rest, if_neg other]

theorem strip_of_blankless (blankless : ∀ c ∈ text, isBlank c = false) : strip text = text := by
  have kept (text : List Char) (blankless : ∀ c ∈ text, isBlank c = false) :
      text.dropWhile isBlank = text := by
    cases text with
    | nil => rfl
    | cons c text =>
      have first := blankless c List.mem_cons_self
      rw [List.dropWhile_cons_of_neg (by rw [first]; decide)]
  have reversed : ∀ c ∈ text.reverse, isBlank c = false := fun c member =>
    blankless c (List.mem_reverse.mp member)
  rw [strip, kept text blankless, kept text.reverse reversed, List.reverse_reverse]

end Letters

def Threshold.name : Threshold → String
  | ⟨none⟩ => "off"
  | ⟨some .error⟩ => "error"
  | ⟨some .warn⟩ => "warn"
  | ⟨some .info⟩ => "info"
  | ⟨some .debug⟩ => "debug"
  | ⟨some .trace⟩ => "trace"

section Names

variable {word : String} {t : Threshold}

theorem toList_toLower (word : String) : word.toLower.toList = word.toList.map Char.toLower :=
  String.toList_map

theorem ofName?_eq_some_iff : Threshold.ofName? word = some t ↔ word.toLower = t.name := by
  constructor
  · intro names
    unfold Threshold.ofName? at names
    split at names <;> cases names <;> assumption
  · intro lower
    rw [Threshold.ofName?, lower]
    obtain ⟨_ | level⟩ := t
    · rfl
    · cases level <;> rfl

theorem letters_name (t : Threshold) :
    t.name.toList ≠ [] ∧ t.name.toList.all Char.isLower = true ∧
      t.name.toList.map Char.toLower = t.name.toList := by
  obtain ⟨_ | level⟩ := t
  · decide
  · cases level <;> decide

theorem ofName?_name (t : Threshold) : Threshold.ofName? t.name = some t := by
  rw [ofName?_eq_some_iff, ← String.toList_inj, toList_toLower]
  exact (letters_name t).2.2

theorem letters_of_ofName? (names : Threshold.ofName? word = some t) :
    word.toList ≠ [] ∧ ∀ c ∈ word.toList, c.isAlpha = true := by
  have lower : word.toList.map Char.toLower = t.name.toList := by
    rw [← ofName?_eq_some_iff.mp names, toList_toLower]
  obtain ⟨nonempty, small, -⟩ := letters_name t
  rw [← lower] at nonempty small
  rw [List.all_eq_true] at small
  refine ⟨fun empty => nonempty (by rw [empty, List.map_nil]), fun c member => ?_⟩
  exact isAlpha_of_isLower_toLower (small c.toLower (List.mem_map_of_mem member))

/-- The name of a threshold asks for that threshold everywhere. -/
theorem LogSetting.ofText_of_names (names : Threshold.ofName? word = some t) :
    ofText word = ⟨.ofThreshold t, []⟩ := by
  obtain ⟨nonempty, letters⟩ := letters_of_ofName? names
  have uncut (mark : Char) (other : mark.isAlpha = false) :
      splitAtEvery mark word.toList = [word.toList] := by
    refine splitAtEvery_of_notMem fun member => ?_
    rw [letters mark member] at other
    contradiction
  have whole : strip word.toList = word.toList :=
    strip_of_blankless fun c member => isBlank_of_isAlpha (letters c member)
  have rule : Rule.ofText word.toList = .ok ⟨none, t⟩ := by
    simp only [Rule.ofText, uncut '=' rfl, String.ofList_toList, names]
  have rules : readRules word.toList = ([⟨none, t⟩], []) := by
    have parts : [word.toList].filter (· ≠ []) = [word.toList] :=
      List.filter_cons_of_pos (decide_eq_true nonempty)
    simp only [readRules, uncut ',' rfl, List.map_cons, List.map_nil, whole, parts,
      List.foldl_cons, List.foldl_nil, rule]
    rfl
  simp only [ofText, uncut '/' rfl, rules]
  rfl

end Names

end ByteMachine
