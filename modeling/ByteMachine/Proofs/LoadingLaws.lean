import ByteMachine.Proofs.LineAccounting

/-!
Loading depends on a text only through what its lines carry. So texts can be put together at the end
of a line, and loading puts the reports together; and lines can end either way, with or without a
carriage return, and the last of them not at all.
-/
namespace ByteMachine

def Terminated (text : List Char) : Prop := text = [] ∨ text.getLast? = some '\n'

instance (text : List Char) : Decidable (Terminated text) :=
  inferInstanceAs (Decidable (text = [] ∨ text.getLast? = some '\n'))

theorem result_of_carried {text text' : List Char} (same : carried text' = carried text) :
    (Loading.ofText text').result = (Loading.ofText text).result := by
  simp only [result_ofText, keptBytes_eq_carried, skippedNumbers_eq_carried, same]

section Joining

variable {front rest piece : List Char}

theorem Terminated.exists_feed (closed : Terminated front) (nonempty : front ≠ []) :
    ∃ before, front = before ++ ['\n'] := by
  rcases closed with nothing | ends
  · exact absurd nothing nonempty
  · exact List.getLast?_eq_some_iff.mp ends

theorem terminated_append_feed (piece rest : List Char) :
    Terminated (piece ++ '\n' :: rest) ↔ Terminated rest := by
  have last : (piece ++ '\n' :: rest).getLast? = ('\n' :: rest).getLast? :=
    List.getLast?_append_of_ne_nil piece (List.cons_ne_nil '\n' rest)
  unfold Terminated
  rw [last]
  by_cases nothing : rest = []
  · simp [nothing]
  · simp [nothing, List.getLast?_cons_of_ne_nil nothing]

theorem lines_append (closed : Terminated front) (rest : List Char) :
    lines (front ++ rest) = lines front ++ lines rest := by
  by_cases nothing : front = []
  · rw [nothing, lines_nil, List.nil_append, List.nil_append]
  · obtain ⟨before, rfl⟩ := closed.exists_feed nothing
    rw [List.append_assoc, List.singleton_append]
    exact lines_append_feed before rest

theorem length_lines (closed : Terminated front) : (lines front).length = front.count '\n' := by
  induction front using text_induction with
  | last piece whole =>
    rcases closed with rfl | ends
    · rfl
    · exact absurd (List.mem_of_getLast? ends) whole
  | feed piece rest whole ih =>
    have unbroken : piece.count '\n' = 0 := List.count_eq_zero.mpr whole
    have later := ih ((terminated_append_feed piece rest).mp closed)
    rw [lines_closed whole, List.length_cons, later, List.count_append, unbroken,
      List.count_cons_self, Nat.zero_add]

theorem keptBytes_append (closed : Terminated front) (rest : List Char) :
    keptBytes (front ++ rest) = keptBytes front ++ keptBytes rest := by
  rw [keptBytes, lines_append closed, List.filterMap_append]
  rfl

theorem skippedNumbers_append (closed : Terminated front) (rest : List Char) :
    skippedNumbers (front ++ rest) =
      skippedNumbers front ++ (skippedNumbers rest).map (· + (lines front).length) := by
  have later (n : Nat) : (lines rest).findIdxs (fun line => !beginsBinary line) (1 + n) =
      (skippedNumbers rest).map (· + n) := by
    rw [skippedNumbers, List.findIdxs_start, List.findIdxs_start (s := 1), List.map_map]
    refine List.map_congr_left fun i _ => ?_
    simp only [Function.comp_apply]
    omega
  rw [skippedNumbers, lines_append closed, List.findIdxs_append, later]
  rfl

structure LoadsJoined (front rest : List Char) : Prop where
  numbered : (lines front).length = front.count '\n'
  fitting : (keptLines front).length + (keptLines rest).length ≤ 256 →
    ∃ first second whole, (Loading.ofText front).result = .ok first ∧
      (Loading.ofText rest).result = .ok second ∧
      (Loading.ofText (front ++ rest)).result = .ok whole ∧
      whole.image.bytes = first.image.bytes ++ second.image.bytes ∧
      whole.skipped = first.skipped ++ second.skipped.map (· + (lines front).length)
  large : 256 < (keptLines front).length + (keptLines rest).length →
    (Loading.ofText (front ++ rest)).result =
      .error (.programTooLarge ((keptLines front).length + (keptLines rest).length) 256)

/-- Texts put together at the end of a line load as their bytes and skipped lines put together, or
are too large by as many bytes as they keep lines in all. -/
theorem loading_joins (closed : Terminated front) (rest : List Char) : LoadsJoined front rest := by
  have bytes := keptBytes_append closed rest
  have total : (keptBytes (front ++ rest)).length =
      (keptLines front).length + (keptLines rest).length := by
    rw [bytes, List.length_append, length_keptBytes, length_keptBytes]
  constructor
  case numbered => exact length_lines closed
  case fitting =>
    intro fits
    have all : (keptBytes (front ++ rest)).length ≤ memorySize := total ▸ fits
    have one : (keptBytes front).length ≤ memorySize := by
      rw [length_keptBytes]
      omega
    have other : (keptBytes rest).length ≤ memorySize := by
      rw [length_keptBytes]
      omega
    exact ⟨_, _, _, result_of_fitting one, result_of_fitting other, result_of_fitting all, bytes,
      skippedNumbers_append closed rest⟩
  case large =>
    intro exceeds
    have large : memorySize < (keptBytes (front ++ rest)).length := total ▸ exceeds
    rw [result_of_large large, total]

def overHalf : List Char := (List.replicate 129 ['1', '\n']).flatten

/-- Lines are counted on behind a blank line, and two texts that load may be too large together. -/
theorem overHalf_joined :
    let front := "1\n\r\n".toList
    let rest := "# a\n101".toList
    Terminated front ∧ Terminated overHalf ∧
      (∃ whole, (Loading.ofText (front ++ rest)).result = .ok whole ∧
        whole.image.bytes = [1, 5] ∧ whole.skipped = [2, 3]) ∧
      (∃ report, (Loading.ofText overHalf).result = .ok report) ∧
      (Loading.ofText (overHalf ++ overHalf)).result = .error (.programTooLarge 258 256) := by
  intro front rest
  have short : Terminated front := by decide
  have long : Terminated overHalf := by decide +kernel
  have kept : (keptLines overHalf).length = 129 := by decide +kernel
  have alone : (keptBytes overHalf).length ≤ memorySize := by
    rw [length_keptBytes, kept]
    decide
  have fits : (keptLines front).length + (keptLines rest).length ≤ 256 := by decide +kernel
  obtain ⟨first, second, whole, loads, loads', joined, bytes, skipped⟩ :=
    (loading_joins short rest).fitting fits
  have one : (Loading.ofText front).result = .ok ⟨⟨[1], by decide⟩, [2]⟩ := by decide +kernel
  have other : (Loading.ofText rest).result = .ok ⟨⟨[5], by decide⟩, [1]⟩ := by decide +kernel
  obtain rfl := Except.ok.inj (loads.symm.trans one)
  obtain rfl := Except.ok.inj (loads'.symm.trans other)
  have large := (loading_joins long overHalf).large (by rw [kept]; decide)
  rw [kept] at large
  exact ⟨short, long, ⟨whole, joined, bytes, skipped⟩, ⟨_, result_of_fitting alone⟩, large⟩

end Joining

section Endings

/-- A text with one more carriage return in front of each line feed that is chosen by its place. -/
def withReturns (chosen : Nat → Bool) (text : List Char) : List Char :=
  (text.mapIdx fun i c => if c = '\n' ∧ chosen i then ['\r', c] else [c]).flatten

variable {piece : List Char}

theorem withReturns_append (chosen : Nat → Bool) (front rest : List Char) :
    withReturns chosen (front ++ rest) =
      withReturns chosen front ++ withReturns (fun i => chosen (i + front.length)) rest := by
  rw [withReturns, List.mapIdx_append, List.flatten_append]
  rfl

theorem withReturns_of_open (chosen : Nat → Bool) (whole : '\n' ∉ piece) :
    withReturns chosen piece = piece := by
  induction piece generalizing chosen with
  | nil => rfl
  | cons c piece ih =>
    rw [List.mem_cons, not_or] at whole
    obtain ⟨other, whole⟩ := whole
    have later := ih (fun i => chosen (i + 1)) whole
    have kept : ¬ (c = '\n' ∧ chosen 0) := fun feed => other feed.1.symm
    rw [withReturns] at later ⊢
    rw [List.mapIdx_cons, List.flatten_cons, later, if_neg kept, List.singleton_append]

theorem withReturns_feed (chosen : Nat → Bool) (whole : '\n' ∉ piece) (rest : List Char) :
    withReturns chosen (piece ++ '\n' :: rest) =
      piece ++ (if chosen piece.length then ['\r'] else []) ++
        '\n' :: withReturns (fun i => chosen (i + 1 + piece.length)) rest := by
  rw [withReturns_append, withReturns_of_open chosen whole, withReturns, List.mapIdx_cons,
    List.flatten_cons, Nat.zero_add]
  by_cases here : chosen piece.length = true
  · simp [here, withReturns]
  · simp [here, withReturns]

theorem carried_withReturns (chosen : Nat → Bool) (text : List Char) :
    carried (withReturns chosen text) = carried text := by
  induction text using text_induction generalizing chosen with
  | last piece whole => rw [withReturns_of_open chosen whole]
  | feed piece rest whole ih =>
    rw [withReturns_feed chosen whole, carried_closed whole]
    by_cases here : chosen piece.length = true
    · have longer : '\n' ∉ piece ++ ['\r'] := by
        simp [whole]
      rw [if_pos here, carried_closed longer, lineByte?_append_return, ih]
    · rw [if_neg here, List.append_nil, carried_closed whole, ih]

theorem carried_append_feed {text : List Char} (opened : ¬ Terminated text) :
    carried (text ++ ['\n']) = carried text := by
  induction text using text_induction with
  | last piece whole =>
    have nonempty : piece ≠ [] := fun nothing => opened (.inl nothing)
    rw [carried_closed whole, carried_open whole nonempty]
    rfl
  | feed piece rest whole ih =>
    rw [terminated_append_feed] at opened
    rw [List.append_assoc, List.cons_append, carried_closed whole, carried_closed whole, ih opened]

/-- One more carriage return before any line feeds, or a line feed at the end of a last line that
has none, changes nothing about what a text loads as or why it does not. -/
theorem line_endings_do_not_matter (text : List Char) :
    (∀ chosen, (Loading.ofText (withReturns chosen text)).result = (Loading.ofText text).result) ∧
      (¬ Terminated text →
        (Loading.ofText (text ++ ['\n'])).result = (Loading.ofText text).result) := by
  constructor
  · intro chosen
    exact result_of_carried (carried_withReturns chosen text)
  · intro opened
    exact result_of_carried (carried_append_feed opened)

theorem respelled_loads :
    let text := "1\r\n \n0\r".toList
    withReturns (fun _ => true) text = "1\r\r\n \r\n0\r".toList ∧ ¬ Terminated text ∧
      (Loading.ofText (withReturns (fun _ => true) text)).result =
        .ok ⟨⟨[1, 0], by decide⟩, [2]⟩ ∧
      (Loading.ofText (text ++ ['\n'])).result = .ok ⟨⟨[1, 0], by decide⟩, [2]⟩ := by
  intro text
  have opened : ¬ Terminated text := by decide
  have loads : (Loading.ofText text).result = .ok ⟨⟨[1, 0], by decide⟩, [2]⟩ := by decide +kernel
  obtain ⟨returned, fed⟩ := line_endings_do_not_matter text
  exact ⟨by decide, opened, (returned fun _ => true).trans loads, (fed opened).trans loads⟩

end Endings

end ByteMachine
