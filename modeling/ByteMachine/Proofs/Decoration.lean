import ByteMachine.Proofs.LineAccounting

/-!
Program texts as they can be written. Blanks and more digits may stand before the eight digits of a
byte, anything but a digit may follow them, lines without a byte may stand between, and lines may
end either way. However a list of bytes is dressed up, loading the text gives the bytes back and
tells which lines were only dress.
-/
namespace ByteMachine

inductive LineEnding where
  | feed
  | returnFeed

def LineEnding.before : LineEnding → List Char
  | feed => []
  | returnFeed => ['\r']

/-- A line without its ending: a byte with what surrounds its eight digits, or a filler, on which a
binary digit is not the first thing that is not blank. -/
inductive Row where
  | byte (value : UInt8) (blanks wide comment : List Char)
      (blank : ∀ c ∈ blanks, isBlank c = true ∧ c ≠ '\n')
      (digits : ∀ c ∈ wide, c = '0' ∨ c = '1')
      (inside : '\n' ∉ comment)
      (apart : ∀ c ∈ comment.head?, ¬ (c = '0' ∨ c = '1'))
  | filler (text : List Char) (inside : '\n' ∉ text)
      (other : ∀ c ∈ (text.dropWhile isBlank).head?, ¬ (c = '0' ∨ c = '1'))

namespace Row

def text : Row → List Char
  | byte value blanks wide comment .. => blanks ++ (wide ++ octet value ++ comment)
  | filler text .. => text

def value? : Row → Option UInt8
  | byte value .. => some value
  | filler .. => none

end Row

structure Sheet where
  closed : List (Row × LineEnding)
  last : Option Row

namespace Sheet

def lastText (sheet : Sheet) : List Char := (sheet.last.map Row.text).getD []

def text (sheet : Sheet) : List Char :=
  (sheet.closed.flatMap fun (row, ending) => row.text ++ ending.before ++ ['\n']) ++ sheet.lastText

/-- The rows that are lines of the text. Nothing without an ending is no line. -/
def rows (sheet : Sheet) : List Row :=
  sheet.closed.map Prod.fst ++ (sheet.last.filter fun row => row.text ≠ []).toList

def bytes (sheet : Sheet) : List UInt8 := sheet.rows.filterMap Row.value?

def fillers (sheet : Sheet) : List Nat := sheet.rows.findIdxs (fun row => row.value?.isNone) 1

end Sheet

theorem not_binary_iff {c : Char} : isBinaryDigit c = false ↔ ¬ (c = '0' ∨ c = '1') := by
  rw [← binaryDigit_cases, Bool.not_eq_true]

theorem ne_feed_of_binary {c : Char} (binary : c = '0' ∨ c = '1') : c ≠ '\n' := by
  rintro rfl
  obtain other | other := binary <;> contradiction

namespace Row

theorem feed_not_mem_text (row : Row) : '\n' ∉ row.text := by
  cases row with
  | filler text inside other => exact inside
  | byte value blanks wide comment blank digits inside apart =>
    intro found
    simp only [text, List.mem_append] at found
    obtain front | (wider | eight) | after := found
    · exact (blank _ front).2 rfl
    · exact ne_feed_of_binary (digits _ wider) rfl
    · exact ne_feed_of_binary (binaryDigit_cases.mp (octet_isBinary value _ eight)) rfl
    · exact inside after

theorem lineByte?_text (row : Row) : lineByte? row.text = row.value? := by
  rw [lineByte?_eq]
  cases row with
  | filler text inside other =>
    have skipped : beginsBinary text = false := by
      unfold beginsBinary
      cases first : (text.dropWhile isBlank).head? with
      | none => rfl
      | some c => exact not_binary_iff.mpr (other c first)
    simp only [Row.text, skipped, Bool.false_eq_true, if_false, value?]
  | byte value blanks wide comment blank digits inside apart =>
    have nonempty : wide ++ octet value ≠ [] := by
      intro nothing
      have length_eq := congrArg List.length nothing
      rw [List.length_append, length_octet] at length_eq
      contradiction
    have binary : ∀ c ∈ wide ++ octet value, isBinaryDigit c = true := by
      intro c member
      obtain front | back := List.mem_append.mp member
      · exact binaryDigit_cases.mpr (digits c front)
      · exact octet_isBinary value c back
    have run : binaryRun (blanks ++ (wide ++ octet value ++ comment)) = wide ++ octet value :=
      binaryRun_of_parts (fun c member => (blank c member).1) binary nonempty
        fun c first => not_binary_iff.mpr (apart c first)
    have kept : beginsBinary (blanks ++ (wide ++ octet value ++ comment)) = true := by
      rw [beginsBinary_iff_run, run]
      exact nonempty
    simp only [text, kept, run, ofNat_binaryNumber_octet, if_true, value?]

theorem carried_closed_row (row : Row) (ending : LineEnding) (rest : List Char) :
    carried (row.text ++ ending.before ++ '\n' :: rest) = row.value? :: carried rest := by
  have inside : '\n' ∉ row.text ++ ending.before := by
    rw [List.mem_append, not_or]
    refine ⟨row.feed_not_mem_text, ?_⟩
    cases ending <;> simp [LineEnding.before]
  have same : lineByte? (row.text ++ ending.before) = lineByte? row.text := by
    cases ending with
    | feed => rw [LineEnding.before, List.append_nil]
    | returnFeed => exact lineByte?_append_return row.text
  rw [carried_closed inside, same, lineByte?_text]

end Row

theorem Sheet.carried_text (sheet : Sheet) :
    carried sheet.text = sheet.rows.map Row.value? := by
  obtain ⟨closed, last⟩ := sheet
  induction closed with
  | nil =>
    cases last with
    | none => rfl
    | some row =>
      have only : Sheet.text ⟨[], some row⟩ = row.text := rfl
      rw [only]
      by_cases nothing : row.text = []
      · simp [rows, nothing, carried, lines_nil]
      · rw [carried_open row.feed_not_mem_text nothing]
        simp [rows, nothing, row.lineByte?_text, Option.filter]
  | cons first closed ih =>
    obtain ⟨row, ending⟩ := first
    have front : Sheet.text ⟨(row, ending) :: closed, last⟩ =
        row.text ++ ending.before ++ '\n' :: Sheet.text ⟨closed, last⟩ := by
      simp [Sheet.text, lastText]
    rw [front, row.carried_closed_row, ih]
    rfl

theorem Sheet.keptBytes_text (sheet : Sheet) : keptBytes sheet.text = sheet.bytes := by
  rw [keptBytes_eq_carried, sheet.carried_text, List.filterMap_map]
  rfl

theorem Sheet.skippedNumbers_text (sheet : Sheet) : skippedNumbers sheet.text = sheet.fillers := by
  rw [skippedNumbers_eq_carried, sheet.carried_text, List.findIdxs_map]
  rfl

/-- Whatever is written around at most 256 bytes, loading the text gives them back in order and
names the fillers. -/
theorem Sheet.loading_undoes_writing (sheet : Sheet) (fits : sheet.bytes.length ≤ 256) :
    (Loading.ofText sheet.text).result = .ok ⟨⟨sheet.bytes, fits⟩, sheet.fillers⟩ := by
  have bytes := sheet.keptBytes_text
  have room : (keptBytes sheet.text).length ≤ memorySize := bytes ▸ fits
  rw [result_of_fitting room]
  simp only [bytes, sheet.skippedNumbers_text]

/-- A filler that ends in both ways, a byte amid blanks, a ninth digit and a comment, and a byte
without an ending. -/
def dressedBytes : Sheet where
  closed := [
    (.filler ['#'] (by decide) (by simp [isBlank]), .returnFeed),
    (.byte 0x47 ['\t', '\u00A0'] ['1'] [' ', '0'] (by simp [isBlank]) (by simp) (by decide)
      (by simp), .feed)]
  last := some (.byte 1 [] [] [] (by simp) (by simp) (by decide) (by simp))

theorem dressedBytes_load :
    dressedBytes.text = "#\r\n\t\u00A0101000111 0\n00000001".toList ∧
      dressedBytes.bytes.length ≤ 256 ∧
      (Loading.ofText dressedBytes.text).result = .ok ⟨⟨[0x47, 1], by decide⟩, [1]⟩ := by
  have fits : dressedBytes.bytes.length ≤ 256 := by decide
  exact ⟨by decide, fits, dressedBytes.loading_undoes_writing fits⟩

end ByteMachine
