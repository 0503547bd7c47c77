import ByteMachine.Image.Loading
import ByteMachine.Proofs.LineBytes

/-!
Where every line of a program text goes. A line is kept if it begins with a binary digit, and then
it gives one byte; the numbers of the others are what a report says was skipped. A text fails to
load only if it keeps more lines than there are cells.
-/
namespace ByteMachine

def keptLines (text : List Char) : List (List Char) := (lines text).filter beginsBinary

def skippedNumbers (text : List Char) : List Nat :=
  (lines text).findIdxs (fun line => !beginsBinary line) 1

def keptBytes (text : List Char) : List UInt8 := (lines text).filterMap lineByte?

theorem bytes_mapIdx (ls : List (List Char)) (number : Nat → Nat) :
    (ls.mapIdx fun i line => SourceLine.mk (number i) line).filterMap SourceLine.byte? =
      ls.filterMap lineByte? := by
  induction ls generalizing number with
  | nil => rfl
  | cons line ls ih =>
    rw [List.mapIdx_cons, List.filterMap_cons, List.filterMap_cons, ih fun i => number (i + 1)]
    rfl

theorem numbers_mapIdx (ls : List (List Char)) (start : Nat) :
    ((ls.mapIdx fun i line => SourceLine.mk (i + start) line).filter
      fun line => line.byte?.isNone).map SourceLine.number =
      ls.findIdxs (fun line => !beginsBinary line) start := by
  induction ls generalizing start with
  | nil => rfl
  | cons line ls ih =>
    have later : (fun i line => SourceLine.mk (i + 1 + start) line) =
        fun i line => SourceLine.mk (i + (start + 1)) line := by
      simp only [Nat.add_assoc, Nat.add_comm 1]
    have first : (SourceLine.mk (0 + start) line).byte?.isNone = !beginsBinary line :=
      isNone_lineByte? line
    rw [List.mapIdx_cons, later, List.filter_cons, List.findIdxs_cons, first]
    cases beginsBinary line
    · simp [ih]
    · simp [ih]

theorem result_ofText (text : List Char) :
    (Loading.ofText text).result =
      (Image.ofBytes (keptBytes text)).map fun image => ⟨image, skippedNumbers text⟩ := by
  have bytes : (sourceLines text).filterMap SourceLine.byte? = keptBytes text :=
    bytes_mapIdx (lines text) (· + 1)
  have numbers : ((sourceLines text).filter fun line => line.byte?.isNone).map SourceLine.number =
      skippedNumbers text := numbers_mapIdx (lines text) 1
  unfold Loading.ofText
  simp only [bytes, numbers]
  cases Image.ofBytes (keptBytes text) <;> rfl

def carried (text : List Char) : List (Option UInt8) := (lines text).map lineByte?

theorem carried_closed {piece : List Char} (whole : '\n' ∉ piece) (rest : List Char) :
    carried (piece ++ '\n' :: rest) = lineByte? piece :: carried rest := by
  rw [carried, lines_closed whole, List.map_cons, lineByte?_closedLine]
  rfl

theorem carried_open {piece : List Char} (whole : '\n' ∉ piece) (nonempty : piece ≠ []) :
    carried piece = [lineByte? piece] := by
  rw [carried, lines_open whole, if_neg nonempty]
  rfl

theorem keptBytes_eq_carried (text : List Char) : keptBytes text = (carried text).filterMap id := by
  rw [carried, List.filterMap_map]
  rfl

theorem skippedNumbers_eq_carried (text : List Char) :
    skippedNumbers text = (carried text).findIdxs Option.isNone 1 := by
  have skips : (fun line => !beginsBinary line) = Option.isNone ∘ lineByte? := by
    funext line
    exact (isNone_lineByte? line).symm
  rw [skippedNumbers, skips, carried, List.findIdxs_map]

theorem keptBytes_eq (text : List Char) :
    keptBytes text =
      (keptLines text).map fun line => UInt8.ofNat (binaryNumber (binaryRun line)) := by
  unfold keptBytes keptLines
  rw [← List.filterMap_eq_map', List.filterMap_filter]
  exact List.filterMap_congr fun line _ => lineByte?_eq line

theorem length_keptBytes (text : List Char) :
    (keptBytes text).length = (keptLines text).length := by
  rw [keptBytes_eq, List.length_map]

theorem mem_skippedNumbers {text : List Char} {n : Nat} :
    n ∈ skippedNumbers text ↔
      ∃ line, 0 < n ∧ (lines text)[n - 1]? = some line ∧ beginsBinary line = false := by
  simp only [skippedNumbers, List.mem_findIdxs_iff_getElem_sub_pos, Bool.not_eq_true',
    List.getElem?_eq_some_iff]
  constructor
  · rintro ⟨counted, inside, other⟩
    exact ⟨_, counted, ⟨inside, rfl⟩, other⟩
  · rintro ⟨line, counted, ⟨inside, rfl⟩, other⟩
    exact ⟨counted, inside, other⟩

theorem length_kept_add_skipped (text : List Char) :
    (keptLines text).length + (skippedNumbers text).length = (lines text).length := by
  have others : (lines text).countP (fun line => !beginsBinary line) =
      (lines text).countP fun line => ¬ beginsBinary line = true :=
    List.countP_congr fun line _ => by simp
  rw [keptLines, skippedNumbers, List.length_findIdxs, ← List.countP_eq_length_filter, others]
  exact (List.length_eq_countP_add_countP beginsBinary).symm

theorem result_of_fitting {text : List Char} (fits : (keptBytes text).length ≤ memorySize) :
    (Loading.ofText text).result = .ok ⟨⟨keptBytes text, fits⟩, skippedNumbers text⟩ := by
  have made : Image.ofBytes (keptBytes text) = .ok ⟨keptBytes text, fits⟩ :=
    Image.ofBytes_eq_ok_iff.mpr rfl
  rw [result_ofText, made]
  rfl

theorem result_of_large {text : List Char} (large : memorySize < (keptBytes text).length) :
    (Loading.ofText text).result =
      .error (.programTooLarge (keptBytes text).length memorySize) := by
  rw [result_ofText, Image.ofBytes_of_lt large]
  rfl

def Notice.AboutLines : Notice → Prop
  | .skippedLine .. | .parsed .. => True
  | _ => False

theorem aboutLines_ofText (text : List Char) :
    ∀ notice ∈ (Loading.ofText text).notices, notice.AboutLines := by
  have remarks (lines : List SourceLine) :
      ∀ notice ∈ lines.map fun line => Notice.skippedLine line.number line.text,
        notice.AboutLines := by
    intro notice member
    obtain ⟨line, -, rfl⟩ := List.mem_map.mp member
    trivial
  intro notice member
  simp only [Loading.ofText] at member
  split at member
  · exact remarks _ notice member
  · rcases List.mem_append.mp member with early | last
    · exact remarks _ notice early
    · rw [List.mem_singleton.mp last]
      trivial

theorem result_eq_error_iff {text : List Char} {e : LoadError} :
    (Loading.ofText text).result = .error e ↔
      memorySize < (keptLines text).length ∧
        e = .programTooLarge (keptLines text).length memorySize := by
  rw [← length_keptBytes]
  by_cases fits : (keptBytes text).length ≤ memorySize
  · rw [result_of_fitting fits]
    simp [Nat.not_lt.mpr fits]
  · have large := Nat.lt_of_not_le fits
    rw [result_of_large large]
    simp [large, eq_comm]

theorem Image.ofText_of_result {text : List Char} {report : Report}
    (loads : (Loading.ofText text).result = .ok report) : ofText text = .ok report.image := by
  rw [ofText, loads]
  rfl

theorem Image.ofText_eq_error_iff {text : List Char} {e : LoadError} :
    ofText text = .error e ↔ (Loading.ofText text).result = .error e := by
  unfold ofText
  cases (Loading.ofText text).result <;> simp [Except.map]

theorem Image.exists_ofBytes_iff {bytes : List UInt8} :
    (∃ image, ofBytes bytes = .ok image ∧ image.bytes = bytes) ↔ bytes.length ≤ memorySize := by
  constructor
  · rintro ⟨image, -, rfl⟩
    exact image.fits
  · intro fits
    exact ⟨⟨bytes, fits⟩, ofBytes_eq_ok_iff.mpr rfl, rfl⟩

/-- How a report accounts for the lines of a text. A kept line gives the number that its first run
of binary digits denotes, less what does not fit a byte. -/
structure Accounts (text : List Char) (report : Report) : Prop where
  values : report.image.bytes.map UInt8.toNat = (keptLines text).map fun line =>
    binaryNumber ((line.dropWhile isBlank).takeWhile isBinaryDigit) % 256
  increasing : report.skipped.Pairwise (· < ·)
  complement : ∀ n, n ∈ report.skipped ↔
    ∃ line, 0 < n ∧ (lines text)[n - 1]? = some line ∧ beginsBinary line = false
  total : report.image.bytes.length + report.skipped.length = (lines text).length

theorem accounts_of_fitting {text : List Char} (fits : (keptBytes text).length ≤ memorySize) :
    Accounts text ⟨⟨keptBytes text, fits⟩, skippedNumbers text⟩ := by
  constructor
  case values =>
    simp only [keptBytes_eq, List.map_map]
    exact List.map_congr_left fun line _ => UInt8.toNat_ofNat'
  case increasing => exact List.pairwise_findIdxs
  case complement => exact fun n => mem_skippedNumbers
  case total =>
    rw [← length_kept_add_skipped, ← length_keptBytes]

/-- A text loads exactly if no more than 256 of its lines are kept, and then the report accounts for
every line. Otherwise the error names how many lines were kept, and who asks for the image alone is
told the same. Images made from bytes keep to the same limit. -/
theorem loading_accounts_for_lines (text : List Char) :
    lines text = (text.splitOn '\n').dropLast.map closedLine ++
        ((text.splitOn '\n').getLast?.filter (· ≠ [])).toList ∧
      ((∃ report, (Loading.ofText text).result = .ok report ∧
          Image.ofText text = .ok report.image ∧ Accounts text report) ↔
        (keptLines text).length ≤ 256) ∧
      (∀ e, (Loading.ofText text).result = .error e ↔
        256 < (keptLines text).length ∧ e = .programTooLarge (keptLines text).length 256) ∧
      (∀ e, Image.ofText text = .error e ↔ (Loading.ofText text).result = .error e) ∧
      ∀ bytes, (∃ image, Image.ofBytes bytes = .ok image ∧ image.bytes = bytes) ↔
        bytes.length ≤ 256 := by
  refine ⟨lines_eq_splitOn text, ⟨?_, fun fits => ?_⟩, fun e => result_eq_error_iff,
    fun e => Image.ofText_eq_error_iff, fun bytes => Image.exists_ofBytes_iff⟩
  · rintro ⟨report, loads, -, -⟩
    by_contra large
    have fails := result_eq_error_iff.mpr ⟨Nat.lt_of_not_le large, rfl⟩
    rw [loads] at fails
    contradiction
  · rw [← length_keptBytes] at fits
    have loads := result_of_fitting fits
    exact ⟨_, loads, Image.ofText_of_result loads, accounts_of_fitting fits⟩

end ByteMachine
