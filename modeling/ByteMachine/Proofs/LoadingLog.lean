import Mathlib.Data.List.Induction
import ByteMachine.Log.Filter
import ByteMachine.Proofs.LineAccounting
import ByteMachine.Proofs.QuotedText

/-!
The log of loading against its report. The lines of a text are read one after another, and a line
is logged when it is skipped, long before it is known whether the bytes fit. What has been read
so far therefore determines the log so far, and the end of the text adds at most one entry.
-/
namespace ByteMachine

structure Reading where
  bytes : List UInt8
  skipped : List Nat
  notices : List Notice

namespace Reading

def start : Reading := ⟨[], [], []⟩

def take (reading : Reading) (line : SourceLine) : Reading :=
  match line.byte? with
  | some byte => { reading with bytes := reading.bytes ++ [byte] }
  | none =>
    { reading with
      skipped := reading.skipped ++ [line.number]
      notices := reading.notices ++ [.skippedLine line.number line.text] }

def run (source : List SourceLine) : Reading := source.foldl take start

def close (reading : Reading) : Loading :=
  match Image.ofBytes reading.bytes with
  | .error e => ⟨.error e, reading.notices⟩
  | .ok image =>
    ⟨.ok ⟨image, reading.skipped⟩,
      reading.notices ++ [.parsed image.length reading.skipped.length]⟩

end Reading

def skippedAmong (source : List SourceLine) : List SourceLine :=
  source.filter fun line => line.byte?.isNone

def SourceLine.notice (line : SourceLine) : Notice := .skippedLine line.number line.text

structure Past (source : List SourceLine) (reading : Reading) : Prop where
  bytes : reading.bytes = source.filterMap SourceLine.byte?
  skipped : reading.skipped = (skippedAmong source).map SourceLine.number
  notices : reading.notices = (skippedAmong source).map SourceLine.notice

variable {source : List SourceLine} {line : SourceLine} {reading : Reading} {text : List Char}

theorem skippedAmong_snoc (source : List SourceLine) (line : SourceLine) :
    skippedAmong (source ++ [line]) =
      skippedAmong source ++ if line.byte?.isNone then [line] else [] := by
  unfold skippedAmong
  rw [List.filter_append, List.filter_cons, List.filter_nil]

theorem past_take (past : Past source reading) (line : SourceLine) :
    Past (source ++ [line]) (reading.take line) := by
  obtain ⟨bytes, skipped, notices⟩ := past
  cases given : line.byte? with
  | some byte =>
    have step : reading.take line = { reading with bytes := reading.bytes ++ [byte] } := by
      unfold Reading.take
      rw [given]
    have same : skippedAmong (source ++ [line]) = skippedAmong source := by
      simp [skippedAmong_snoc, given]
    rw [step]
    constructor
    · simp [bytes, given]
    · rw [same, ← skipped]
    · rw [same, ← notices]
  | none =>
    have step : reading.take line =
        { reading with
          skipped := reading.skipped ++ [line.number]
          notices := reading.notices ++ [line.notice] } := by
      unfold Reading.take
      rw [given]
      rfl
    have more : skippedAmong (source ++ [line]) = skippedAmong source ++ [line] := by
      simp [skippedAmong_snoc, given]
    rw [step]
    constructor
    · simp [bytes, given]
    · simp [more, skipped]
    · simp [more, notices]

theorem past_run (source : List SourceLine) : Past source (Reading.run source) := by
  induction source using List.reverseRecOn with
  | nil => constructor <;> rfl
  | append_singleton source line ih =>
    unfold Reading.run at ih ⊢
    rw [List.foldl_append]
    exact past_take ih line

theorem close_run (text : List Char) :
    (Reading.run (sourceLines text)).close = Loading.ofText text := by
  obtain ⟨bytes, skipped, notices⟩ := past_run (sourceLines text)
  unfold Reading.close Loading.ofText
  rw [bytes, skipped, notices, List.length_map]
  rfl

structure SkippedIn (text : List Char) (skipped : List SourceLine) : Prop where
  increasing : skipped.Pairwise (·.number < ·.number)
  complete : ∀ line : SourceLine, line ∈ skipped ↔
    0 < line.number ∧ (lines text)[line.number - 1]? = some line.text ∧
      beginsBinary line.text = false

theorem mem_sourceLines {line : SourceLine} :
    line ∈ sourceLines text ↔
      0 < line.number ∧ (lines text)[line.number - 1]? = some line.text := by
  unfold sourceLines
  rw [List.mem_mapIdx]
  constructor
  · rintro ⟨i, inside, rfl⟩
    exact ⟨Nat.succ_pos i, List.getElem?_eq_getElem inside⟩
  · rintro ⟨counted, found⟩
    obtain ⟨inside, same⟩ := List.getElem?_eq_some_iff.mp found
    refine ⟨line.number - 1, inside, ?_⟩
    rw [same, Nat.sub_add_cancel counted]

theorem sourceLines_increasing (text : List Char) :
    (sourceLines text).Pairwise (·.number < ·.number) := by
  rw [List.pairwise_iff_getElem]
  intro i j _ _ less
  simpa [sourceLines] using less

theorem skippedIn_skippedAmong (text : List Char) :
    SkippedIn text (skippedAmong (sourceLines text)) := by
  constructor
  case increasing => exact (sourceLines_increasing text).filter _
  case complete =>
    intro line
    have blank : line.byte?.isNone = !beginsBinary line.text := isNone_lineByte? line.text
    unfold skippedAmong
    rw [List.mem_filter, mem_sourceLines, blank, Bool.not_eq_true', and_assoc]

def skipEntry (line : SourceLine) : String :=
  "DEBUG ls8_common::program " ++ s!"skipping line {line.number}: {quote line.text}"

def parsedEntry (bytes skipped : Nat) : String :=
  "DEBUG ls8_common::program " ++ s!"parsed {bytes} program bytes, skipped {skipped} lines"

def Loading.entries (loading : Loading) (filter : Filter) : List String :=
  (loading.notices.filter filter.admits).map Notice.entry

inductive LogTells (skipped : List SourceLine) : Except LoadError Report → List String → Prop where
  | loaded {report : Report} (numbers : skipped.map SourceLine.number = report.skipped) :
      LogTells skipped (.ok report)
        (skipped.map skipEntry ++ [parsedEntry report.image.bytes.length report.skipped.length])
  | tooLarge {count : Nat} (large : 256 < count) :
      LogTells skipped (.error (.programTooLarge count 256)) (skipped.map skipEntry)

theorem level_of_aboutLines {notice : Notice} (about : notice.AboutLines) :
    notice.level = .debug := by
  cases notice with
  | skippedLine => rfl
  | parsed => rfl
  | _ => exact about.elim

theorem entry_of_aboutLines {notice : Notice} (about : notice.AboutLines) :
    notice.entry = "DEBUG ls8_common::program " ++ notice.message := by
  have source : notice.source = "ls8_common::program" := by
    cases notice with
    | skippedLine => rfl
    | parsed => rfl
    | _ => exact about.elim
  have front : "DEBUG" ++ " " ++ "ls8_common::program" ++ " " = "DEBUG ls8_common::program " := by
    decide
  unfold Notice.entry
  rw [level_of_aboutLines about, source, ← front]
  rfl

theorem entry_notice (line : SourceLine) : line.notice.entry = skipEntry line :=
  entry_of_aboutLines trivial

theorem entry_parsed (bytes skipped : Nat) :
    (Notice.parsed bytes skipped).entry = parsedEntry bytes skipped :=
  entry_of_aboutLines trivial

/-- An entry tells the number of the line that it names, and every character on it. -/
theorem skipEntry_injective : Function.Injective skipEntry := by
  intro line other same
  have colon (n : Nat) : ':' ∉ Nat.toDigits 10 n := notMem_decimal (by decide) n
  have shown (line : SourceLine) : (skipEntry line).toList =
      ("DEBUG ls8_common::program " ++ "skipping line ").toList ++
        (Nat.toDigits 10 line.number ++ ':' :: ' ' :: (quote line.text).toList) := by
    unfold skipEntry
    simp only [toString, String.toList_append, Nat.toList_repr, List.append_assoc]
    rfl
  have texts := congrArg String.toList same
  rw [shown, shown] at texts
  obtain ⟨digits, rest⟩ := append_mark_inj (colon _) (colon _) (List.append_cancel_left texts)
  have numbers : line.number = other.number := by
    apply decimal_inj.mp
    apply String.ext
    rw [Nat.toList_repr, Nat.toList_repr, digits]
  have quoted : line.text = other.text := by
    apply quote_injective
    apply String.ext
    exact (List.cons.inj rest).2
  cases line
  cases other
  cases numbers
  cases quoted
  rfl

theorem entries_debug (text : List Char) :
    (Loading.ofText text).entries (.ofThreshold ⟨some .debug⟩) =
      (Loading.ofText text).notices.map Notice.entry := by
  unfold Loading.entries
  rw [List.filter_eq_self.mpr]
  intro notice member
  rw [Filter.admits_ofThreshold, level_of_aboutLines (aboutLines_ofText text notice member)]
  rfl

theorem close_tells (past : Past source reading) :
    LogTells (skippedAmong source) reading.close.result
      (reading.close.notices.map Notice.entry) := by
  have named : reading.notices.map Notice.entry = (skippedAmong source).map skipEntry := by
    rw [past.notices, List.map_map]
    exact List.map_congr_left fun line _ => entry_notice line
  by_cases fits : reading.bytes.length ≤ memorySize
  · have made : Image.ofBytes reading.bytes = .ok ⟨reading.bytes, fits⟩ :=
      Image.ofBytes_eq_ok_iff.mpr rfl
    unfold Reading.close
    simp only [made, List.map_append, List.map_cons, List.map_nil, named, entry_parsed]
    exact LogTells.loaded past.skipped.symm
  · have large := Nat.lt_of_not_le fits
    unfold Reading.close
    simp only [Image.ofBytes_of_lt large, named]
    exact LogTells.tooLarge large

/-- At the debug level the log of loading has one entry for every line that was skipped, in order,
with the number and the text of the line, and none for a line that was kept. One entry with the
lengths of image and list follows if the text loads, and none if it is too large. -/
theorem loading_log_tells_report (text : List Char) :
    lines text = (text.splitOn '\n').dropLast.map closedLine ++
        ((text.splitOn '\n').getLast?.filter (· ≠ [])).toList ∧
      (Reading.run (sourceLines text)).close = Loading.ofText text ∧
      (∃ skipped : List SourceLine, SkippedIn text skipped ∧
        LogTells skipped (Loading.ofText text).result
          ((Loading.ofText text).entries (.ofThreshold ⟨some .debug⟩))) ∧
      Function.Injective skipEntry ∧
      ∀ line : List Char, Quotes line (quote line).toList := by
  have tells := close_tells (past_run (sourceLines text))
  rw [close_run, ← entries_debug] at tells
  refine ⟨lines_eq_splitOn text, close_run text, ?_, skipEntry_injective, quotes_quote⟩
  exact ⟨skippedAmong (sourceLines text), skippedIn_skippedAmong text, tells⟩

end ByteMachine
