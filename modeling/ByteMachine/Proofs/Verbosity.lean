import ByteMachine.Proofs.DefaultErrors
import ByteMachine.Proofs.LineAccounting
import ByteMachine.Proofs.PlainSettings
import ByteMachine.Proofs.VerboseFlags

/-!
Verbosity. A command has one outcome, however much of the log is asked for; the threshold decides
which notices are shown among what it says on the error stream, and nothing else. By default no
notices are shown but those on values that the output did not take and the one on a fault.
-/
namespace ByteMachine

/-- The arguments are understood as the command, and the threshold is the one that a word from
outside names, or without such a word the one of the verbose flags. -/
inductive Asks (chosen : Command) (arguments : List String) : Option String → Threshold → Prop where
  | flags (verbosity : Nat)
      (parsed : Invocation.ofArguments arguments = .command chosen verbosity) :
      Asks chosen arguments none (.ofVerbosity verbosity)
  | named {word : String} {t : Threshold} (verbosity : Nat)
      (parsed : Invocation.ofArguments arguments = .command chosen verbosity)
      (names : Threshold.ofName? word = some t) : Asks chosen arguments (some word) t

def answer (room : Option Room) (read : String → Except ReadError String) (arguments : List String)
    (setting : Option String) : Option Response :=
  (Invocation.ofArguments arguments).respond room (setting.map .ofText) read

def Diagnostic.complaint? : Diagnostic → Option String
  | log _ => none
  | complaint text => some text

def errorText (diagnostics : List Diagnostic) : String :=
  String.join (diagnostics.map fun d => d.line ++ "\n")

section Shown

variable {s t : Threshold}

theorem errors_ofThreshold (outcome : Outcome) (t : Threshold) :
    outcome.errors (.ofThreshold t) = errorText (outcome.shown t) := by
  rw [Outcome.errors, Diagnostic.shownBy_ofThreshold, errorText, Outcome.shown]

theorem shown_of_rank_le (outcome : Outcome) (quieter : s.rank ≤ t.rank) :
    outcome.shown s = (outcome.shown t).filter (Diagnostic.keptBy s) := by
  rw [Outcome.shown, Outcome.shown, List.filter_filter]
  refine List.filter_congr fun d _ => ?_
  cases d with
  | complaint text => rfl
  | log notice =>
    simp only [Diagnostic.keptBy]
    cases shown : s.admits notice.level with
    | false => rfl
    | true => rw [Threshold.admits_mono quieter shown, Bool.and_self]

theorem complaints_shown (outcome : Outcome) (t : Threshold) :
    (outcome.shown t).filterMap Diagnostic.complaint? =
      outcome.diagnostics.filterMap Diagnostic.complaint? := by
  rw [Outcome.shown, List.filterMap_filter]
  refine List.filterMap_congr fun d _ => ?_
  cases d with
  | complaint text => rfl
  | log notice => exact ite_self _

end Shown

section Execution

inductive Command.Endless : Command → Except ReadError String → Prop where
  | run {path text : String} {report : Report}
      (loads : (Loading.ofText text.toList).result = .ok report)
      (goes : ∀ n, ((Machine.ofImage report.image).after n).status = .running) :
      Endless (.run path none) (.ok text)

/-- A run under the limit is over after `n` steps, or given up then. -/
def Machine.EndsAfter (m : Machine) (limit : Option Nat) (n : Nat) : Prop :=
  limit = some n ∨ limit = none ∧ (m.after n).status ≠ .running

/-- The values that a command prints: those of the run that it makes, and none if it makes no run. -/
inductive Command.Prints : Command → Except ReadError String → List UInt8 → Prop where
  | run {path text : String} {limit : Option Nat} {report : Report} (n : Nat)
      (loads : (Loading.ofText text.toList).result = .ok report)
      (ends : (Machine.ofImage report.image).EndsAfter limit n) :
      Prints (.run path limit) (.ok text) ((Machine.ofImage report.image).printed n)
  | load (path : String) (content : Except ReadError String) : Prints (.load path) content []
  | unloaded (chosen : Command) {content : Except ReadError String}
      (fails : ∀ text report, content = .ok text →
        (Loading.ofText text.toList).result ≠ .ok report) :
      Prints chosen content []

variable {chosen : Command} {content : Except ReadError String} {room : Option Room}

theorem runImage_of_running {path : String} {image : Image}
    (goes : ∀ n, ((Machine.ofImage image).after n).status = .running) :
    runImage room path none image = none := by
  simp only [runImage, Machine.runWithin, Machine.run_of_running goes, Option.map_none,
    Option.bind_eq_bind, Option.bind_none]

theorem execute_of_endless (endless : chosen.Endless content) :
    chosen.execute room content = none := by
  cases endless with
  | run loads goes => rw [execute_run loads, runImage_of_running goes, Option.map_none]

theorem runs_on_or_ends (room : Option Room) (path : String) (limit : Option Nat) (image : Image) :
    limit = none ∧ (∀ n, ((Machine.ofImage image).after n).status = .running) ∨
      ∃ n, (Machine.ofImage image).EndsAfter limit n ∧
        runImage room path limit image = some (outcomeAfter room path image n) := by
  cases limit with
  | some n => exact .inr ⟨n, .inl rfl, runImage_limited room path image n⟩
  | none =>
    by_cases stops : ∃ n, ((Machine.ofImage image).after n).status ≠ .running
    · obtain ⟨n, stopped⟩ := stops
      exact .inr ⟨n, .inr ⟨rfl, stopped⟩, runImage_free stopped⟩
    · push Not at stops
      exact .inl ⟨rfl, stops⟩

theorem level_loading (text : List Char) :
    ∀ notice ∈ (Loading.ofText text).notices, notice.level = .debug := by
  intro notice member
  have about := aboutLines_ofText text notice member
  cases notice with
  | skippedLine | parsed => rfl
  | _ => exact about.elim

theorem shown_after_loading (text : List Char) (outcome : Outcome) :
    (outcome.after (Loading.ofText text).notices).shown (.ofVerbosity 0) =
      outcome.shown (.ofVerbosity 0) := by
  apply shown_after_of_hushed
  intro notice member
  rw [level_loading text notice member]
  rfl

theorem endless_or_outcome (chosen : Command) (room : Option Room)
    (content : Except ReadError String) :
    chosen.Endless content ∨ ∃ outcome values, chosen.execute room content = some outcome ∧
      chosen.Prints content values ∧
      DefaultErrors (losses room values) outcome.exit (outcome.shown (.ofVerbosity 0)) := by
  cases content with
  | error e =>
    refine .inr ⟨_, [], rfl, .unloaded chosen nofun, ?_⟩
    rw [losses_nil]
    exact .badInput _
  | ok text =>
    -- Nothing said while the program is loaded is shown, so only what comes then has to be looked at.
    have later (outcome : Outcome) (values : List UInt8)
        (executed : chosen.execute room (.ok text) =
          some (outcome.after (Loading.ofText text.toList).notices))
        (prints : chosen.Prints (.ok text) values)
        (errors : DefaultErrors (losses room values) outcome.exit
          (outcome.shown (.ofVerbosity 0))) :
        ∃ outcome values, chosen.execute room (.ok text) = some outcome ∧
          chosen.Prints (.ok text) values ∧
          DefaultErrors (losses room values) outcome.exit (outcome.shown (.ofVerbosity 0)) := by
      refine ⟨_, values, executed, prints, ?_⟩
      rw [shown_after_loading]
      exact errors
    cases loads : (Loading.ofText text.toList).result with
    | error e =>
      have fails (other : String) (report : Report)
          (same : (.ok text : Except ReadError String) = .ok other) :
          (Loading.ofText other.toList).result ≠ .ok report := by
        obtain rfl := Except.ok.inj same
        rw [loads]
        nofun
      refine .inr (later (.refuse e.message) [] (execute_refused chosen loads)
        (.unloaded chosen fails) ?_)
      rw [losses_nil]
      exact .badInput _
    | ok report =>
      cases chosen with
      | load path =>
        refine .inr (later (describe room path report) [] (execute_load loads) (.load path _) ?_)
        rw [losses_nil]
        exact default_describe room path report
      | run path limit =>
        obtain ⟨rfl, goes⟩ | ⟨n, ended, ends⟩ := runs_on_or_ends room path limit report.image
        · exact .inl (.run loads goes)
        · refine .inr (later (outcomeAfter room path report.image n) _ ?_ (.run n loads ended)
            (default_outcomeAfter room path report.image n))
          rw [execute_run loads, ends, Option.map_some]

end Execution

section Answer

variable {chosen : Command} {room : Option Room} {read : String → Except ReadError String}
  {arguments : List String} {setting : Option String} {t : Threshold}

theorem answer_of_asks (asks : Asks chosen arguments setting t) :
    answer room read arguments setting =
      (chosen.execute room (read chosen.path)).map fun outcome =>
        .written outcome.exit.number outcome.output (errorText (outcome.shown t)) := by
  have plain (arguments : List String) (verbosity : Nat) (written : Option LogSetting)
      (parsed : Invocation.ofArguments arguments = .command chosen verbosity)
      (same : written.getD (.ofVerbosity verbosity) = ⟨.ofThreshold t, []⟩) :
      (Invocation.ofArguments arguments).respond room written read =
        (chosen.execute room (read chosen.path)).map fun outcome =>
          .written outcome.exit.number outcome.output (errorText (outcome.shown t)) := by
    have silent : (⟨.ofThreshold t, []⟩ : LogSetting).complaints = "" := rfl
    simp only [parsed, Invocation.respond, same, silent, String.empty_append, errors_ofThreshold]
  cases asks with
  | flags verbosity parsed => exact plain arguments verbosity none parsed rfl
  | @named word t verbosity parsed names =>
    exact plain arguments verbosity (some (.ofText word)) parsed (LogSetting.ofText_of_names names)

structure FiltersOnly (chosen : Command) (room : Option Room)
    (read : String → Except ReadError String) (outcome : Outcome) : Prop where
  answered : ∀ arguments setting t, Asks chosen arguments setting t →
    answer room read arguments setting =
      some (.written outcome.exit.number outcome.output (errorText (outcome.shown t)))
  filtered : ∀ s t : Threshold, s.rank ≤ t.rank →
    outcome.shown s = (outcome.shown t).filter (Diagnostic.keptBy s)
  complaints : ∀ t, (outcome.shown t).filterMap Diagnostic.complaint? =
    outcome.diagnostics.filterMap Diagnostic.complaint?
  default : ∃ values, chosen.Prints (read chosen.path) values ∧
    DefaultErrors (losses room values) outcome.exit (outcome.shown (.ofVerbosity 0))

/-- However much log is asked for, a command exits alike, writes the same output and complains in
the same words. A quieter threshold takes log lines away, and by default no more are left than those
on values that the output did not take whole and the one on a fault. -/
theorem verbosity_filters_log (chosen : Command) (room : Option Room)
    (read : String → Except ReadError String) :
    (¬ chosen.Endless (read chosen.path) → ∃ outcome, FiltersOnly chosen room read outcome) ∧
      (chosen.Endless (read chosen.path) → ∀ arguments setting t,
        Asks chosen arguments setting t → answer room read arguments setting = none) ∧
      ∀ arguments verbosity, Invocation.ofArguments arguments = .command chosen verbosity →
        (∀ t : Threshold, Asks chosen arguments (some t.name) t) ∧
          (verbosity = 0 → ∀ more,
            Asks chosen (List.replicate more "-v" ++ arguments) none (.ofVerbosity more)) := by
  refine ⟨fun ends => ?_, fun endless arguments setting t asks => ?_,
    fun arguments verbosity parsed => ⟨fun t => ?_, ?_⟩⟩
  · obtain endless | ⟨outcome, values, executed, errors⟩ :=
      endless_or_outcome chosen room (read chosen.path)
    · exact absurd endless ends
    · refine ⟨outcome, ?_, fun s t => shown_of_rank_le outcome, complaints_shown outcome,
        values, errors⟩
      intro arguments setting t asks
      rw [answer_of_asks asks, executed, Option.map_some]
  · rw [answer_of_asks asks, execute_of_endless endless, Option.map_none]
  · exact .named verbosity parsed (ofName?_name t)
  · rintro rfl more
    exact .flags more (ofArguments_verbose more parsed)

def misprintingText : String := "01000111\n00000000\n01000111\n00001001\n"

/-- On an output that is full before the newline, so that the value is lost. -/
theorem misprinting_answers :
    let room : Option Room := some ⟨1, "full"⟩
    let read (_ : String) : Except ReadError String := .ok misprintingText
    let arguments := runArguments 0 "misprint.ls8" (some 9)
    ¬ (Command.run "misprint.ls8" (some 9)).Endless (read "misprint.ls8") ∧
      ∃ address fault errors,
        answer room read arguments none = some (.written 2 "0" (errorText
          [.log (.dropped 0 "full"), .log (.faulted address fault),
            .complaint s!"fault: {fault.message}"])) ∧
        answer room read arguments (some "off") =
          some (.written 2 "0" (errorText [.complaint s!"fault: {fault.message}"])) ∧
        answer room read ("-v" :: "-v" :: arguments) none = some (.written 2 "0" errors) := by
  intro room read arguments
  have loads : (Loading.ofText misprintingText.toList).result = .ok ⟨Session.misprinting, []⟩ := by
    decide +kernel
  have plain : Argument.ofString "misprint.ls8" = .plain "misprint.ls8" := by decide
  have parsed : Invocation.ofArguments arguments = .command (.run "misprint.ls8" (some 9)) 0 :=
    ofArguments_run 0 plain (by decide) (by decide)
  have known : answer room read arguments none = _ :=
    respond_run_limited 0 none plain (by decide) (by decide) (rfl : read "misprint.ls8" = _) loads
  obtain ⟨faulted, cut⟩ :
      (outcomeAfter room "misprint.ls8" Session.misprinting 9).exit = .fault ∧
        (outcomeAfter room "misprint.ls8" Session.misprinting 9).output = "0" := by
    decide +kernel
  have printed : (Machine.ofImage Session.misprinting).printed 9 = [0] := by decide +kernel
  have late : losses room [0] = [.dropped 0 "full"] := by decide +kernel
  have ends : ¬ (Command.run "misprint.ls8" (some 9)).Endless (read "misprint.ls8") := nofun
  obtain ⟨answers, -, asks⟩ := verbosity_filters_log (.run "misprint.ls8" (some 9)) room read
  obtain ⟨outcome, filters⟩ := answers ends
  obtain ⟨named, louder⟩ := asks arguments 0 parsed
  have usual := filters.answered arguments none _ (.flags 0 parsed)
  have same := usual.symm.trans known
  simp only [Outcome.written, Outcome.after, faulted, cut, Option.some.injEq,
    Response.written.injEq] at same
  obtain ⟨exit, output, -⟩ := same
  obtain ⟨values, prints, errors⟩ := filters.default
  have lost : losses room values = [.dropped 0 "full"] := by
    cases prints with
    | unloaded _ fails => exact absurd loads (fails _ _ rfl)
    | run n loads' ended =>
      obtain rfl := Except.ok.inj (loads'.symm.trans loads)
      obtain limit | ⟨unlimited, -⟩ := ended
      · obtain rfl := Option.some.inj limit
        rw [printed, late]
      · exact absurd unlimited (Option.some_ne_none 9)
  obtain ⟨address, fault, shown⟩ := errors.of_fault exit
  rw [lost] at shown
  have silenced : outcome.shown .off = [.complaint s!"fault: {fault.message}"] := by
    rw [filters.filtered .off (.ofVerbosity 0) (by decide), shown]
    rfl
  have off := filters.answered arguments (some "off") .off (named .off)
  have loud := filters.answered _ none _ (louder rfl 2)
  rw [shown] at usual
  rw [silenced] at off
  rw [exit, output] at usual off loud
  exact ⟨ends, address, fault, _, usual, off, loud⟩

def printing : Image := ⟨[0x82, 0, 8, 0x47, 0, 1], by decide⟩

def printingText : String := "10000010\n00000000\n00001000\n01000111\n00000000\n00000001\n"

/-- On a full device a program that halts has a log line by default, and it is not on a fault. -/
theorem full_device_is_told :
    let full : Room := ⟨0, "No space left on device (os error 28)"⟩
    let read (_ : String) : Except ReadError String := .ok printingText
    let arguments := runArguments 0 "print8.ls8" none
    ∃ outcome, (Command.run "print8.ls8" none).execute (some full) (.ok printingText) =
        some outcome ∧
      Asks (.run "print8.ls8" none) arguments none (.ofVerbosity 0) ∧
      answer (some full) read arguments none =
        some (.written 0 "" (errorText (outcome.shown (.ofVerbosity 0)))) ∧
      outcome.shown (.ofVerbosity 0) = [.log (.dropped 8 full.refusal)] ∧
      ¬ ∀ notice, .log notice ∈ outcome.shown (.ofVerbosity 0) →
        ∃ address fault, notice = .faulted address fault := by
  intro full read arguments
  have loads : (Loading.ofText printingText.toList).result = .ok ⟨printing, []⟩ := by
    decide +kernel
  have plain : Argument.ofString "print8.ls8" = .plain "print8.ls8" := by decide
  have asks : Asks (.run "print8.ls8" none) arguments none (.ofVerbosity 0) :=
    .flags 0 (ofArguments_run 0 plain (by decide) nofun)
  have stopped : ((Machine.ofImage printing).after 3).status ≠ .running := by decide +kernel
  have executed : (Command.run "print8.ls8" none).execute (some full) (.ok printingText) =
      some ((outcomeAfter (some full) "print8.ls8" printing 3).after
        (Loading.ofText printingText.toList).notices) := by
    rw [execute_run loads, runImage_free stopped, Option.map_some]
  obtain ⟨halted, nothing, dropped⟩ :
      (outcomeAfter (some full) "print8.ls8" printing 3).exit = .success ∧
        (outcomeAfter (some full) "print8.ls8" printing 3).output = "" ∧
        (outcomeAfter (some full) "print8.ls8" printing 3).shown (.ofVerbosity 0) =
          [.log (.dropped 8 full.refusal)] := by
    decide +kernel
  have shown := (shown_after_loading printingText.toList _).trans dropped
  have answered : answer (some full) read arguments none = _ := answer_of_asks asks
  refine ⟨_, executed, asks, ?_, shown, fun only => ?_⟩
  · rw [answered, executed, Option.map_some]
    simp only [Outcome.after, halted, nothing, ExitCode.number]
  · rw [shown] at only
    obtain ⟨address, fault, same⟩ := only _ List.mem_cons_self
    cases same

end Answer

end ByteMachine
