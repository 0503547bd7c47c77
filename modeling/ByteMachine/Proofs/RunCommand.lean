import ByteMachine.CommandLine.Response
import ByteMachine.Proofs.Arguments
import ByteMachine.Proofs.ConsoleText
import ByteMachine.Proofs.Course

/-!
What the run command answers. Its exit code tells how the course of a fresh machine ended within the
step limit, its output shows the values printed on the way, and the last thing said on the error
stream names the fault or the limit. Once a limit is enough to stop the machine, a higher limit or
none makes no difference.
-/
namespace ByteMachine

def LogSetting.shown (setting : LogSetting) (notices : List Notice) : String :=
  setting.complaints ++
    String.join ((notices.filter setting.filter.admits).map fun notice => notice.line ++ "\n")

section Outcome

theorem verdict_answer (path : String) (m : Machine) (status : Status) :
    verdict path m status.answer = verdict path m (.ok status) := by
  cases status <;> rfl

/-- The outcome of a run that is over after `n` steps, or given up then. -/
def outcomeAfter (room : Option Room) (path : String) (image : Image) (n : Nat) : Outcome :=
  let m := Machine.ofImage image
  let ending := verdict path (m.after n) (.ok (m.after n).status)
  let delivered := deliver (Console.ofRoom room) (m.stepTimes n).events
  Outcome.after (.loaded image.length :: delivered.2) ⟨ending.1, delivered.1.text, [ending.2]⟩

variable {room : Option Room} {path : String} {image : Image} {k n : Nat}

theorem output_outcomeAfter (path : String) (image : Image) (n : Nat) :
    (outcomeAfter none path image n).output =
      decimalLines ((Machine.ofImage image).printed n) := by
  rw [← Machine.values_stepTimes]
  exact text_deliver _

/-- The answer of a run matters to its outcome only as far as the status does. -/
theorem runImage_of_runs {limit : Option Nat} {t : Transition (Except Fault Status)}
    (runs : (Machine.ofImage image).runWithin limit = some t)
    (machine : t.machine = (Machine.ofImage image).after n)
    (events : t.events = ((Machine.ofImage image).stepTimes n).events)
    (answered : verdict path t.machine t.result = verdict path t.machine (.ok t.machine.status)) :
    runImage room path limit image = some (outcomeAfter room path image n) := by
  rw [machine] at answered
  unfold runImage
  simp only [runs, answered, machine, events, Option.bind_eq_bind, Option.bind_some, outcomeAfter]
  rfl

theorem runImage_limited (room : Option Room) (path : String) (image : Image) (n : Nat) :
    runImage room path (some n) image = some (outcomeAfter room path image n) := by
  refine runImage_of_runs rfl (Machine.runFor_machine _ n) (Machine.runFor_events _ n) ?_
  -- Without a step to give, a run answers before it looks at the machine.
  cases n with
  | zero => rfl
  | succ n => rw [Machine.runFor_eq_stepTimes, verdict_answer]

theorem runImage_free (stopped : ((Machine.ofImage image).after k).status ≠ .running) :
    runImage room path none image = some (outcomeAfter room path image k) := by
  have runs := congrArg (Option.map fun t => t.map fun result => result.map fun _ => Status.halted)
    (Machine.run_of_stopped stopped)
  refine runImage_of_runs runs rfl rfl ?_
  simp only [Transition.map]
  cases status : ((Machine.ofImage image).after k).status with
  | running => contradiction
  | halted => rfl
  | faulted fault => rfl

theorem outcomeAfter_of_stopped (stopped : ((Machine.ofImage image).after k).status ≠ .running)
    (later : k ≤ n) : outcomeAfter room path image n = outcomeAfter room path image k := by
  obtain ⟨machine, events⟩ := Machine.stays_stopped stopped later
  simp only [outcomeAfter, machine, events]

end Outcome

section Answer

variable {setting : LogSetting} {m : Machine} {n : Nat}

theorem errors_after (notices : List Notice) (outcome : Outcome) :
    setting.complaints ++ (outcome.after notices).errors setting.filter =
      setting.shown notices ++ outcome.errors setting.filter := by
  have shown : (notices.map Diagnostic.log).filter (Diagnostic.shownBy setting.filter) =
      (notices.filter setting.filter.admits).map .log := by
    rw [List.filter_map]
    rfl
  simp only [Outcome.errors, Outcome.after, List.filter_append, shown, List.map_append,
    List.map_map, String.join_append, LogSetting.shown, String.append_assoc]
  rfl

theorem errors_of_complaint (notices : List Notice) (exit : ExitCode) (output words : String) :
    setting.complaints ++
        (Outcome.after notices ⟨exit, output, [.complaint words]⟩).errors setting.filter =
      setting.shown notices ++ (words ++ "\n") := by
  have last : [Diagnostic.complaint words].filter (Diagnostic.shownBy setting.filter) =
      [.complaint words] := rfl
  rw [errors_after, Outcome.errors, last]
  simp [Diagnostic.line]

structure Concludes (m : Machine) (n : Nat) (setting : LogSetting) (exit : Nat)
    (errors : String) : Prop where
  halted : exit = 0 ↔ m.HaltsWithin n
  faulted : exit = 2 ↔ ∃ fault, m.FaultsWithin n fault
  limited : exit = 3 ↔ ¬ m.HaltsWithin n ∧ ¬ ∃ fault, m.FaultsWithin n fault
  fault_told : ∀ fault, m.FaultsWithin n fault →
    ∃ notices, errors = setting.shown notices ++ (s!"fault: {fault.message}" ++ "\n")
  limit_told : exit = 3 → (m.trace n).length = n ∧ ∃ notices,
    errors = setting.shown notices ++
      (s!"error: step limit of {n} reached before HLT (pc {hex (m.after n).pc})" ++ "\n")

theorem concludes_of_status {exit : Nat} {errors : String} (running : m.status = .running)
    (halted : (m.after n).status = .halted → exit = 0)
    (faulted : ∀ fault, (m.after n).status = .faulted fault → exit = 2 ∧
      ∃ notices, errors = setting.shown notices ++ (s!"fault: {fault.message}" ++ "\n"))
    (limited : (m.after n).status = .running → exit = 3 ∧ ∃ notices,
      errors = setting.shown notices ++
        (s!"error: step limit of {n} reached before HLT (pc {hex (m.after n).pc})" ++ "\n")) :
    Concludes m n setting exit errors := by
  have halts : (m.after n).status = .halted ↔ m.HaltsWithin n :=
    Machine.halted_iff_haltsWithin running
  have faults (fault : Fault) : (m.after n).status = .faulted fault ↔ m.FaultsWithin n fault :=
    Machine.faulted_iff_faultsWithin running
  cases status : (m.after n).status with
  | running =>
    obtain ⟨rfl, told⟩ := limited status
    constructor
    case fault_told => simp [← faults, status]
    case limit_told => exact fun _ => ⟨Machine.length_trace_of_running status, told⟩
    all_goals simp [← halts, ← faults, status]
  | halted =>
    obtain rfl := halted status
    constructor
    case limit_told => nofun
    all_goals simp [← halts, ← faults, status]
  | faulted fault =>
    obtain ⟨rfl, told⟩ := faulted fault status
    constructor
    case fault_told =>
      intro other met
      rw [← faults, status] at met
      obtain rfl := Status.faulted.inj met
      exact told
    case limit_told => nofun
    all_goals simp [← halts, ← faults, status]

theorem Concludes.exit_of_going {exit : Nat} {errors : String}
    (concludes : Concludes m n setting exit errors) (running : m.status = .running)
    (going : (m.after n).status = .running) : exit = 3 := by
  refine concludes.limited.mpr ⟨?_, ?_⟩
  · rw [← Machine.halted_iff_haltsWithin running, going]
    nofun
  · rintro ⟨fault, met⟩
    rw [← Machine.faulted_iff_faultsWithin running, going] at met
    contradiction

theorem after_after (first second : List Notice) (outcome : Outcome) :
    (outcome.after second).after first = outcome.after (first ++ second) := by
  simp [Outcome.after]

theorem concludes_outcomeAfter (room : Option Room) (path : String) (image : Image) (n : Nat)
    (notices : List Notice) (setting : LogSetting) :
    let outcome := (outcomeAfter room path image n).after notices
    Concludes (.ofImage image) n setting outcome.exit.number
      (setting.complaints ++ outcome.errors setting.filter) := by
  intro outcome
  have whole : outcome = Outcome.after _ _ := after_after notices _ _
  apply concludes_of_status rfl
  case halted =>
    intro halted
    rw [whole]
    simp only [halted]
    rfl
  case faulted =>
    intro fault faulted
    rw [whole]
    simp only [faulted]
    exact ⟨rfl, _, errors_of_complaint _ _ _ _⟩
  case limited =>
    intro running
    have counted := Machine.steps_of_running running
    have fresh : (Machine.ofImage image).steps + n = n := Nat.zero_add n
    rw [whole]
    simp only [running, verdict, counted, fresh]
    exact ⟨rfl, _, errors_of_complaint _ _ _ _⟩

end Answer

section Command

variable {room : Option Room} {path text : String} {report : Report}
  {read : String → Except ReadError String} {n : Nat}

def Outcome.written (outcome : Outcome) (notices : List Notice) (setting : LogSetting) : Response :=
  .written outcome.exit.number outcome.output
    (setting.complaints ++ (outcome.after notices).errors setting.filter)

theorem execute_refused (chosen : Command) {e : LoadError}
    (fails : (Loading.ofText text.toList).result = .error e) :
    chosen.execute room (.ok text) =
      some ((Outcome.refuse e.message).after (Loading.ofText text.toList).notices) := by
  simp only [Command.execute, fails]
  rfl

theorem execute_load (loads : (Loading.ofText text.toList).result = .ok report) :
    (Command.load path).execute room (.ok text) =
      some ((describe room path report).after (Loading.ofText text.toList).notices) := by
  simp only [Command.execute, loads]
  rfl

theorem execute_run {limit : Option Nat}
    (loads : (Loading.ofText text.toList).result = .ok report) :
    (Command.run path limit).execute room (.ok text) =
      (runImage room path limit report.image).map (.after (Loading.ofText text.toList).notices) := by
  simp only [Command.execute, loads]
  rfl

theorem respond_of_asks {chosen : Command} {arguments : List String} {verbosity : Nat}
    (asks : Invocation.ofArguments arguments = .command chosen verbosity)
    (room : Option Room) (read : String → Except ReadError String) (setting : Option LogSetting) :
    (Invocation.ofArguments arguments).respond room setting read =
      (chosen.execute room (read chosen.path)).map fun outcome =>
        outcome.written [] (setting.getD (.ofVerbosity verbosity)) := by
  rw [asks]
  rfl

theorem respond_run_of_asks {arguments : List String} {limit : Option Nat} {verbosity : Nat}
    (asks : Invocation.ofArguments arguments = .command (.run path limit) verbosity)
    (setting : Option LogSetting) (readable : read path = .ok text)
    (loads : (Loading.ofText text.toList).result = .ok report) :
    (Invocation.ofArguments arguments).respond room setting read =
      (runImage room path limit report.image).map fun outcome =>
        outcome.written (Loading.ofText text.toList).notices
          (setting.getD (.ofVerbosity verbosity)) := by
  have content : read (Command.run path limit).path = .ok text := readable
  rw [respond_of_asks asks, content, execute_run loads, Option.map_map]
  rfl

theorem respond_run_limited (verbosity : Nat) (setting : Option LogSetting)
    (plain : Argument.ofString path = .plain path) (named : path ≠ "") (small : n < limitBound)
    (readable : read path = .ok text) (loads : (Loading.ofText text.toList).result = .ok report) :
    (Invocation.ofArguments (runArguments verbosity path (some n))).respond room setting read =
      some ((outcomeAfter room path report.image n).written (Loading.ofText text.toList).notices
        (setting.getD (.ofVerbosity verbosity))) := by
  have within : ∀ k ∈ some n, k < limitBound := fun _ same => Option.some.inj same ▸ small
  have asks := ofArguments_run verbosity plain named within
  rw [respond_run_of_asks asks setting readable loads, runImage_limited, Option.map_some]

theorem respond_run_free (verbosity : Nat) (setting : Option LogSetting)
    (plain : Argument.ofString path = .plain path) (named : path ≠ "")
    (readable : read path = .ok text) (loads : (Loading.ofText text.toList).result = .ok report)
    (stopped : ((Machine.ofImage report.image).after n).status ≠ .running) :
    (Invocation.ofArguments (runArguments verbosity path none)).respond room setting read =
      some ((outcomeAfter room path report.image n).written (Loading.ofText text.toList).notices
        (setting.getD (.ofVerbosity verbosity))) := by
  have within : ∀ k ∈ (none : Option Nat), k < limitBound := nofun
  have asks := ofArguments_run verbosity plain named within
  rw [respond_run_of_asks asks setting readable loads, runImage_free stopped, Option.map_some]

/-- On an output that takes everything, a run of a program that loads exits with 0, 2 or 3 as a fresh
machine halts, faults or does neither within the limit, and writes what the machine prints until
then. A limit that is not used up could as well be higher or absent. -/
theorem run_command_tells_course (verbosity : Nat) (setting : Option LogSetting)
    (plain : Argument.ofString path = .plain path) (named : path ≠ "")
    (readable : read path = .ok text) (loads : (Loading.ofText text.toList).result = .ok report) :
    let m := Machine.ofImage report.image
    let answer (limit : Option Nat) :=
      (Invocation.ofArguments (runArguments verbosity path limit)).respond none setting read
    ∀ n < limitBound,
      (∃ exit errors, answer (some n) = some (.written exit (decimalLines (m.printed n)) errors) ∧
        Concludes m n (setting.getD (.ofVerbosity verbosity)) exit errors) ∧
      ((answer (some n)).map Response.exit ≠ some 3 →
        answer none = answer (some n) ∧
          ∀ more, n ≤ more → more < limitBound → answer (some more) = answer (some n)) ∧
      ∀ fewer ≤ n, ∃ rest,
        decimalLines (m.printed n) = decimalLines (m.printed fewer) ++ rest := by
  intro m answer n small
  have limited (k : Nat) (allowed : k < limitBound) :
      answer (some k) = some ((outcomeAfter none path report.image k).written
        (Loading.ofText text.toList).notices (setting.getD (.ofVerbosity verbosity))) :=
    respond_run_limited verbosity setting plain named allowed readable loads
  have concludes := concludes_outcomeAfter none path report.image n
    (Loading.ofText text.toList).notices (setting.getD (.ofVerbosity verbosity))
  refine ⟨⟨_, _, ?_, concludes⟩, fun enough => ?_, fun fewer before => ?_⟩
  · rw [limited n small, Outcome.written, output_outcomeAfter]
    rfl
  · have stopped : (m.after n).status ≠ .running := by
      intro going
      rw [limited n small] at enough
      exact enough (congrArg some (concludes.exit_of_going rfl going))
    have free : answer none = _ :=
      respond_run_free verbosity setting plain named readable loads stopped
    refine ⟨free.trans (limited n small).symm, fun more later allowed => ?_⟩
    rw [limited more allowed, limited n small, outcomeAfter_of_stopped stopped later]
  · obtain ⟨rest, longer⟩ := m.printed_of_le before
    exact ⟨decimalLines rest, by rw [longer, decimalLines_append]⟩

theorem printing_answers :
    let read (_ : String) : Except ReadError String := .ok "01000111\n00000000\n00000001\n"
    let answer (limit : Option Nat) :=
      (Invocation.ofArguments (runArguments 0 "print.ls8" limit)).respond none none read
    (∃ errors, answer (some 0) = some (.written 3 "" errors)) ∧
      (∃ errors, answer (some 2) = some (.written 0 "0\n" errors)) ∧
      answer none = answer (some 2) := by
  intro read answer
  have loads : (Loading.ofText "01000111\n00000000\n00000001\n".toList).result =
      .ok ⟨⟨[0x47, 0, 1], by decide⟩, []⟩ := by decide +kernel
  have course := run_command_tells_course 0 none (by decide : Argument.ofString "print.ls8" = _)
    (by decide) (rfl : read "print.ls8" = _) loads
  let m := Machine.ofImage ⟨[0x47, 0, 1], by decide⟩
  obtain ⟨⟨exit, errors, cut, short⟩, -, -⟩ := course 0 (by decide)
  obtain rfl : exit = 3 := short.exit_of_going rfl rfl
  obtain ⟨⟨exit, errors', whole, long⟩, enough, -⟩ := course 2 (by decide)
  have halted : (m.after 2).status = .halted := by decide +kernel
  obtain rfl : exit = 0 := long.halted.mpr ((Machine.halted_iff_haltsWithin rfl).mp halted)
  have printed : m.printed 2 = [0] := by decide +kernel
  have same := (enough (by rw [whole]; nofun)).1
  rw [printed] at whole
  exact ⟨⟨errors, cut⟩, ⟨errors', whole⟩, same⟩

end Command

end ByteMachine
