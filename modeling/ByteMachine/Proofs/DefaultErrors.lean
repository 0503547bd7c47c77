import ByteMachine.Proofs.RunCommand
import ByteMachine.Proofs.RunLog

/-!
What a command says on the error stream if nobody asks for more log or less. Traces are hushed then,
and so is what is said of a halt, so that the values that the output did not take whole are all that
is heard of while a machine runs, and a fault is heard of last.
-/
namespace ByteMachine

namespace Diagnostic

def keptBy (t : Threshold) : Diagnostic → Bool
  | log notice => t.admits notice.level
  | complaint _ => true

theorem shownBy_ofThreshold (t : Threshold) : shownBy (.ofThreshold t) = keptBy t := by
  funext d
  cases d with
  | log notice => exact Filter.admits_ofThreshold t notice
  | complaint text => rfl

end Diagnostic

def Outcome.shown (outcome : Outcome) (t : Threshold) : List Diagnostic :=
  outcome.diagnostics.filter (Diagnostic.keptBy t)

theorem shown_after (notices : List Notice) (outcome : Outcome) (t : Threshold) :
    (outcome.after notices).shown t =
      (notices.filter fun notice => t.admits notice.level).map .log ++ outcome.shown t := by
  rw [Outcome.shown, Outcome.after, List.filter_append, List.filter_map]
  rfl

theorem shown_after_of_hushed {notices : List Notice} {t : Threshold}
    (hushed : ∀ notice ∈ notices, t.admits notice.level = false) (outcome : Outcome) :
    (outcome.after notices).shown t = outcome.shown t := by
  have silent : notices.filter (fun notice => t.admits notice.level) = [] := by
    rw [List.filter_eq_nil_iff]
    intro notice member
    rw [hushed notice member]
    decide
  rw [shown_after, silent, List.map_nil, List.nil_append]

section Events

variable {m : Machine} {n : Nat}

theorem ending_of_running (running : m.status = .running) : m.ending = [] := by
  simp only [Machine.ending, running]

theorem closes_stepTimes (running : m.status = .running) (n : Nat) :
    Machine.Closes (m.stepTimes n).notices (m.after n) := by
  induction n with
  | zero => exact ⟨[], nofun, (ending_of_running running).symm⟩
  | succ n ih =>
    rw [Machine.notices_stepTimes, Machine.moments_succ_last, List.flatMap_append,
      List.flatMap_singleton, ← Machine.notices_stepTimes, Machine.after_succ_last]
    exact ih.step

theorem events_of_no_values {events : List Event} (silent : events.filterMap Event.value? = []) :
    events = (events.filterMap Event.notice?).map .note := by
  induction events with
  | nil => rfl
  | cons event events ih =>
    cases event with
    | note notice => exact congrArg (.note notice :: ·) (ih silent)
    | emit value => contradiction

theorem values_of_stopping (running : m.status = .running)
    (stops : m.step.machine.status ≠ .running) : m.step.values = [] := by
  obtain ⟨i, executes⟩ | ⟨fault, failed⟩ := Machine.executes_or_fails running
  · rw [executes.values_eq]
    rw [executes.obeys.status] at stops
    unfold Machine.statusAfter at stops
    split at stops
    · rename_i hlt
      rw [Machine.emitted, hlt]
    · contradiction
  · exact (Machine.step_of_error running failed).2

/-- A halt or a fault is the last thing that a machine reports, and all notices before it are
traces. -/
theorem events_stepTimes (running : m.status = .running) (n : Nat) :
    ∃ early, (m.stepTimes n).events = early ++ (m.after n).ending.map .note ∧
      ∀ notice, .note notice ∈ early → notice.level = .trace := by
  have traced_of_running {k : Nat} (going : (m.after k).status = .running) :
      ∀ notice, .note notice ∈ (m.stepTimes k).events → notice.level = .trace := by
    obtain ⟨traces, traced, told⟩ := closes_stepTimes running k
    rw [ending_of_running going, List.append_nil] at told
    intro notice member
    exact traced notice (told ▸ List.mem_filterMap.mpr ⟨_, member, rfl⟩)
  by_cases going : (m.after n).status = .running
  · refine ⟨(m.stepTimes n).events, ?_, traced_of_running going⟩
    rw [ending_of_running going, List.map_nil, List.append_nil]
  · -- The step that stops the machine has the last word, and it prints nothing after it.
    obtain ⟨k, before, going', last⟩ := Machine.stops_at running going
    have events : (m.stepTimes n).events = (m.stepTimes k).events ++ (m.after k).step.events := by
      have stopped : (m.after (k + 1)).status ≠ .running := by
        rw [Machine.after_succ_last, last]
        exact going
      rw [(Machine.stays_stopped stopped before).2, Machine.stepTimes_add]
      exact congrArg (_ ++ ·) (List.append_nil _)
    have silent := values_of_stopping going' (last ▸ going)
    have starts : Machine.Closes [] (m.after k) := closes_stepTimes going' 0
    obtain ⟨traces, traced, notices⟩ := starts.step
    rw [last, List.nil_append] at notices
    refine ⟨(m.stepTimes k).events ++ traces.map .note, ?_, fun notice member => ?_⟩
    · rw [events, events_of_no_values silent]
      change _ ++ (m.after k).step.notices.map _ = _
      rw [notices, List.map_append, List.append_assoc]
    · rw [List.mem_append, List.mem_map] at member
      obtain early | ⟨trace, among, same⟩ := member
      · exact traced_of_running going' notice early
      · exact Event.note.inj same ▸ traced trace among

theorem loud_deliver {t : Threshold} (warns : t.admits .warn = true)
    (traceless : t.admits .trace = false) (running : m.status = .running) (room : Option Room)
    (n : Nat) :
    (deliver (Console.ofRoom room) (m.stepTimes n).events).2.filter (t.admits ·.level) =
      losses room (m.printed n) ++ (m.after n).ending.filter (t.admits ·.level) := by
  obtain ⟨early, events, traced⟩ := events_stepTimes running n
  have hushed (notice : Notice) (member : .note notice ∈ early) :
      t.admits notice.level = false := by
    rw [traced notice member]
    exact traceless
  have printed : m.printed n = early.filterMap Event.value? := by
    have nothing (notices : List Notice) : (notices.map .note).filterMap Event.value? = [] := by
      simp [Event.value?]
    rw [← Machine.values_stepTimes, Transition.values, events, List.filterMap_append, nothing,
      List.append_nil]
  have kept : (losses room (m.printed n)).filter (t.admits ·.level) = losses room (m.printed n) := by
    rw [List.filter_eq_self]
    intro notice member
    rw [level_losses notice member]
    exact warns
  rw [events, deliver_append, deliver_notes, List.filter_append,
    filter_deliver hushed, ← printed, deliver_losses, kept]

end Events

/-- The diagnostics shown if nobody asks for more log or less, by the exit code. What is said of lost
values comes first, and a fault is told right before the line that names it. -/
inductive DefaultErrors : List Notice → ExitCode → List Diagnostic → Prop where
  | success (lost : List Notice) : DefaultErrors lost .success (lost.map .log)
  | badInput (text : String) : DefaultErrors [] .badInput [.complaint s!"error: {text}"]
  | limit (lost : List Notice) (steps pc : Nat) :
      DefaultErrors lost .limit (lost.map .log ++
        [.complaint s!"error: step limit of {steps} reached before HLT (pc {hex pc})"])
  | fault (lost : List Notice) (address : Nat) (fault : Fault) :
      DefaultErrors lost .fault (lost.map .log ++
        [.log (.faulted address fault), .complaint s!"fault: {fault.message}"])
  | crash (reason : String) :
      DefaultErrors [] .crash [.complaint s!"failed printing to stdout: {reason}"]

theorem DefaultErrors.of_fault {lost : List Notice} {exit : ExitCode}
    {diagnostics : List Diagnostic} (errors : DefaultErrors lost exit diagnostics)
    (faulted : exit.number = 2) :
    ∃ address fault, diagnostics = lost.map .log ++
      [.log (.faulted address fault), .complaint s!"fault: {fault.message}"] := by
  cases errors with
  | fault lost address fault => exact ⟨address, fault, rfl⟩
  | success | badInput | limit | crash => contradiction

theorem default_outcomeAfter (room : Option Room) (path : String) (image : Image) (n : Nat) :
    DefaultErrors (losses room ((Machine.ofImage image).printed n))
      (outcomeAfter room path image n).exit
      ((outcomeAfter room path image n).shown (.ofVerbosity 0)) := by
  have loud := loud_deliver (t := .ofVerbosity 0) rfl rfl
    (rfl : (Machine.ofImage image).status = .running) room n
  have hushed : (Threshold.ofVerbosity 0).admits (Notice.loaded image.length).level = false := rfl
  rw [outcomeAfter, shown_after, List.filter_cons_of_neg (by rw [hushed]; decide), loud,
    List.map_append, List.append_assoc]
  cases status : ((Machine.ofImage image).after n).status with
  | running =>
    simp only [Machine.ending, status]
    exact .limit _ _ _
  | halted =>
    simp only [Machine.ending, status]
    have success := DefaultErrors.success (losses room ((Machine.ofImage image).printed n))
    rw [← List.append_nil (List.map Diagnostic.log _)] at success
    exact success
  | faulted fault =>
    simp only [Machine.ending, status]
    exact .fault _ _ fault

theorem default_describe (room : Option Room) (path : String) (report : Report) :
    DefaultErrors [] (describe room path report).exit
      ((describe room path report).shown (.ofVerbosity 0)) := by
  unfold describe
  simp only
  generalize (Console.ofRoom room).write _ = written
  obtain ⟨console, nothing | reason⟩ := written
  · exact .success []
  · exact .crash reason

end ByteMachine
