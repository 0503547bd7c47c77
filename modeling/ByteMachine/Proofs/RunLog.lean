import ByteMachine.Proofs.Moments

/-!
What the log says of a run. Every instruction that was fetched and decoded has a trace line, written
before anything comes of it. A line on a halt or a fault follows at most once; it is the last one,
and it tells the counter, the steps and the fault that the machine is left with.
-/
namespace ByteMachine

structure LogLine where
  level : Level
  text : String
  deriving DecidableEq, Repr

def linesFrom (source : String) (notices : List Notice) : List LogLine :=
  (notices.filter (·.source = source)).map fun notice => ⟨notice.level, notice.message⟩

theorem linesFrom_append (source : String) (first second : List Notice) :
    linesFrom source (first ++ second) = linesFrom source first ++ linesFrom source second := by
  rw [linesFrom, List.filter_append, List.map_append]
  rfl

theorem linesFrom_flatMap {α : Type} (source : String) (f : α → List Notice) (xs : List α) :
    linesFrom source (xs.flatMap f) = xs.flatMap fun x => linesFrom source (f x) := by
  induction xs with
  | nil => rfl
  | cons x xs ih => rw [List.flatMap_cons, linesFrom_append, ih, List.flatMap_cons]

namespace Machine

def aftermath (m : Machine) (i : Instruction) : List LogLine :=
  match m.step.result with
  | .error fault => [⟨.warn, s!"faulted at pc {hex m.pc}: {fault.message}"⟩]
  | .ok _ =>
    if i.opcode = .hlt then [⟨.debug, s!"halted at pc {hex m.pc} after {m.steps + 1} steps"⟩]
    else []

def account (m : Machine) : List LogLine :=
  match m.status, Instruction.decode m.rest with
  | .running, .ok i => ⟨.trace, s!"{hex m.pc}: {i.text}"⟩ :: m.aftermath i
  | .running, .error e => [⟨.warn, s!"faulted at pc {hex m.pc}: {(m.fetchFault e).message}"⟩]
  | _, _ => []

def closing (m : Machine) : List LogLine :=
  match m.status with
  | .running => []
  | .halted => [⟨.debug, s!"halted at pc {hex m.pc} after {m.steps} steps"⟩]
  | .faulted fault => [⟨.warn, s!"faulted at pc {hex m.pc}: {fault.message}"⟩]

def refused? (m : Machine) : Option Fault :=
  match m.status, Instruction.decode m.rest, m.step.result with
  | .running, .ok _, .error fault => some fault
  | _, _, _ => none

def ending (m : Machine) : List Notice :=
  match m.status with
  | .running => []
  | .halted => [.halted m.pc m.steps]
  | .faulted fault => [.faulted m.pc fault]

variable {m : Machine}

inductive Telling (m : Machine) (notices : List Notice) : Prop where
  | lost (e : DecodeError) (undecoded : Instruction.decode m.rest = .error e)
      (failed : m.step.result = .error (m.fetchFault e))
      (told : notices = [.faulted m.pc (m.fetchFault e)])
  | refused (i : Instruction) (fault : Fault) (decoded : Instruction.decode m.rest = .ok i)
      (failed : m.step.result = .error fault)
      (told : notices = [.executing m.pc i, .faulted m.pc fault])
  | done (i : Instruction) (executes : m.Executes i)
      (told : notices =
        .executing m.pc i :: if i.opcode = .hlt then [.halted m.pc (m.steps + 1)] else [])

theorem notices_report {i : Instruction} {action : Action} (resolves : Resolves m.pc i action) :
    (m.report action).filterMap Event.notice? =
      if i.opcode = .hlt then [.halted m.pc (m.steps + 1)] else [] := by
  cases resolves <;> rfl

theorem telling_step (running : m.status = .running) : Telling m m.step.notices := by
  have way := stepping_step running
  generalize stepped : m.step = t at way
  cases way with
  | lost fetched =>
    obtain ⟨e, undecoded, rfl⟩ := fetch_eq_error_iff.mp fetched
    exact .lost e undecoded (stepped ▸ rfl) rfl
  | @refused i fault fetched resolved =>
    exact .refused i fault (fetch_eq_ok_iff.mp fetched) (stepped ▸ rfl) rfl
  | @done i action performs =>
    refine .done i (executes_iff_performs.mpr ⟨action, performs⟩) ?_
    rw [← notices_report (Instruction.resolves_of_resolve performs.resolved)]
    rfl

theorem linesFrom_step (m : Machine) :
    linesFrom "ls8_vm::execute" m.step.notices = m.account := by
  by_cases running : m.status = .running
  · cases telling_step running with
    | lost e undecoded failed told =>
      rw [told]
      simp only [account, running, undecoded]
      rfl
    | refused i fault decoded failed told =>
      rw [told]
      simp only [account, running, decoded, aftermath, failed]
      rfl
    | done i executes told =>
      rw [told]
      simp only [account, running, executes.decoded, aftermath, executes.result_eq]
      split <;> rfl
  · rw [step_of_stopped running]
    cases status : m.status with
    | running => contradiction
    | halted | faulted => simp only [account, status]; rfl

theorem ending_of_failing {fault : Fault} (running : m.status = .running)
    (failed : m.step.result = .error fault) : m.step.machine.ending = [.faulted m.pc fault] := by
  rw [(step_of_error running failed).1]
  rfl

theorem Executes.ending_eq {i : Instruction} (executes : m.Executes i) :
    m.step.machine.ending = if i.opcode = .hlt then [.halted m.pc (m.steps + 1)] else [] := by
  have obeys := executes.obeys
  simp only [ending, obeys.status, statusAfter]
  by_cases hlt : i.opcode = .hlt
  · rw [obeys.counter, obeys.steps]
    simp only [hlt, counterAfter, if_true]
  · simp only [hlt, if_false]

/-- Trace notices, and then what the machine says that has stopped. -/
def Closes (notices : List Notice) (now : Machine) : Prop :=
  ∃ traces, (∀ notice ∈ traces, notice.level = .trace) ∧ notices = traces ++ now.ending

theorem Closes.step {notices : List Notice} (closes : Closes notices m) :
    Closes (notices ++ m.step.notices) m.step.machine := by
  obtain ⟨traces, traced, rfl⟩ := closes
  by_cases running : m.status = .running
  · have nothing : m.ending = [] := by simp only [ending, running]
    have longer (i : Instruction) :
        ∀ notice ∈ traces ++ [.executing m.pc i], notice.level = .trace := by
      intro notice member
      rw [List.mem_append, List.mem_singleton] at member
      obtain early | rfl := member
      · exact traced notice early
      · rfl
    rw [nothing, List.append_nil]
    cases telling_step running with
    | lost e undecoded failed told =>
      exact ⟨traces, traced, by rw [told, ending_of_failing running failed]⟩
    | refused i fault decoded failed told =>
      refine ⟨traces ++ [.executing m.pc i], longer i, ?_⟩
      rw [told, ending_of_failing running failed, List.append_assoc]
      rfl
    | done i executes told =>
      refine ⟨traces ++ [.executing m.pc i], longer i, ?_⟩
      rw [told, executes.ending_eq, List.append_assoc]
      rfl
  · rw [step_of_stopped running]
    exact ⟨traces, traced, List.append_nil _⟩

theorem Closes.of_sameCourse {notices : List Notice} {m' : Machine} (closes : Closes notices m)
    (same : SameCourse m m') : Closes notices m' := by
  have ending_eq : m'.ending = m.ending := by
    simp only [ending, same.status, same.counter, same.steps]
  rw [Closes, ending_eq]
  exact closes

theorem traced_step (m : Machine) :
    m.steps + m.account.countP (·.level = .trace) =
      m.step.machine.steps + m.refused?.toList.length := by
  rw [← linesFrom_step]
  by_cases running : m.status = .running
  · cases telling_step running with
    | lost e undecoded failed told =>
      rw [told, (step_of_error running failed).1]
      simp only [refused?, running, undecoded]
      rfl
    | refused i fault decoded failed told =>
      rw [told, (step_of_error running failed).1]
      simp only [refused?, running, decoded, failed]
      rfl
    | done i executes told =>
      rw [told, executes.obeys.steps]
      simp only [refused?, running, executes.decoded, executes.result_eq]
      split <;> rfl
  · rw [step_of_stopped running]
    cases status : m.status with
    | running => contradiction
    | halted | faulted => simp only [refused?, status]; rfl

theorem refused?_eq_some_iff {fault : Fault} :
    m.refused? = some fault ↔
      m.status = .running ∧ (∃ i, Instruction.decode m.rest = .ok i) ∧
        m.step.result = .error fault := by
  constructor
  · intro found
    unfold refused? at found
    split at found
    · rename_i running decoded failed
      obtain rfl := Option.some.inj found
      exact ⟨running, ⟨_, decoded⟩, failed⟩
    · contradiction
  · rintro ⟨running, ⟨i, decoded⟩, failed⟩
    simp only [refused?, running, decoded, failed]

structure Accounted (past : List Machine) (now : Machine) : Prop where
  closes : Closes (past.flatMap fun m => m.step.notices) now
  traced : (past.flatMap account).countP (·.level = .trace) =
    now.steps + (past.filterMap refused?).length
  refused : past.filterMap refused? = [] ∨
    ∃ fault, past.filterMap refused? = [fault] ∧ now.status = .faulted fault

variable {past : List Machine}

theorem Accounted.fresh (image : Image) : Accounted [] (.ofImage image) :=
  ⟨⟨[], nofun, rfl⟩, rfl, .inl rfl⟩

theorem Accounted.step (accounted : Accounted past m) :
    Accounted (past ++ [m]) m.step.machine := by
  constructor
  case closes =>
    rw [List.flatMap_append, List.flatMap_singleton]
    exact accounted.closes.step
  case traced =>
    have before := accounted.traced
    have now := traced_step m
    have more : ([m].filterMap refused?).length = m.refused?.toList.length := by
      cases found : m.refused? <;> simp [found]
    rw [List.flatMap_append, List.flatMap_singleton, List.countP_append, List.filterMap_append,
      List.length_append, more]
    omega
  case refused =>
    rw [List.filterMap_append]
    cases found : m.refused? with
    | none =>
      rw [List.filterMap_cons_none found, List.filterMap_nil, List.append_nil]
      obtain unrefused | ⟨fault, one, faulted⟩ := accounted.refused
      · exact .inl unrefused
      · have stopped : m.status ≠ .running := by
          rw [faulted]
          nofun
        rw [step_of_stopped stopped]
        exact .inr ⟨fault, one, faulted⟩
    | some fault =>
      obtain ⟨running, -, failed⟩ := refused?_eq_some_iff.mp found
      rw [List.filterMap_cons_some found, List.filterMap_nil]
      obtain unrefused | ⟨other, -, faulted⟩ := accounted.refused
      · rw [unrefused, (step_of_error running failed).1]
        exact .inr ⟨fault, rfl, rfl⟩
      · rw [running] at faulted
        contradiction

theorem Accounted.of_sameCourse {m' : Machine} (accounted : Accounted past m)
    (same : SameCourse m m') : Accounted past m' := by
  refine ⟨accounted.closes.of_sameCourse same, ?_, ?_⟩
  · rw [same.steps]
    exact accounted.traced
  · rw [same.status]
    exact accounted.refused

theorem linesFrom_ending (m : Machine) : linesFrom "ls8_vm::execute" m.ending = m.closing := by
  unfold ending closing
  split <;> rfl

theorem Closes.lines {notices : List Notice} (closes : Closes notices m) :
    ∃ traces, (∀ line ∈ traces, line.level = .trace) ∧
      linesFrom "ls8_vm::execute" notices = traces ++ m.closing := by
  obtain ⟨traces, traced, rfl⟩ := closes
  refine ⟨linesFrom "ls8_vm::execute" traces, fun line member => ?_, ?_⟩
  · obtain ⟨notice, kept, rfl⟩ := List.mem_map.mp member
    exact traced notice (List.mem_of_mem_filter kept)
  · rw [linesFrom_append, linesFrom_ending]

end Machine

namespace Session

variable {σ : Type} [Sink σ] {sink : σ}

structure LogTells (moments : List Machine) (now : Machine) (lines : List LogLine) : Prop where
  told : lines = moments.flatMap Machine.account
  traced : lines.countP (·.level = .trace) =
    now.steps + (moments.filterMap Machine.refused?).length
  refused : moments.filterMap Machine.refused? = [] ∨
    ∃ fault, moments.filterMap Machine.refused? = [fault] ∧ now.status = .faulted fault
  closes : ∃ traces, (∀ line ∈ traces, line.level = .trace) ∧ lines = traces ++ now.closing

/-- On a sink that says nothing itself, the log of a fresh machine has the trace line of every
decoded instruction as it was when its turn came, then at most one line on the halt or the fault,
and nothing after that. -/
theorem log_tells_run (quiet : Quiet sink) (image : Image) (requests : List Request) :
    let begun := start image sink
    let history := begun.1.serveAll requests
    LogTells (begun.1.moments requests) history.session.machine
        (linesFrom "ls8_vm::execute" (begun.2 ++ history.notices)) ∧
      (history.session.machine.status ≠ .running →
        ∀ later, (history.session.serveAll later).notices = []) := by
  intro begun history
  have fresh : Machine.Accounted [] begun.1.machine := .fresh image
  have accounted : Machine.Accounted (begun.1.moments requests) history.session.machine :=
    serveAll_moments_induction fresh (fun _ _ accounted => accounted.step)
      (fun _ _ _ accounted same => accounted.of_sameCourse same) requests
  have loading : linesFrom "ls8_vm::execute" begun.2 = [] := rfl
  have notices : history.notices =
      (begun.1.moments requests).flatMap fun m => m.step.notices := notices_serveAll quiet requests
  have told : linesFrom "ls8_vm::execute" (begun.2 ++ history.notices) =
      (begun.1.moments requests).flatMap Machine.account := by
    rw [linesFrom_append, loading, List.nil_append, notices, linesFrom_flatMap]
    simp only [Machine.linesFrom_step]
  constructor
  · constructor
    case told => exact told
    case traced =>
      rw [told]
      exact accounted.traced
    case refused => exact accounted.refused
    case closes =>
      rw [linesFrom_append, loading, List.nil_append, notices]
      exact accounted.closes.lines
  · intro stopped later
    exact notices_serveAll_of_stopped stopped later

def misprinting : Image := ⟨[0x47, 0, 0x47, 9], by decide⟩

def misprinted : History Collector :=
  (start misprinting Collector.empty).1.serveAll [.step, .runFor 2]

theorem misprinting_log :
    let lines := linesFrom "ls8_vm::execute"
      ((start misprinting Collector.empty).2 ++ misprinted.notices)
    Quiet Collector.empty ∧
      lines = [⟨.trace, "0x00: PRN R0"⟩, ⟨.trace, "0x02: PRN R9"⟩,
        ⟨.warn, "faulted at pc 0x02: register index 9 out of range during read"⟩] ∧
      lines.countP (·.level = .trace) = misprinted.session.machine.steps + 1 ∧
      (misprinted.session.serveAll [.run, .step]).notices = [] := by
  have quiet := quiet_collector .empty
  have ⟨tells, silent⟩ := log_tells_run quiet misprinting [.step, .runFor 2]
  rw [← misprinted] at tells silent
  have stopped : misprinted.session.machine.status ≠ .running := by decide +kernel
  have refused : ((start misprinting Collector.empty).1.moments [.step, .runFor 2]).filterMap
      Machine.refused? = [.registerOutOfRange 9 .read] := by decide +kernel
  have traced := tells.traced
  rw [refused, List.length_singleton] at traced
  have told : ((start misprinting Collector.empty).1.moments [.step, .runFor 2]).flatMap
      Machine.account = [⟨.trace, "0x00: PRN R0"⟩, ⟨.trace, "0x02: PRN R9"⟩,
        ⟨.warn, "faulted at pc 0x02: register index 9 out of range during read"⟩] := by
    decide +kernel
  exact ⟨quiet, tells.told.trans told, traced, silent stopped [.run, .step]⟩

end Session

end ByteMachine
