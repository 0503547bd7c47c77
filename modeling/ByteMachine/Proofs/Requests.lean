import ByteMachine.Proofs.Running
import ByteMachine.Proofs.Trace

/-!
What a request does to a machine. A request that lets the machine go on comes to a number of steps;
every other request leaves the course of the machine alone and reports nothing.
-/
namespace ByteMachine

def Request.Advances : Request → Prop
  | step | run | runFor _ => True
  | _ => False

def Reply.Refused : Reply → Prop
  | status (.error _) | done (.error _) | byte (.error _) => True
  | _ => False

namespace Machine

variable {m : Machine} {request : Request}

/-- The steps that a request comes to. A run that would not end makes none. -/
def attempts (m : Machine) : Request → Nat
  | .step => 1
  | .runFor budget => budget
  | .run => if m.run.isSome then configurations else 0
  | _ => 0

structure SameCourse (m m' : Machine) : Prop where
  counter : m'.pc = m.pc
  flags : m'.flags = m.flags
  status : m'.status = m.status
  steps : m'.steps = m.steps

theorem SameCourse.refl (m : Machine) : SameCourse m m := ⟨rfl, rfl, rfl, rfl⟩

theorem SameCourse.trans {m₁ m₂ m₃ : Machine} (first : SameCourse m₁ m₂)
    (second : SameCourse m₂ m₃) : SameCourse m₁ m₃ where
  counter := second.counter.trans first.counter
  flags := second.flags.trans first.flags
  status := second.status.trans first.status
  steps := second.steps.trans first.steps

theorem serve_of_advances (advances : request.Advances) :
    (m.serve request).machine = m.after (m.attempts request) ∧
      (m.serve request).events = (m.stepTimes (m.attempts request)).events := by
  cases request with
  | step => exact ⟨rfl, (List.append_nil _).symm⟩
  | runFor budget => exact ⟨runFor_machine m budget, runFor_events m budget⟩
  | run =>
    by_cases running : (m.after configurations).status = .running
    · have endless := run_of_running (running_forever running)
      have unattempted : m.attempts .run = 0 := by
        simp only [attempts, endless, Option.isSome_none, Bool.false_eq_true, if_false]
      rw [serve_run_of_none endless, unattempted]
      exact ⟨rfl, rfl⟩
    · have ends := run_of_stopped running
      have all : m.attempts .run = configurations := by
        simp only [attempts, ends, Option.isSome_some, if_true]
      rw [serve_run_of_some ends, all]
      simp only [Transition.map, and_self]
  | readRegister | writeRegister | readMemory | writeMemory | dump => exact advances.elim

theorem attempts_of_access (access : ¬ request.Advances) : m.attempts request = 0 := by
  cases request with
  | step | run | runFor => exact absurd trivial access
  | _ => rfl

theorem sameCourse_change {update : Except Fault Machine}
    (same : ∀ m', update = .ok m' → SameCourse m m') : SameCourse m (m.change update).machine := by
  cases update with
  | ok m' => exact same m' rfl
  | error fault => exact .refl m

theorem events_change (m : Machine) (update : Except Fault Machine) :
    (m.change update).events = [] := by
  cases update <;> rfl

theorem change_of_refused {update : Except Fault Machine}
    (refused : (m.change update).result.Refused) : (m.change update).machine = m := by
  cases update with
  | ok m' => exact refused.elim
  | error fault => rfl

theorem sameCourse_of_access (access : ¬ request.Advances) :
    SameCourse m (m.serve request).machine := by
  cases request with
  | step | run | runFor => exact absurd trivial access
  | readRegister | readMemory | dump => exact .refl m
  | writeRegister index value =>
    refine sameCourse_change fun m' written => ?_
    cases found : m.registers.write index value with
    | error fault => simp [found, Except.map] at written
    | ok registers =>
      rw [found] at written
      obtain rfl := Except.ok.inj written
      exact ⟨rfl, rfl, rfl, rfl⟩
  | writeMemory address value =>
    refine sameCourse_change fun m' written => ?_
    cases found : m.memory.write address value with
    | error fault => simp [found, Except.map] at written
    | ok memory =>
      rw [found] at written
      obtain rfl := Except.ok.inj written
      exact ⟨rfl, rfl, rfl, rfl⟩

theorem events_of_access (access : ¬ request.Advances) : (m.serve request).events = [] := by
  cases request with
  | step | run | runFor => exact absurd trivial access
  | readRegister | readMemory | dump => rfl
  | writeRegister | writeMemory => exact events_change m _

theorem serve_of_refused (access : ¬ request.Advances)
    (refused : (m.serve request).result.Refused) : (m.serve request).machine = m := by
  cases request with
  | step | run | runFor => exact absurd trivial access
  | readRegister | readMemory | dump => rfl
  | writeRegister | writeMemory => exact change_of_refused refused

theorem serve_of_stopped (stopped : m.status ≠ .running) (request : Request) :
    SameCourse m (m.serve request).machine ∧ (m.serve request).events = [] := by
  by_cases advances : request.Advances
  · obtain ⟨machine, events⟩ := serve_of_advances (m := m) advances
    rw [machine, events, after_of_stopped stopped, stepTimes_of_stopped stopped]
    exact ⟨.refl m, rfl⟩
  · exact ⟨sameCourse_of_access advances, events_of_access advances⟩

end Machine

namespace Session

variable {σ : Type} [Sink σ] {s : Session σ}

def carriedOut (s : Session σ) : List Request → List Instruction
  | [] => []
  | request :: requests =>
    s.machine.trace (s.machine.attempts request) ++ (s.serve request).session.carriedOut requests

theorem serveAll_induction {P : Machine → Prop} (requests : List Request) (start : P s.machine)
    (kept : ∀ m, P m → ∀ request : Request, P (m.serve request).machine) :
    P (s.serveAll requests).session.machine := by
  induction requests generalizing s with
  | nil => exact start
  | cons request requests ih => exact ih (kept s.machine start request)

theorem steps_serveAll (s : Session σ) (requests : List Request) :
    (s.serveAll requests).session.machine.steps =
      s.machine.steps + (s.carriedOut requests).length := by
  induction requests generalizing s with
  | nil => rfl
  | cons request requests ih =>
    have first : (s.serve request).session.machine.steps =
        s.machine.steps + (s.machine.trace (s.machine.attempts request)).length := by
      change (s.machine.serve request).machine.steps = _
      by_cases advances : request.Advances
      · rw [(Machine.serve_of_advances advances).1, Machine.steps_after]
      · rw [(Machine.sameCourse_of_access advances).steps, Machine.attempts_of_access advances]
        rfl
    rw [serveAll, ih, first, carriedOut, List.length_append, Nat.add_assoc]

theorem serveAll_of_stopped (stopped : s.machine.status ≠ .running) (requests : List Request) :
    Machine.SameCourse s.machine (s.serveAll requests).session.machine ∧
      (s.serveAll requests).session.sink = s.sink := by
  induction requests generalizing s with
  | nil => exact ⟨.refl _, rfl⟩
  | cons request requests ih =>
    obtain ⟨same, silent⟩ := Machine.serve_of_stopped stopped request
    have sink : (s.serve request).session.sink = s.sink := by
      change (deliver s.sink (s.machine.serve request).events).1 = s.sink
      rw [silent]
      rfl
    have still : (s.serve request).session.machine.status ≠ .running := by
      rw [← same.status] at stopped
      exact stopped
    obtain ⟨later, taken⟩ := ih still
    exact ⟨same.trans later, taken.trans sink⟩

end Session

end ByteMachine
