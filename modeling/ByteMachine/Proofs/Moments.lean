import ByteMachine.Proofs.Requests

/-!
The moments of a history: the machine as it stood before every step that was made in it. What is
true of a history as a whole is found from the moments, by what one step does to it and what the
requests do that make no step.
-/
namespace ByteMachine

namespace Machine

def moments (m : Machine) (n : Nat) : List Machine := (List.range n).map m.after

theorem moments_succ_last (m : Machine) (n : Nat) :
    m.moments (n + 1) = m.moments n ++ [m.after n] := by
  rw [moments, List.range_succ, List.map_append]
  rfl

theorem notices_stepTimes (m : Machine) (n : Nat) :
    (m.stepTimes n).notices = (m.moments n).flatMap fun now => now.step.notices := by
  induction n with
  | zero => rfl
  | succ n ih =>
    have last : ((m.after n).stepTimes 1).events = (m.after n).step.events := List.append_nil _
    rw [moments_succ_last, List.flatMap_append, ← ih, stepTimes_add]
    simp [Transition.notices, last]

/-- A law between the steps made so far and the machine holds as long as steps are made if every
step keeps it. -/
theorem moments_induction {P : List Machine → Machine → Prop} {past : List Machine} {m : Machine}
    (start : P past m) (step : ∀ past m, P past m → P (past ++ [m]) m.step.machine) (n : Nat) :
    P (past ++ m.moments n) (m.after n) := by
  induction n with
  | zero => exact (List.append_nil past).symm ▸ start
  | succ n ih =>
    rw [moments_succ_last, ← List.append_assoc, after_succ_last]
    exact step _ _ ih

end Machine

namespace Session

variable {σ : Type} [Sink σ] {s : Session σ}

def moments (s : Session σ) : List Request → List Machine
  | [] => []
  | request :: requests =>
    s.machine.moments (s.machine.attempts request) ++ (s.serve request).session.moments requests

theorem serveAll_moments_induction {P : List Machine → Machine → Prop} {past : List Machine}
    (start : P past s.machine) (step : ∀ past m, P past m → P (past ++ [m]) m.step.machine)
    (access : ∀ past m m', P past m → Machine.SameCourse m m' → P past m')
    (requests : List Request) :
    P (past ++ s.moments requests) (s.serveAll requests).session.machine := by
  induction requests generalizing s past with
  | nil => exact (List.append_nil past).symm ▸ start
  | cons request requests ih =>
    have first : P (past ++ s.machine.moments (s.machine.attempts request))
        (s.serve request).session.machine := by
      change P _ (s.machine.serve request).machine
      by_cases advances : request.Advances
      · rw [(Machine.serve_of_advances advances).1]
        exact Machine.moments_induction start step _
      · rw [Machine.attempts_of_access advances]
        exact access _ _ _ ((List.append_nil past).symm ▸ start)
          (Machine.sameCourse_of_access advances)
    rw [moments, ← List.append_assoc]
    exact ih first

theorem notices_serve (quiet : Quiet s.sink) (request : Request) :
    (s.serve request).notices =
      (s.machine.moments (s.machine.attempts request)).flatMap fun m => m.step.notices := by
  change (deliver s.sink (s.machine.serve request).events).2 = _
  rw [(quiet.delivery _).2]
  by_cases advances : request.Advances
  · rw [(Machine.serve_of_advances advances).2]
    exact Machine.notices_stepTimes _ _
  · rw [Machine.events_of_access advances, Machine.attempts_of_access advances]
    rfl

theorem notices_serveAll (quiet : Quiet s.sink) (requests : List Request) :
    (s.serveAll requests).notices = (s.moments requests).flatMap fun m => m.step.notices := by
  induction requests generalizing s with
  | nil => rfl
  | cons request requests ih =>
    have still : Quiet (s.serve request).session.sink := (quiet.delivery _).1
    rw [serveAll, moments, List.flatMap_append, ← ih still, ← notices_serve quiet]

theorem notices_serveAll_of_stopped (stopped : s.machine.status ≠ .running)
    (requests : List Request) : (s.serveAll requests).notices = [] := by
  induction requests generalizing s with
  | nil => rfl
  | cons request requests ih =>
    obtain ⟨same, silent⟩ := Machine.serve_of_stopped stopped request
    have first : (s.serve request).notices = [] := by
      change (deliver s.sink (s.machine.serve request).events).2 = []
      rw [silent]
      rfl
    have still : (s.serve request).session.machine.status ≠ .running := by
      change (s.machine.serve request).machine.status ≠ .running
      rw [same.status]
      exact stopped
    rw [serveAll, first, ih still]
    rfl

end Session

end ByteMachine
