import ByteMachine.Proofs.History
import ByteMachine.Proofs.Recurrence

/-!
The three ways to run a machine. A budget is so many single steps, two budgets are their sum, and a
run without a budget ends exactly if some number of steps stops the machine.
-/
namespace ByteMachine

namespace Machine

variable {m : Machine}

theorem runFor_result {n : Nat} (positive : 0 < n) :
    (m.runFor n).result = (m.after n).status.answer := by
  obtain ⟨n, rfl⟩ := Nat.exists_eq_add_one_of_ne_zero (Nat.ne_of_gt positive)
  rw [runFor_eq_stepTimes]

theorem runFor_of_running {n : Nat} (running : (m.after n).status = .running) :
    (m.runFor n).result = .ok .running ∧ (m.runFor n).machine.steps = m.steps + n := by
  constructor
  · cases n with
    | zero => exact congrArg Except.ok running
    | succ n =>
      rw [runFor_result (Nat.succ_pos n), running]
      rfl
  · rw [runFor_machine]
    exact steps_of_running running

theorem stopped_alike {a b : Nat} (first : (m.after a).status ≠ .running)
    (second : (m.after b).status ≠ .running) :
    m.after a = m.after b ∧ (m.stepTimes a).events = (m.stepTimes b).events := by
  rcases Nat.le_total a b with later | later
  · have same := stays_stopped first later
    exact ⟨same.1.symm, same.2.symm⟩
  · exact stays_stopped second later

theorem stopped_within {k : Nat} (stopped : (m.after k).status ≠ .running) :
    (m.after configurations).status ≠ .running := by
  intro running
  exact stopped (running_forever running k)

theorem run_of_running (running : ∀ k, (m.after k).status = .running) : m.run = none := by
  unfold run
  simp only [runFor_machine, running configurations]

theorem run_of_stopped {k : Nat} (stopped : (m.after k).status ≠ .running) :
    m.run = some ⟨m.after k, (m.after k).status.answer.map fun _ => (),
      (m.stepTimes k).events⟩ := by
  obtain ⟨machine, events⟩ := stopped_alike (stopped_within stopped) stopped
  unfold run
  simp only [Transition.map, runFor_machine, runFor_events, machine, events]
  cases status : (m.after k).status with
  | running => contradiction
  | halted => rfl
  | faulted fault => rfl

theorem serve_run_of_some {t : Transition (Except Fault Unit)} (ends : m.run = some t) :
    m.serve .run = t.map .done := by
  unfold serve
  rw [ends]

theorem serve_run_of_none (endless : m.run = none) : m.serve .run = ⟨m, .endless, []⟩ := by
  unfold serve
  rw [endless]

end Machine

namespace Session

variable {σ : Type} [Sink σ] (s : Session σ)

theorem serve_runFor (n : Nat) :
    s.serve (.runFor n) =
      ⟨(s.stepping n).session, .status (s.machine.runFor n).result, (s.stepping n).notices⟩ := by
  rw [stepping_eq, ← Machine.runFor_machine, ← Machine.runFor_events]
  rfl

theorem reply_runFor {n : Nat} (positive : 0 < n) :
    (s.serve (.runFor n)).reply = .status (s.stepping n).session.machine.status.answer := by
  rw [serve_runFor, Machine.runFor_result positive, machine_stepping]

theorem serve_runFor_add (a b : Nat) :
    ((s.serve (.runFor a)).session.serve (.runFor b)).session =
      (s.serve (.runFor (a + b))).session := by
  rw [serve_runFor, serve_runFor, serve_runFor, stepping_add]

theorem reply_runFor_add (a : Nat) {b : Nat} (positive : 0 < b) :
    ((s.serve (.runFor a)).session.serve (.runFor b)).reply =
      (s.serve (.runFor (a + b))).reply := by
  rw [reply_runFor _ positive, reply_runFor _ (Nat.add_pos_right a positive), serve_runFor, stepping_add]

variable {s}

theorem serve_run_of_stopped {k : Nat}
    (stopped : (s.stepping k).session.machine.status ≠ .running) :
    s.serve .run =
      ⟨(s.stepping k).session,
        .done ((s.stepping k).session.machine.status.answer.map fun _ => ()),
        (s.stepping k).notices⟩ := by
  rw [machine_stepping] at stopped ⊢
  have ends := Machine.serve_run_of_some (Machine.run_of_stopped stopped)
  simp only [serve, ends, stepping_eq, Transition.map]

theorem serve_run_of_running (running : ∀ k, (s.stepping k).session.machine.status = .running) :
    (s.serve .run).reply = .endless := by
  simp only [machine_stepping] at running
  have endless := Machine.serve_run_of_none (Machine.run_of_running running)
  simp only [serve, endless]

theorem run_returns_iff_stops :
    (s.serve .run).reply ≠ .endless ↔
      ∃ k, (s.stepping k).session.machine.status ≠ .running := by
  constructor
  · intro returns
    by_contra never
    push Not at never
    exact returns (serve_run_of_running never)
  · rintro ⟨k, stopped⟩
    rw [serve_run_of_stopped stopped]
    nofun

structure RunsAsSteps (s : Session σ) : Prop where
  session : ∀ n, (s.serve (.runFor n)).session = (s.stepping n).session
  notices : ∀ n, (s.serve (.runFor n)).notices = (s.stepping n).notices
  reply : ∀ n, 0 < n →
    (s.serve (.runFor n)).reply = .status (s.stepping n).session.machine.status.answer
  idle : s.serve (.runFor 0) = ⟨s, .status (.ok s.machine.status), []⟩
  split : ∀ a b, ((s.serve (.runFor a)).session.serve (.runFor b)).session =
    (s.serve (.runFor (a + b))).session
  split_reply : ∀ a b, 0 < b → ((s.serve (.runFor a)).session.serve (.runFor b)).reply =
    (s.serve (.runFor (a + b))).reply
  counted : ∀ n, s.machine.steps ≤ (s.serve (.runFor n)).session.machine.steps ∧
    (s.serve (.runFor n)).session.machine.steps ≤ s.machine.steps + n
  going : ∀ n, (s.serve (.runFor n)).session.machine.status = .running →
    s.machine.status = .running ∧
      (s.serve (.runFor n)).session.machine.steps = s.machine.steps + n
  failing : ∀ n fault, s.machine.status = .running →
    (s.serve (.runFor n)).session.machine.status = .faulted fault →
      (s.serve (.runFor n)).session.machine.steps < s.machine.steps + n
  returns : (s.serve .run).reply ≠ .endless ↔
    ∃ k, (s.stepping k).session.machine.status ≠ .running
  ended : ∀ k, (s.stepping k).session.machine.status ≠ .running →
    (s.serve .run).session = (s.stepping k).session ∧
      (s.serve .run).notices = (s.stepping k).notices
  halted : ∀ k, (s.stepping k).session.machine.status = .halted →
    (s.serve .run).reply = .done (.ok ())
  faulted : ∀ k fault, (s.stepping k).session.machine.status = .faulted fault →
    (s.serve .run).reply = .done (.error fault)

theorem runs_as_steps (s : Session σ) : RunsAsSteps s := by
  have machine (n : Nat) : (s.serve (.runFor n)).session.machine = s.machine.after n := by
    rw [serve_runFor, machine_stepping]
  constructor
  case session =>
    intro n
    rw [serve_runFor]
  case notices =>
    intro n
    rw [serve_runFor]
  case reply => exact fun n positive => s.reply_runFor positive
  case idle => rfl
  case split => exact s.serve_runFor_add
  case split_reply => exact fun a b positive => s.reply_runFor_add a positive
  case counted =>
    intro n
    rw [machine]
    exact Machine.steps_after_le s.machine n
  case going =>
    intro n running
    rw [machine] at running ⊢
    exact ⟨Machine.was_running running (Nat.zero_le n), Machine.steps_of_running running⟩
  case failing =>
    intro n fault running faulted
    rw [machine] at faulted ⊢
    exact Machine.steps_of_faulted running faulted
  case returns => exact run_returns_iff_stops
  case ended =>
    intro k stopped
    rw [serve_run_of_stopped stopped]
    exact ⟨rfl, rfl⟩
  case halted =>
    intro k halted
    have stopped : (s.stepping k).session.machine.status ≠ .running := by
      rw [halted]
      nofun
    rw [serve_run_of_stopped stopped, halted]
    rfl
  case faulted =>
    intro k fault faulted
    have stopped : (s.stepping k).session.machine.status ≠ .running := by
      rw [faulted]
      nofun
    rw [serve_run_of_stopped stopped, faulted]
    rfl

end Session

end ByteMachine
