import ByteMachine.Host.Session
import ByteMachine.Proofs.Delivery
import ByteMachine.Proofs.Repetition

/-!
Histories: requests served one after another. A history can be cut anywhere, and one of steps alone
is the repetition of steps on the machine, with all that was reported handed to the sink.
-/
namespace ByteMachine

structure History (σ : Type) where
  session : Session σ
  replies : List Reply
  notices : List Notice

namespace Session

variable {σ : Type} [Sink σ]

def serveAll (s : Session σ) : List Request → History σ
  | [] => ⟨s, [], []⟩
  | request :: requests =>
    let served := s.serve request
    let later := served.session.serveAll requests
    ⟨later.session, served.reply :: later.replies, served.notices ++ later.notices⟩

def stepping (s : Session σ) (n : Nat) : History σ := s.serveAll (List.replicate n .step)

theorem serveAll_append (s : Session σ) (first second : List Request) :
    s.serveAll (first ++ second) =
      let before := s.serveAll first
      let later := before.session.serveAll second
      ⟨later.session, before.replies ++ later.replies, before.notices ++ later.notices⟩ := by
  induction first generalizing s with
  | nil => rfl
  | cons request first ih =>
    simp only [List.cons_append, serveAll, ih, List.append_assoc]

theorem stepping_add (s : Session σ) (a b : Nat) :
    (s.stepping (a + b)).session = ((s.stepping a).session.stepping b).session := by
  unfold stepping
  rw [← List.replicate_append_replicate, serveAll_append]

theorem stepping_eq (s : Session σ) (n : Nat) :
    s.stepping n =
      ⟨⟨s.machine.after n, (deliver s.sink (s.machine.stepTimes n).events).1⟩,
        (s.machine.stepTimes n).result.map .status,
        (deliver s.sink (s.machine.stepTimes n).events).2⟩ := by
  unfold stepping
  induction n generalizing s with
  | zero => rfl
  | succ n ih =>
    rw [List.replicate_succ, serveAll, ih, Machine.stepTimes]
    simp only [deliver_append]
    rfl

theorem machine_stepping (s : Session σ) (n : Nat) :
    (s.stepping n).session.machine = s.machine.after n := by
  rw [stepping_eq]

end Session

end ByteMachine
