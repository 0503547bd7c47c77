import ByteMachine.Execution.Machine
import ByteMachine.Log.Notice

/-!
What comes of running a machine: the machine afterwards, an answer, and in order everything the
machine reported on the way. Values are reported and not written, so no sink can have a say in what
the machine does.
-/
namespace ByteMachine

inductive Event where
  | note (notice : Notice)
  | emit (value : UInt8)
  deriving DecidableEq, Repr

def Event.value? : Event → Option UInt8
  | note _ => none
  | emit value => some value

def Event.notice? : Event → Option Notice
  | note notice => some notice
  | emit _ => none

structure Transition (α : Type) where
  machine : Machine
  result : α
  events : List Event
  deriving DecidableEq, Repr

namespace Transition

def map {α β : Type} (f : α → β) (t : Transition α) : Transition β :=
  ⟨t.machine, f t.result, t.events⟩

def after {α : Type} (past : List Event) (t : Transition α) : Transition α :=
  { t with events := past ++ t.events }

def values {α : Type} (t : Transition α) : List UInt8 := t.events.filterMap Event.value?

def notices {α : Type} (t : Transition α) : List Notice := t.events.filterMap Event.notice?

theorem values_after {α : Type} (past : List Event) (t : Transition α) :
    (t.after past).values = past.filterMap Event.value? ++ t.values := by
  simp [values, after]

end Transition

end ByteMachine
