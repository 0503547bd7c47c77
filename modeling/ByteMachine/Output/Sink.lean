import ByteMachine.Execution.Transition

/-!
Sinks take the values that a machine emits. A sink may speak up about a value it could not take,
but it cannot refuse in a way that the machine would notice.
-/
namespace ByteMachine

class Sink (σ : Type) where
  accept : σ → UInt8 → σ × Option Notice

structure Delivery (σ : Type) where
  sink : σ
  past : List Notice

namespace Delivery

variable {σ : Type} [Sink σ]

def take (d : Delivery σ) : Event → Delivery σ
  | .note notice => ⟨d.sink, notice :: d.past⟩
  | .emit value =>
    let (sink, complaint) := Sink.accept d.sink value
    ⟨sink, complaint.toList ++ d.past⟩

end Delivery

/-- Hands events to a sink in order. The notices of both sides come back in the order in which
they arose. -/
def deliver {σ : Type} [Sink σ] (sink : σ) (events : List Event) : σ × List Notice :=
  let d := events.foldl Delivery.take ⟨sink, []⟩
  (d.sink, d.past.reverse)

namespace Delivery

variable {σ : Type} [Sink σ]

theorem foldl_take (events : List Event) (sink : σ) (past : List Notice) :
    events.foldl take ⟨sink, past⟩ =
      ⟨(deliver sink events).1, (deliver sink events).2.reverse ++ past⟩ := by
  induction events generalizing sink past with
  | nil => simp [deliver]
  | cons event events ih =>
    simp only [deliver, List.foldl_cons]
    rw [ih, ih (take ⟨sink, []⟩ event).sink]
    cases event <;> simp [take]

end Delivery

theorem deliver_nil {σ : Type} [Sink σ] (sink : σ) : deliver sink [] = (sink, []) := rfl

theorem deliver_note {σ : Type} [Sink σ] (sink : σ) (notice : Notice) (events : List Event) :
    deliver sink (.note notice :: events) =
      ((deliver sink events).1, notice :: (deliver sink events).2) := by
  conv => lhs; simp only [deliver, List.foldl_cons, Delivery.take]
  rw [Delivery.foldl_take]
  simp

theorem deliver_emit {σ : Type} [Sink σ] (sink : σ) (value : UInt8) (events : List Event) :
    deliver sink (.emit value :: events) =
      ((deliver (Sink.accept sink value).1 events).1,
        (Sink.accept sink value).2.toList ++ (deliver (Sink.accept sink value).1 events).2) := by
  conv => lhs; simp only [deliver, List.foldl_cons, Delivery.take]
  rw [Delivery.foldl_take]
  cases (Sink.accept sink value).2 <;> simp

structure Collector where
  values : Array UInt8
  deriving DecidableEq, Repr

namespace Collector

def empty : Collector := ⟨#[]⟩

instance : Sink Collector where
  accept collector value := (⟨collector.values.push value⟩, none)

end Collector

end ByteMachine
