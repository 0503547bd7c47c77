import ByteMachine.Host.Request
import ByteMachine.Output.Sink

/-!
A session is a machine together with the sink for its output.
-/
namespace ByteMachine

structure Session (σ : Type) where
  machine : Machine
  sink : σ

structure Served (σ : Type) where
  session : Session σ
  reply : Reply
  notices : List Notice

namespace Session

variable {σ : Type} [Sink σ]

def start (image : Image) (sink : σ) : Session σ × List Notice :=
  (⟨.ofImage image, sink⟩, [.loaded image.length])

def serve (s : Session σ) (request : Request) : Served σ :=
  let t := s.machine.serve request
  let (sink, notices) := deliver s.sink t.events
  ⟨⟨t.machine, sink⟩, t.result, notices⟩

omit [Sink σ] in
@[simp] theorem machine_start (image : Image) (sink : σ) :
    (start image sink).1.machine = .ofImage image := rfl

omit [Sink σ] in
@[simp] theorem sink_start (image : Image) (sink : σ) : (start image sink).1.sink = sink := rfl

end Session

end ByteMachine
