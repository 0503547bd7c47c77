import ByteMachine.Output.Sink

/-!
What a sink is left with. Events reach a sink in order, so a delivery can be cut anywhere, and the
sink depends on nothing but the values among the events. If the sink never complains, what is heard
of a delivery are the notices among the events.
-/
namespace ByteMachine

variable {σ : Type} [Sink σ]

def Sink.acceptAll (sink : σ) (values : List UInt8) : σ :=
  values.foldl (fun sink value => (Sink.accept sink value).1) sink

theorem deliver_append (sink : σ) (first second : List Event) :
    deliver sink (first ++ second) =
      ((deliver (deliver sink first).1 second).1,
        (deliver sink first).2 ++ (deliver (deliver sink first).1 second).2) := by
  induction first generalizing sink with
  | nil => rfl
  | cons event first ih =>
    cases event with
    | note notice => simp only [List.cons_append, deliver_note, ih]
    | emit value => simp only [List.cons_append, deliver_emit, ih, List.append_assoc]

theorem deliver_sink (sink : σ) (events : List Event) :
    (deliver sink events).1 = Sink.acceptAll sink (events.filterMap Event.value?) := by
  induction events generalizing sink with
  | nil => rfl
  | cons event events ih =>
    cases event with
    | note notice => simp only [deliver_note, ih, List.filterMap_cons, Event.value?]
    | emit value => simp only [deliver_emit, ih, List.filterMap_cons, Event.value?]; rfl

theorem deliver_notes (sink : σ) (notices : List Notice) :
    deliver sink (notices.map .note) = (sink, notices) := by
  induction notices with
  | nil => rfl
  | cons notice notices ih => rw [List.map_cons, deliver_note, ih]

theorem filter_deliver {loud : Notice → Bool} {events : List Event}
    (hushed : ∀ notice, .note notice ∈ events → loud notice = false) (sink : σ) :
    (deliver sink events).2.filter loud =
      (deliver sink ((events.filterMap Event.value?).map .emit)).2.filter loud := by
  induction events generalizing sink with
  | nil => rfl
  | cons event events ih =>
    have rest := ih fun notice member => hushed notice (List.mem_cons_of_mem event member)
    cases event with
    | note notice =>
      have silent : ¬ loud notice = true := by
        rw [hushed notice List.mem_cons_self]
        exact Bool.false_ne_true
      rw [deliver_note, List.filter_cons_of_neg silent, rest]
      rfl
    | emit value =>
      have values : (Event.emit value :: events).filterMap Event.value? =
          value :: events.filterMap Event.value? := rfl
      rw [values, List.map_cons, deliver_emit, deliver_emit, List.filter_append,
        List.filter_append, rest]

def Quiet (sink : σ) : Prop := ∀ values : List UInt8, (deliver sink (values.map .emit)).2 = []

variable {sink : σ}

theorem Quiet.accept (quiet : Quiet sink) (value : UInt8) :
    (Sink.accept sink value).2 = none ∧ Quiet (Sink.accept sink value).1 := by
  have silent (values : List UInt8) := quiet (value :: values)
  simp only [List.map_cons, deliver_emit, List.append_eq_nil_iff, Option.toList_eq_nil_iff]
    at silent
  exact ⟨(silent []).1, fun values => (silent values).2⟩

theorem Quiet.delivery (quiet : Quiet sink) (events : List Event) :
    Quiet (deliver sink events).1 ∧
      (deliver sink events).2 = events.filterMap Event.notice? := by
  induction events generalizing sink with
  | nil => exact ⟨quiet, rfl⟩
  | cons event events ih =>
    cases event with
    | note notice =>
      obtain ⟨still, notices⟩ := ih quiet
      rw [deliver_note, notices]
      exact ⟨still, rfl⟩
    | emit value =>
      obtain ⟨silent, next⟩ := quiet.accept value
      obtain ⟨still, notices⟩ := ih next
      rw [deliver_emit, notices, silent]
      exact ⟨still, rfl⟩

theorem quiet_collector (collector : Collector) : Quiet collector := by
  intro values
  induction values generalizing collector with
  | nil => rfl
  | cons value values ih =>
    rw [List.map_cons, deliver_emit]
    exact ih _

end ByteMachine
