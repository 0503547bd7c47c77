import ByteMachine.Proofs.Noninterference
import ByteMachine.Proofs.StackDepth

/-!
Machines in a loop. A machine that comes back to its memory, its registers and its program counter
goes round forever: it neither halts nor fails, every budget is used up, and what it emits in one
round it emits again in every other.
-/
namespace ByteMachine.Machine

variable {m : Machine} {k : Nat}

theorem memory_after_of_unpushed {n : Nat} (unpushed : ∀ i ∈ m.trace n, ¬ i.Pushes) :
    (m.after n).memory = m.memory := by
  apply Memory.ext_get
  intro x
  apply cell_after
  intro k before i executes pushes
  exact absurd pushes (unpushed i (mem_trace_iff.mpr ⟨k, before, executes⟩))

theorem values_of_rounds (again : Alike m (m.after k)) (rounds : Nat) :
    (m.stepTimes (rounds * k)).values =
      (List.replicate rounds (m.stepTimes k).values).flatten := by
  induction rounds with
  | zero =>
    rw [Nat.zero_mul]
    rfl
  | succ rounds ih =>
    -- After one round the other rounds are those of a machine that is where it was.
    have next : (m.stepTimes (rounds * k)).values = ((m.after k).stepTimes (rounds * k)).values :=
      again.values_stepTimes_eq _
    rw [Nat.succ_mul, Nat.add_comm, values_stepTimes_add, ← next, ih, List.replicate_succ,
      List.flatten_cons]

/-- A machine that comes back to its memory, its registers and its program counter never stops, and
what it emits in some rounds is so many times what it emits in the first. -/
theorem recurrence_never_stops (running : m.status = .running) (later : 0 < k)
    (again : Alike m (m.after k)) :
    (∀ n, (m.after n).status = .running ∧ (m.runFor n).result = .ok .running ∧
        (m.runFor n).machine.steps = m.steps + n) ∧
      m.run = none ∧
      ∀ rounds, (m.stepTimes (rounds * k)).values =
        (List.replicate rounds (m.stepTimes k).values).flatten := by
  have forever (n : Nat) : (m.after n).status = .running :=
    running_of_recurrence running later again n
  refine ⟨?_, run_of_running forever, values_of_rounds again⟩
  intro n
  exact ⟨forever n, runFor_of_running (forever n)⟩

def returningToStart : Image := ⟨[0x47, 0, 0xA7, 0, 7, 0x82, 7, 0xF2, 0x11], by decide⟩

theorem returningToStart_prints_zeros :
    Alike (ofImage returningToStart) ((ofImage returningToStart).after 4) ∧
      ((ofImage returningToStart).after 4).flags ≠ (ofImage returningToStart).flags ∧
      ((ofImage returningToStart).runFor 1000).result = .ok .running ∧
      ((ofImage returningToStart).stepTimes (3 * 4)).values = [0, 0, 0] := by
  have round : (∀ i ∈ (ofImage returningToStart).trace 4, ¬ i.Pushes) ∧
      (ofImage returningToStart).registers = ((ofImage returningToStart).after 4).registers ∧
      ((ofImage returningToStart).after 4).pc = 0 ∧
      ((ofImage returningToStart).after 4).status = .running ∧
      ((ofImage returningToStart).after 4).flags ≠ (ofImage returningToStart).flags ∧
      ((ofImage returningToStart).stepTimes 4).values = [0] := by decide +kernel
  obtain ⟨unpushed, registers, counter, status, flags, printed⟩ := round
  have again : Alike (ofImage returningToStart) ((ofImage returningToStart).after 4) :=
    ⟨(memory_after_of_unpushed unpushed).symm, registers, counter.symm, status.symm⟩
  obtain ⟨forever, -, rounds⟩ := recurrence_never_stops rfl (by decide) again
  have values := rounds 3
  rw [printed] at values
  exact ⟨again, flags, (forever 1000).2.1, values⟩

end ByteMachine.Machine
