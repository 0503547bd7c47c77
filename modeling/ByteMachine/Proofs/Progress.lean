import ByteMachine.Proofs.Course

/-!
How far a machine gets without jumps. Every other instruction that lets the machine go on is at
least two bytes long, and the program counter does not pass the end of the memory. So a machine that
neither calls nor returns soon halts or fails, whatever its pushes make of the code ahead.
-/
namespace ByteMachine

def Instruction.Jumps (i : Instruction) : Prop := i.opcode = .call ∨ i.opcode = .ret

instance (i : Instruction) : Decidable i.Jumps :=
  inferInstanceAs (Decidable (i.opcode = .call ∨ i.opcode = .ret))

theorem Opcode.two_le_length {opcode : Opcode} (goes : opcode ≠ .hlt) (stays : opcode ≠ .ret) :
    2 ≤ opcode.length := by
  cases opcode with
  | hlt | ret => contradiction
  | _ => decide

namespace Machine

variable {m : Machine} {i : Instruction}

inductive Turns (m : Machine) : Prop where
  | jumps {i : Instruction} (executes : m.Executes i) (jumps : i.Jumps) : Turns m
  | halts {i : Instruction} (executes : m.Executes i) (halts : i.opcode = .hlt) : Turns m
  | fails {fault : Fault} (running : m.status = .running) (failed : m.step.result = .error fault) :
      Turns m

theorem Executes.advances (executes : m.Executes i) (straight : ¬ i.Jumps)
    (goes : i.opcode ≠ .hlt) :
    m.step.machine.status = .running ∧ m.step.machine.pc = m.pc + i.opcode.length := by
  have stays : i.opcode.setsCounter = false := by
    rw [Bool.eq_false_iff, ne_eq, Opcode.setsCounter_eq_true_iff]
    exact straight
  constructor
  · rw [executes.obeys.status]
    unfold statusAfter
    split
    · contradiction
    · rfl
  · rw [executes.obeys.counter, counterAfter_of_advances stays goes, Nat.add_assoc]
    rfl

theorem turns_or_advances (running : m.status = .running) :
    m.Turns ∨ (m.step.machine.status = .running ∧ m.pc + 2 ≤ m.step.machine.pc ∧
      m.step.machine.pc ≤ 256) := by
  rcases executes_or_fails running with ⟨i, executes⟩ | ⟨fault, failed⟩
  · by_cases jumps : i.Jumps
    · exact Or.inl (.jumps executes jumps)
    · by_cases halts : i.opcode = .hlt
      · exact Or.inl (.halts executes halts)
      · obtain ⟨going, counter⟩ := executes.advances jumps halts
        have long := Opcode.two_le_length halts fun ret => jumps (Or.inr ret)
        have fits := fits_of_fetch (fetch_eq_ok_iff.mpr executes.decoded)
        simp only [memorySize] at fits
        exact Or.inr ⟨going, by omega, by omega⟩
  · exact Or.inl (.fails running failed)

/-- As long as nothing turns, every step leaves two or more bytes behind it. -/
theorem turns_within_or_advances (running : m.status = .running) (inside : m.pc ≤ 256) (n : Nat) :
    (∃ k < n, (m.after k).Turns) ∨
      ((m.after n).status = .running ∧ m.pc + 2 * n ≤ (m.after n).pc ∧ (m.after n).pc ≤ 256) := by
  induction n with
  | zero => exact Or.inr ⟨running, Nat.le_refl _, inside⟩
  | succ n ih =>
    rcases ih with ⟨k, before, turns⟩ | ⟨going, low, high⟩
    · exact Or.inl ⟨k, by omega, turns⟩
    · rcases turns_or_advances going with turns | ⟨going', low', high'⟩
      · exact Or.inl ⟨n, by omega, turns⟩
      · rw [after_succ_last]
        exact Or.inr ⟨going', by omega, high'⟩

theorem turns_within (running : m.status = .running) (inside : m.pc ≤ 256) :
    ∃ k < (256 - m.pc) / 2 + 1, (m.after k).Turns := by
  rcases turns_within_or_advances running inside ((256 - m.pc) / 2 + 1) with turns | ⟨-, low, high⟩
  · exact turns
  · omega

theorem Turns.stops (turns : m.Turns) (straight : ∀ i, m.Executes i → ¬ i.Jumps) :
    m.step.machine.status ≠ .running := by
  cases turns with
  | @jumps i executes jumps => exact absurd jumps (straight i executes)
  | halts executes halts =>
    rw [executes.obeys.status]
    simp [statusAfter, halts]
  | fails running failed =>
    rw [(step_of_error running failed).1]
    simp

theorem stops_of_straight (running : m.status = .running) (inside : m.pc ≤ 256)
    (straight : ∀ i ∈ m.trace ((256 - m.pc) / 2 + 1), ¬ i.Jumps) :
    (m.after ((256 - m.pc) / 2 + 1)).status ≠ .running := by
  obtain ⟨k, before, turns⟩ := turns_within running inside
  have stopped : (m.after (k + 1)).status ≠ .running := by
    rw [after_succ_last]
    apply turns.stops
    intro i executes
    exact straight i (mem_trace_iff.mpr ⟨k, before, executes⟩)
  intro going
  exact stopped (was_running going before)

theorem Fresh.start (fresh : m.Fresh) : m.status = .running ∧ m.pc = 0 := by
  rcases fresh with rfl | ⟨image, rfl⟩
  · exact ⟨rfl, rfl⟩
  · exact ⟨rfl, rfl⟩

theorem jumps_of_fresh (fresh : m.Fresh) (going : (m.runFor 129).result = .ok .running) :
    ∃ i ∈ m.trace 129, i.Jumps := by
  obtain ⟨running, counter⟩ := fresh.start
  rw [runFor_result (by decide)] at going
  have still := Status.answer_eq_running going
  by_contra straight
  push Not at straight
  have stopped : (m.after ((256 - m.pc) / 2 + 1)).status ≠ .running := by
    apply stops_of_straight running (by omega)
    rw [counter]
    exact straight
  rw [counter] at stopped
  exact stopped still

def printingFrom (start : Nat) : Machine :=
  { initial with
    memory := ⟨.ofFn fun x => if x.val % 2 = start % 2 then Opcode.prn.byte else 0⟩
    pc := start }

theorem printingFrom_written {start address : Nat} (even : address % 2 = start % 2)
    (room : address + 2 ≤ 256) :
    [Opcode.prn.byte, 0] <+: (printingFrom start).memory.toList.drop address := by
  have byte (x : Nat) (inside : x < 256) : (printingFrom start).memory.toList[x]? =
      some (if x % 2 = start % 2 then Opcode.prn.byte else 0) := by
    simp [printingFrom, Memory.toList, memorySize, inside]
  have opcode := byte address (by omega)
  have operand := byte (address + 1) (by omega)
  rw [if_pos even] at opcode
  rw [if_neg (by omega)] at operand
  rw [List.prefix_iff_getElem?]
  intro k short
  rw [List.length_cons, List.length_singleton] at short
  rw [List.getElem?_drop]
  obtain rfl | rfl : k = 0 ∨ k = 1 := by omega
  · exact opcode
  · exact operand

theorem printingFrom_step (start count : Nat) (room : start + 2 * count + 2 ≤ 256) :
    let m : Machine := { printingFrom start with pc := start + 2 * count, steps := count }
    m.Executes ⟨.prn, 0, 0⟩ ∧
      m.step.machine =
        { printingFrom start with pc := start + 2 * (count + 1), steps := count + 1 } := by
  intro m
  have written : [Opcode.prn.byte, 0] <+:
      (printingFrom start).memory.toList.drop (start + 2 * count) :=
    printingFrom_written (by omega) room
  have performs : m.Performs ⟨.prn, 0, 0⟩ (.emit 0) :=
    ⟨rfl, fetch_eq_ok_iff.mpr (Instruction.decode_eq_ok_iff.mpr ⟨written, rfl⟩), rfl⟩
  refine ⟨executes_iff_performs.mpr ⟨_, performs⟩, ?_⟩
  rw [performs.step_eq]
  rfl

theorem printingFrom_after {start count : Nat} (room : start + 2 * count ≤ 256) :
    (printingFrom start).after count =
      { printingFrom start with pc := start + 2 * count, steps := count } := by
  induction count with
  | zero => rfl
  | succ count ih =>
    rw [after_succ_last, ih (by omega)]
    exact (printingFrom_step start count (by omega)).2

theorem progress_bound_attained {start : Nat} (inside : start ≤ 256) :
    ∃ m : Machine, m.status = .running ∧ m.pc = start ∧
      (m.after ((256 - start) / 2)).status = .running ∧
      ∀ i ∈ m.trace ((256 - start) / 2), ¬ i.Jumps := by
  refine ⟨printingFrom start, rfl, rfl, ?_, ?_⟩
  · rw [printingFrom_after (by omega)]
    rfl
  · intro i member
    obtain ⟨k, before, executes⟩ := mem_trace_iff.mp member
    rw [printingFrom_after (by omega)] at executes
    have prints := (printingFrom_step start k (by omega)).1
    obtain rfl := Except.ok.inj (executes.decoded.symm.trans prints.decoded)
    decide

/-- Without calls and returns a machine stops within a number of steps that its program counter
tells, so a fresh machine that is still going after 129 steps has called or returned. From no
address on would a lower number do. -/
theorem progress_without_jumps (running : m.status = .running) (inside : m.pc ≤ 256) :
    (∃ k < (256 - m.pc) / 2 + 1, (m.after k).Turns) ∧
      ((∀ i ∈ m.trace ((256 - m.pc) / 2 + 1), ¬ i.Jumps) →
        (m.after ((256 - m.pc) / 2 + 1)).status ≠ .running) ∧
      (m.Fresh → (m.runFor 129).result = .ok .running → ∃ i ∈ m.trace 129, i.Jumps) ∧
      ∃ m' : Machine, m'.status = .running ∧ m'.pc = m.pc ∧
        (m'.after ((256 - m.pc) / 2)).status = .running ∧
        ∀ i ∈ m'.trace ((256 - m.pc) / 2), ¬ i.Jumps :=
  ⟨turns_within running inside, stops_of_straight running inside, jumps_of_fresh,
    progress_bound_attained inside⟩

theorem printing_stops_at_end :
    (printingFrom 252).status = .running ∧ (printingFrom 252).pc ≤ 256 ∧
      (∀ i ∈ (printingFrom 252).trace 3, ¬ i.Jumps) ∧
      ((printingFrom 252).after 2).status = .running ∧
      ((printingFrom 252).after 3).status ≠ .running := by
  have course : (∀ i ∈ (printingFrom 252).trace 3, ¬ i.Jumps) ∧
      ((printingFrom 252).after 2).status = .running := by decide +kernel
  obtain ⟨straight, going⟩ := course
  obtain ⟨-, stops, -⟩ := progress_without_jumps (m := printingFrom 252) rfl (by decide)
  exact ⟨rfl, by decide, straight, going, stops straight⟩

end Machine

end ByteMachine
