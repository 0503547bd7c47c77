import Mathlib.Data.Fintype.BigOperators
import Mathlib.Data.Fintype.Pigeonhole
import ByteMachine.Proofs.Repetition

/-!
Machines that come back to where they were. Flags and counters decide nothing, so a machine that
has come back in all other respects repeats itself forever. There are finitely many configurations
to come back to, and a machine that is still running after that many steps has come back to one.
-/
namespace ByteMachine.Machine

/-- Two machines that differ in the flags and the counter of steps at most. -/
structure Alike (m m' : Machine) : Prop where
  memory : m.memory = m'.memory
  registers : m.registers = m'.registers
  counter : m.pc = m'.pc
  status : m.status = m'.status

variable {m m' : Machine}

theorem Alike.perform (alike : Alike m m') (next : Nat) (action : Action) :
    Alike (m.perform next action) (m'.perform next action) := by
  obtain ⟨memory, registers, flags, pc, status, steps⟩ := m
  obtain ⟨memory', registers', flags', pc', status', steps'⟩ := m'
  obtain ⟨rfl, rfl, rfl, rfl⟩ := alike
  cases action with
  | compute operation a b => cases operation <;> exact ⟨rfl, rfl, rfl, rfl⟩
  | _ => exact ⟨rfl, rfl, rfl, rfl⟩

theorem Alike.step (alike : Alike m m') : Alike m.step.machine m'.step.machine := by
  have fetch : m'.fetch = m.fetch := by
    unfold Machine.fetch
    rw [alike.memory, alike.counter]
  by_cases running : m.status = .running
  · have running' := alike.status.symm.trans running
    cases fetched : m.fetch with
    | error fault =>
      rw [step_of_fetch_error running fetched, step_of_fetch_error running' (fetch.trans fetched)]
      exact ⟨alike.memory, alike.registers, alike.counter, rfl⟩
    | ok i =>
      rw [step_of_fetch running fetched, step_of_fetch running' (fetch.trans fetched)]
      cases resolved : i.resolve m.pc with
      | error fault =>
        rw [execute_of_error resolved, execute_of_error (alike.counter ▸ resolved)]
        exact ⟨alike.memory, alike.registers, alike.counter, rfl⟩
      | ok action =>
        have same := alike.perform (m.pc + i.opcode.length) action
        rw [execute_of_ok resolved, execute_of_ok (alike.counter ▸ resolved), ← alike.counter]
        exact ⟨same.memory, same.registers, same.counter, same.status⟩
  · rw [step_of_stopped running, step_of_stopped (alike.status ▸ running)]
    exact alike

theorem Alike.after (alike : Alike m m') (n : Nat) : Alike (m.after n) (m'.after n) := by
  induction n with
  | zero => exact alike
  | succ n ih =>
    rw [after_succ_last, after_succ_last]
    exact ih.step

theorem running_of_recurrence {k : Nat} (running : m.status = .running) (later : 0 < k)
    (again : Alike m (m.after k)) (n : Nat) : (m.after n).status = .running := by
  induction n using Nat.strongRecOn with
  | ind n ih =>
    by_cases first : n ≤ k
    · exact was_running (again.status.symm.trans running) first
    · -- Past the first round the machine is like itself one round before.
      obtain ⟨n, rfl⟩ := Nat.exists_eq_add_of_le (Nat.le_of_not_le first)
      have before := ih n (by omega)
      rw [after_add, ← (again.after n).status]
      exact before

theorem counterAfter_le {i : Instruction} (fits : m.pc + i.opcode.length ≤ memorySize) :
    m.counterAfter i ≤ memorySize := by
  unfold counterAfter
  split
  · exact Nat.le_of_add_right_le fits
  · exact Nat.le_of_lt (UInt8.toNat_lt _)
  · exact Nat.le_of_lt (UInt8.toNat_lt _)
  · rw [Nat.add_assoc]
    exact fits

theorem counter_le_of_going (going : m.step.machine.status = .running) :
    m.pc ≤ memorySize ∧ m.step.machine.pc ≤ memorySize := by
  have running : m.status = .running := was_running (n := 1) going (Nat.zero_le 1)
  obtain ⟨i, executes⟩ | ⟨fault, failed⟩ := executes_or_fails running
  · have fits := fits_of_fetch (fetch_eq_ok_iff.mpr executes.decoded)
    constructor
    · exact Nat.le_of_add_right_le fits
    · rw [executes.obeys.counter]
      exact counterAfter_le fits
  · rw [step_result_eq, going] at failed
    cases failed

abbrev Configuration : Type :=
  Fin (memorySize + 1) × (Register → Fin UInt8.size) × (Fin memorySize → Fin UInt8.size)

theorem card_configuration : Fintype.card Configuration = configurations := by
  unfold configurations
  simp only [Fintype.card_prod, Fintype.card_fun, Fintype.card_fin, ← pow_add, Nat.pow_eq]

def configuration (m : Machine) (inside : m.pc ≤ memorySize) : Configuration :=
  (⟨m.pc, Nat.lt_succ_of_le inside⟩, fun r => (m.registers.get r).toFin,
    fun x => m.memory.cells[x].toFin)

theorem alike_of_configuration {inside : m.pc ≤ memorySize} {inside' : m'.pc ≤ memorySize}
    (status : m.status = m'.status)
    (same : m.configuration inside = m'.configuration inside') : Alike m m' := by
  obtain ⟨counter, cells⟩ := Prod.mk.inj same
  obtain ⟨registers, memory⟩ := Prod.mk.inj cells
  exact {
    memory := Memory.ext_get fun x => UInt8.toFin_inj.mp (congrFun memory (Memory.cell x))
    registers := Registers.ext_get fun r => UInt8.toFin_inj.mp (congrFun registers r)
    counter := Fin.mk.inj counter
    status := status }

theorem counter_le_of_running {n bound : Nat} (running : (m.after bound).status = .running)
    (positive : 0 < bound) (within : n ≤ bound) : (m.after n).pc ≤ memorySize := by
  cases n with
  | zero =>
    have going : (m.after 1).status = .running := was_running running positive
    exact (counter_le_of_going going).1
  | succ n =>
    have going := was_running running within
    rw [after_succ_last] at going ⊢
    exact (counter_le_of_going going).2

theorem recurs_of_same {bound a b : Nat} (running : (m.after bound).status = .running)
    (before : a < b) (within : b ≤ bound) {first : (m.after a).pc ≤ memorySize}
    {second : (m.after b).pc ≤ memorySize}
    (same : (m.after a).configuration first = (m.after b).configuration second) :
    ∃ start k, 0 < k ∧ start + k ≤ bound ∧ Alike (m.after start) (m.after (start + k)) := by
  have goingA := was_running running (Nat.le_trans (Nat.le_of_lt before) within)
  have goingB := was_running running within
  have alike := alike_of_configuration (goingA.trans goingB.symm) same
  obtain ⟨k, rfl⟩ := Nat.exists_eq_add_of_lt before
  rw [Nat.add_assoc] at within alike
  exact ⟨a, k + 1, Nat.succ_pos k, within, alike⟩

/-- There are more machines on the way than there are configurations for them. -/
theorem exists_recurrence {bound : Nat} (enough : Fintype.card Configuration ≤ bound)
    (running : (m.after bound).status = .running) :
    ∃ start k, 0 < k ∧ start + k ≤ bound ∧ Alike (m.after start) (m.after (start + k)) := by
  have positive : 0 < bound := Nat.lt_of_lt_of_le Fintype.card_pos enough
  let visited (n : Fin (bound + 1)) : Configuration :=
    (m.after n).configuration (counter_le_of_running running positive (Nat.le_of_lt_succ n.isLt))
  have crowded : Fintype.card Configuration < Fintype.card (Fin (bound + 1)) := by
    rw [Fintype.card_fin]
    exact Nat.lt_succ_of_le enough
  obtain ⟨a, b, distinct, same⟩ := Fintype.exists_ne_map_eq_of_card_lt visited crowded
  rcases lt_or_gt_of_ne distinct with before | after
  · exact recurs_of_same running before (Nat.le_of_lt_succ b.isLt) same
  · exact recurs_of_same running after (Nat.le_of_lt_succ a.isLt) same.symm

theorem running_forever (running : (m.after configurations).status = .running) (n : Nat) :
    (m.after n).status = .running := by
  obtain ⟨start, k, later, within, again⟩ :=
    exists_recurrence (Nat.le_of_eq card_configuration) running
  have going : (m.after start).status = .running :=
    was_running running (Nat.le_of_add_right_le within)
  rw [after_add] at again
  have beyond := running_of_recurrence going later again n
  rw [← after_add] at beyond
  exact was_running beyond (Nat.le_add_left n start)

end ByteMachine.Machine
