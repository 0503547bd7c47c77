import ByteMachine.Proofs.Repetition

/-!
Which pop belongs to which push. Only pushes and calls write to memory, and only to the cell below
the stack pointer, so a byte on the stack stays until something is stored over it. A later pop or
return that finds the stack pointer at that byte gets it back, whatever happened in between.
-/
namespace ByteMachine

namespace Instruction

def Pushes (i : Instruction) : Prop := i.opcode = .push ∨ i.opcode = .call

def Pops (i : Instruction) : Prop := i.opcode = .pop ∨ i.opcode = .ret

end Instruction

namespace Machine

variable {m : Machine} {i : Instruction}

theorem stored_of_idle (idle : ¬ i.Pushes) : m.stored i = none := by
  unfold stored
  split
  · rename_i push
    exact absurd (.inl push) idle
  · rename_i call
    exact absurd (.inr call) idle
  · rfl

theorem cell_step {x : UInt8}
    (spared : ∀ i, m.Executes i → i.Pushes → m.registers.stackPointer - 1 ≠ x) :
    m.step.machine.memory.get x = m.memory.get x := by
  by_cases running : m.status = .running
  · obtain ⟨i, executes⟩ | ⟨fault, failed⟩ := executes_or_fails running
    · rw [executes.obeys.cell, cellAfter]
      split
      · rename_i below
        have idle : ¬ i.Pushes := fun pushes => spared i executes pushes below.symm
        rw [stored_of_idle idle, Option.getD_none]
      · rfl
    · rw [(step_of_error running failed).1]
  · rw [step_of_stopped running]

theorem cell_after {x : UInt8} {n : Nat}
    (spared : ∀ k < n, ∀ i, (m.after k).Executes i → i.Pushes →
      (m.after k).registers.stackPointer - 1 ≠ x) :
    (m.after n).memory.get x = m.memory.get x := by
  induction n with
  | zero => rfl
  | succ n ih =>
    have last := cell_step (spared n (Nat.lt_succ_self n))
    have before := ih fun k earlier => spared k (Nat.lt_succ_of_lt earlier)
    rw [after_succ_last, last, before]

theorem Executes.stored_eq (executes : m.Executes i) (pushes : i.Pushes) :
    m.stored i = some (m.step.machine.memory.get (m.registers.stackPointer - 1)) := by
  rw [executes.obeys.cell, cellAfter, if_pos rfl]
  obtain ⟨opcode, a, b⟩ := i
  obtain rfl | rfl := pushes <;> rfl

theorem Executes.back_eq (executes : m.Executes i) (call : i.opcode = .call) :
    (m.step.machine.memory.get (m.registers.stackPointer - 1)).toNat = m.pc + 2 := by
  have stored := executes.stored_eq (.inr call)
  simp only [Machine.stored, call] at stored
  rw [← Option.some.inj stored, UInt8.toNat_ofNat']
  exact Nat.mod_eq_of_lt (executes.obeys.back call)

theorem Executes.named (executes : m.Executes i) (single : i.opcode = .push ∨ i.opcode = .pop) :
    ∃ r : Register, r.val = i.a.toNat := by
  obtain ⟨action, performs⟩ := executes_iff_performs.mp executes
  cases Instruction.resolves_of_resolve performs.resolved with
  | push b names => exact ⟨_, names⟩
  | pop b names => exact ⟨_, names⟩
  | _ => simp at single

theorem Executes.ret_eq (executes : m.Executes i) (ret : i.opcode = .ret) :
    m.step.machine.pc = (m.memory.get m.registers.stackPointer).toNat ∧
      m.step.machine.registers.stackPointer = m.registers.stackPointer + 1 := by
  constructor
  · rw [executes.obeys.counter]
    simp only [counterAfter, ret]
  · rw [Registers.stackPointer, executes.obeys.register]
    simp only [registerAfter, ret]
    rfl

theorem Executes.pop_eq (executes : m.Executes i) (pop : i.opcode = .pop) (other : i.a.toNat ≠ 7) :
    m.step.machine.operand i.a = m.memory.get m.registers.stackPointer ∧
      m.step.machine.registers.stackPointer = m.registers.stackPointer + 1 := by
  obtain ⟨r, names⟩ := executes.named (.inr pop)
  constructor
  · rw [operand_of_names names, executes.obeys.register]
    simp only [registerAfter, pop, names, if_neg other, if_true]
  · rw [Registers.stackPointer, executes.obeys.register]
    simp only [registerAfter, pop, if_neg other]
    rfl

theorem Executes.pop_stackPointer_eq (executes : m.Executes i) (pop : i.opcode = .pop)
    (same : i.a.toNat = 7) :
    m.step.machine.registers.stackPointer = m.memory.get m.registers.stackPointer + 1 := by
  rw [Registers.stackPointer, executes.obeys.register]
  simp only [registerAfter, pop, if_pos same]
  rfl

theorem operand_stackPointer (m : Machine) {x : UInt8} (same : x.toNat = 7) :
    m.operand x = m.registers.stackPointer :=
  operand_of_names (r := .stackPointer) same.symm

/-- What stands on the stack after the step that follows `n` steps, where a push would store. -/
def pushedAt (m : Machine) (n : Nat) : UInt8 :=
  (m.after (n + 1)).memory.get ((m.after n).registers.stackPointer - 1)

/-- After `first` steps `i` pushes, after `last` steps `j` pops where `i` pushed, and nothing in
between has pushed there. -/
structure Matching (m : Machine) (first last : Nat) (i j : Instruction) : Prop where
  order : first < last
  opens : (m.after first).Executes i
  pushes : i.Pushes
  closes : (m.after last).Executes j
  pops : j.Pops
  level : (m.after last).registers.stackPointer = (m.after first).registers.stackPointer - 1
  spared : ∀ k, first < k → k < last → ∀ i', (m.after k).Executes i' → i'.Pushes →
    (m.after k).registers.stackPointer ≠ (m.after first).registers.stackPointer

namespace Matching

variable {first last : Nat} {j : Instruction}

theorem stored (matching : Matching m first last i j) :
    (m.after first).stored i = some (m.pushedAt first) := by
  have stored := matching.opens.stored_eq matching.pushes
  rwa [← after_succ_last] at stored

theorem kept (matching : Matching m first last i j) :
    (m.after last).memory.get (m.after last).registers.stackPointer = m.pushedAt first := by
  obtain ⟨between, rfl⟩ := Nat.exists_eq_add_of_le (Nat.succ_le_of_lt matching.order)
  rw [matching.level, after_add]
  refine cell_after fun k earlier i' executes pushes => ?_
  rw [← after_add] at executes ⊢
  intro below
  refine matching.spared _ ?_ ?_ i' executes pushes ((UInt8.sub_left_inj 1).mp below)
  · omega
  · omega

theorem restored (matching : Matching m first last i j) :
    (m.after last).registers.stackPointer + 1 = (m.after first).registers.stackPointer := by
  rw [matching.level, UInt8.sub_add_cancel]

theorem called (matching : Matching m first last i j) (call : i.opcode = .call) :
    (m.pushedAt first).toNat = (m.after first).pc + 2 := by
  have back := matching.opens.back_eq call
  rwa [← after_succ_last] at back

theorem returned (matching : Matching m first last i j) (ret : j.opcode = .ret) :
    (m.after (last + 1)).pc = (m.pushedAt first).toNat ∧
      (m.after (last + 1)).registers.stackPointer = (m.after first).registers.stackPointer := by
  rw [after_succ_last, ← matching.kept, ← matching.restored]
  exact matching.closes.ret_eq ret

theorem popped (matching : Matching m first last i j) (pop : j.opcode = .pop)
    (other : j.a.toNat ≠ 7) :
    (m.after (last + 1)).operand j.a = m.pushedAt first ∧
      (m.after (last + 1)).registers.stackPointer = (m.after first).registers.stackPointer := by
  rw [after_succ_last, ← matching.kept, ← matching.restored]
  exact matching.closes.pop_eq pop other

/-- The stack pointer is stored as it is after the push, and moves once more after it is popped. -/
theorem stackPointer_back (matching : Matching m first last i j) (push : i.opcode = .push)
    (pop : j.opcode = .pop) (stored : i.a.toNat = 7) (loaded : j.a.toNat = 7) :
    (m.after (last + 1)).registers.stackPointer = (m.after first).registers.stackPointer := by
  have byte := matching.stored
  simp only [Machine.stored, push, if_pos stored] at byte
  rw [after_succ_last, matching.closes.pop_stackPointer_eq pop loaded, matching.kept,
    ← Option.some.inj byte, UInt8.sub_add_cancel]

theorem register_back (matching : Matching m first last i j) (push : i.opcode = .push)
    (pop : j.opcode = .pop) (same : i.a = j.a) :
    (m.after (last + 1)).operand i.a = (m.after first).operand i.a ∧
      (m.after (last + 1)).registers.stackPointer = (m.after first).registers.stackPointer := by
  by_cases pointer : i.a.toNat = 7
  · have back := matching.stackPointer_back push pop pointer (same ▸ pointer)
    rw [operand_stackPointer _ pointer, operand_stackPointer _ pointer]
    exact ⟨back, back⟩
  · have byte := matching.stored
    simp only [Machine.stored, push, if_neg pointer] at byte
    rw [Option.some.inj byte, same]
    exact matching.popped pop (same ▸ pointer)

end Matching

/-- A pop or return gets back exactly the byte that its push or call has stored: a return goes on
behind the call, a pop of another register than the stack pointer leaves the byte in it, and both
leave the stack pointer where it was before the push. A register that is pushed and popped comes
back, also when it is the stack pointer itself. -/
theorem pop_recovers_push {m : Machine} {first last : Nat} {i j : Instruction}
    (matching : Matching m first last i j) :
    (m.after first).stored i = some (m.pushedAt first) ∧
      (m.after last).memory.get (m.after last).registers.stackPointer = m.pushedAt first ∧
      (i.opcode = .call → (m.pushedAt first).toNat = (m.after first).pc + 2) ∧
      (j.opcode = .ret →
        (m.after (last + 1)).pc = (m.pushedAt first).toNat ∧
          (m.after (last + 1)).registers.stackPointer = (m.after first).registers.stackPointer) ∧
      (j.opcode = .pop → j.a.toNat ≠ 7 →
        (m.after (last + 1)).operand j.a = m.pushedAt first ∧
          (m.after (last + 1)).registers.stackPointer = (m.after first).registers.stackPointer) ∧
      (i.opcode = .push → j.opcode = .pop → i.a = j.a →
        (m.after (last + 1)).operand i.a = (m.after first).operand i.a ∧
          (m.after (last + 1)).registers.stackPointer =
            (m.after first).registers.stackPointer) := by
  refine ⟨matching.stored, matching.kept, matching.called, matching.returned, matching.popped, ?_⟩
  intro push pop same
  exact matching.register_back push pop same

def callingSubroutine : Machine :=
  { initial with
    memory := (((((initial.memory.set 0 0x45).set 1 1).set 2 0x46).set 3 2).set 4 0x11).set 10 0x50
    pc := 10 }

theorem callingSubroutine_returns :
    Matching callingSubroutine 0 3 ⟨.call, 0, 0⟩ ⟨.ret, 0, 0⟩ ∧
      (callingSubroutine.after 4).pc = 12 ∧
      (callingSubroutine.after 4).registers.stackPointer = Registers.stackStart := by
  have matching : Matching callingSubroutine 0 3 ⟨.call, 0, 0⟩ ⟨.ret, 0, 0⟩ := {
    order := by decide
    opens := ⟨rfl, by decide +kernel, .running, by decide +kernel⟩
    pushes := .inr rfl
    closes := ⟨by decide +kernel, by decide +kernel, .running, by decide +kernel⟩
    pops := .inr rfl
    level := by decide +kernel
    spared := by
      intro k after before i' executes pushes
      have inside : k = 1 ∨ k = 2 := by omega
      obtain rfl | rfl := inside <;> decide +kernel }
  obtain ⟨-, -, back, ret, -⟩ := pop_recovers_push matching
  obtain ⟨counter, pointer⟩ := ret rfl
  exact ⟨matching, counter.trans (back rfl), pointer⟩

end Machine

end ByteMachine
