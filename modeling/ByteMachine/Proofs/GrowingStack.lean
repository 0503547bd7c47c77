import ByteMachine.Proofs.Faulting
import ByteMachine.Proofs.Progress
import ByteMachine.Proofs.StackDepth
import ByteMachine.Proofs.StraightLine

/-!
A loop of calls that never return. Every call pushes a return address that nothing pops, so the
stack grows down by a cell for each round until it reaches the code at address zero. The loop ends
there: the return address that takes the place of the call's opcode is not an opcode.
-/
namespace ByteMachine

namespace Instruction

theorem operandCount_load : Opcode.ldi.operandCount = 2 := by
  decide

theorem operandCount_call : Opcode.call.operandCount = 1 := by
  decide

def callingZero (r : UInt8) : List Instruction := [⟨.ldi, r, 0⟩, ⟨.call, r, 0⟩]

theorem encodeAll_callingZero (r : UInt8) : encodeAll (callingZero r) = [0x82, r, 0, 0x50, r] := by
  unfold callingZero
  rw [encodeAll_cons, encodeAll_cons]
  simp only [encode, declared, operandCount_load, operandCount_call]
  rfl

end Instruction

def callLoop (r : UInt8) : Image :=
  ⟨Instruction.encodeAll (Instruction.callingZero r), by
    rw [Instruction.encodeAll_callingZero]
    exact Nat.le_of_ble_eq_true rfl⟩

namespace Machine

variable {m : Machine} {i : Instruction} {r a : UInt8} {k n : Nat}

theorem named_of_low (low : i.a.toNat < 7) (one : i.registerOperands = [i.a]) :
    i.badOperand? = none := by
  rw [Instruction.badOperand?_single one, if_neg]
  exact Nat.not_le.mpr (Nat.lt_succ_of_lt low)

/-- The loop has made so many calls. The call stands at three, so each of them pushed a five. -/
structure Grown (r : UInt8) (calls : Nat) (m : Machine) : Prop where
  pointer : m.registers.stackPointer.toNat = 243 - calls
  others : ∀ q : Register, q.val ≠ 7 → m.registers.get q = 0
  cells : ∀ x, m.memory.get x =
    if 243 - calls ≤ x.toNat ∧ x.toNat < 243 then 5 else [0x82, r, 0, 0x50, r].getD x.toNat 0

theorem grown_start (r : UInt8) : Grown r 0 (ofImage (callLoop r)) := by
  constructor
  case pointer => rfl
  case others =>
    change ∀ q : Register, q.val ≠ 7 → Registers.initial.get q = 0
    decide
  case cells =>
    intro x
    have outside : ¬ (243 - 0 ≤ x.toNat ∧ x.toNat < 243) := by omega
    have blank : initial.memory.get x = 0 := by simp [initial, Memory.zero, Memory.get]
    have bytes : (callLoop r).bytes = [0x82, r, 0, 0x50, r] :=
      Instruction.encodeAll_callingZero r
    rw [if_neg outside, ofImage, Memory.get_load, blank, bytes]

namespace Grown

theorem code (grown : Grown r k m) {x : UInt8} (below : x.toNat < 243 - k) :
    m.memory.get x = [0x82, r, 0, 0x50, r].getD x.toNat 0 := by
  rw [grown.cells, if_neg]
  omega

theorem pushed (grown : Grown r k m) {x : UInt8} (above : 243 - k ≤ x.toNat)
    (below : x.toNat < 243) : m.memory.get x = 5 := by
  rw [grown.cells, if_pos ⟨above, below⟩]

theorem operand (grown : Grown r k m) (low : a.toNat < 7) : m.operand a = 0 := by
  have names : (⟨a.toNat, Nat.lt_succ_of_lt low⟩ : Register).val = a.toNat := rfl
  rw [operand_of_names names]
  apply grown.others
  change a.toNat ≠ 7
  omega

theorem top (grown : Grown r k m) (room : k < 243) :
    (m.registers.stackPointer - 1).toNat = 242 - k := by
  rw [toNat_sub_one, grown.pointer]
  omega

end Grown

theorem executes_load (low : r.toNat < 7) (grown : Grown r k m) (early : k ≤ 240)
    (running : m.status = .running) (start : m.pc = 0) : m.Executes ⟨.ldi, r, 0⟩ := by
  have opcode : m.memory.get 0 = 0x82 := grown.code (by change 0 < 243 - k; omega)
  have target : m.memory.get 1 = r := grown.code (x := 1) (by change 1 < 243 - k; omega)
  have value : m.memory.get 2 = 0 := grown.code (x := 2) (by change 2 < 243 - k; omega)
  have bytes : m.rest = 0x82 :: r :: 0 :: m.memory.toList.drop 3 := by
    have first : m.memory.toList.drop 0 = m.memory.get 0 :: m.memory.toList.drop 1 :=
      m.memory.drop_toNat 0
    have second : m.memory.toList.drop 1 = m.memory.get 1 :: m.memory.toList.drop 2 :=
      m.memory.drop_toNat 1
    have third : m.memory.toList.drop 2 = m.memory.get 2 :: m.memory.toList.drop 3 :=
      m.memory.drop_toNat 2
    rw [rest, start, first, second, third, opcode, target, value]
  apply executes_of_named running
  · rw [bytes]
    exact Instruction.decode_operands .ldi [r, 0] rfl _
  · exact named_of_low low rfl
  · intro call
    contradiction

/-- When the stack has reached the operand of the call, the call names another register, which
holds zero like the first. -/
theorem executes_call (low : r.toNat < 7) (grown : Grown r k m) (early : k < 240)
    (running : m.status = .running) (here : m.pc = 3) :
    ∃ a : UInt8, a.toNat < 7 ∧ m.Executes ⟨.call, a, 0⟩ := by
  have opcode : m.memory.get 3 = 0x50 := grown.code (x := 3) (by change 3 < 243 - k; omega)
  have small : (m.memory.get 4).toNat < 7 := by
    by_cases below : 4 < 243 - k
    · have target : m.memory.get 4 = r := grown.code (x := 4) below
      rw [target]
      exact low
    · have five : m.memory.get 4 = 5 := by
        apply grown.pushed
        · exact Nat.le_of_not_lt below
        · decide
      rw [five]
      decide
  have bytes : m.rest = 0x50 :: m.memory.get 4 :: m.memory.toList.drop 5 := by
    have first : m.memory.toList.drop 3 = m.memory.get 3 :: m.memory.toList.drop 4 :=
      m.memory.drop_toNat 3
    have second : m.memory.toList.drop 4 = m.memory.get 4 :: m.memory.toList.drop 5 :=
      m.memory.drop_toNat 4
    rw [rest, here, first, second, opcode]
  refine ⟨m.memory.get 4, small, ?_⟩
  apply executes_of_named running
  · rw [bytes]
    exact Instruction.decode_operands .call [m.memory.get 4] rfl _
  · exact named_of_low small rfl
  · intro _
    rw [here]
    decide

theorem grown_load (low : r.toNat < 7) (grown : Grown r k m)
    (executes : m.Executes ⟨.ldi, r, 0⟩) : Grown r k m.step.machine := by
  have obeys := executes.obeys
  constructor
  case pointer =>
    have steady : (Instruction.mk .ldi r 0).Steady := by
      intro _ same
      change r.toNat = 7 at same
      omega
    have pushes : ¬ (Instruction.mk .ldi r 0).Pushes := by simp [Instruction.Pushes]
    have pops : ¬ (Instruction.mk .ldi r 0).Pops := by simp [Instruction.Pops]
    rw [executes.stackPointer_eq steady, if_neg pushes, if_neg pops]
    exact grown.pointer
  case others =>
    intro q below
    rw [obeys.register]
    by_cases same : q.val = r.toNat
    · exact if_pos same
    · exact (if_neg same).trans (grown.others q below)
  case cells =>
    intro x
    have kept : m.cellAfter ⟨.ldi, r, 0⟩ x = m.memory.get x := ite_self _
    rw [obeys.cell, kept]
    exact grown.cells x

theorem grown_call (grown : Grown r k m) (room : k < 243) (here : m.pc = 3)
    (executes : m.Executes ⟨.call, a, 0⟩) : Grown r (k + 1) m.step.machine := by
  have obeys := executes.obeys
  have top := grown.top room
  constructor
  case pointer =>
    have steady : (Instruction.mk .call a 0).Steady := by
      intro sets
      rcases sets with other | other | other <;> contradiction
    have pushes : (Instruction.mk .call a 0).Pushes := Or.inr rfl
    rw [executes.stackPointer_eq steady, if_pos pushes, top]
    omega
  case others =>
    intro q below
    rw [obeys.register]
    exact (if_neg below).trans (grown.others q below)
  case cells =>
    intro x
    have back : m.stored ⟨.call, a, 0⟩ = some 5 := by
      unfold stored
      rw [here]
      rfl
    rw [obeys.cell, cellAfter, back]
    by_cases newest : x = m.registers.stackPointer - 1
    · have inside : 243 - (k + 1) ≤ x.toNat ∧ x.toNat < 243 := by
        rw [newest, top]
        omega
      rw [if_pos newest, if_pos inside]
      rfl
    · have elsewhere : x.toNat ≠ 242 - k := by
        intro same
        exact newest (UInt8.toNat_inj.mp (same.trans top.symm))
      have grows : (243 - (k + 1) ≤ x.toNat ∧ x.toNat < 243) ↔
          (243 - k ≤ x.toNat ∧ x.toNat < 243) := by omega
      rw [if_neg newest, grown.cells]
      simp only [grows]

structure Looping (r : UInt8) (calls counter : Nat) (m : Machine) : Prop where
  running : m.status = .running
  counter : m.pc = counter
  grown : Grown r calls m

theorem looping_start (r : UInt8) : Looping r 0 0 (ofImage (callLoop r)) :=
  ⟨rfl, rfl, grown_start r⟩

theorem looping_load (low : r.toNat < 7) (early : k ≤ 240) (looping : Looping r k 0 m) :
    Looping r k 3 m.step.machine := by
  obtain ⟨running, start, grown⟩ := looping
  have executes := executes_load low grown early running start
  have straight : ¬ (Instruction.mk .ldi r 0).Jumps := by
    intro jumps
    rcases jumps with call | ret
    · contradiction
    · contradiction
  have goes : Opcode.ldi ≠ .hlt := by decide
  obtain ⟨going, counter⟩ := executes.advances straight goes
  rw [start, Opcode.length, Instruction.operandCount_load] at counter
  exact ⟨going, counter, grown_load low grown executes⟩

theorem looping_call (low : r.toNat < 7) (early : k < 240) (looping : Looping r k 3 m) :
    Looping r (k + 1) 0 m.step.machine := by
  obtain ⟨running, here, grown⟩ := looping
  obtain ⟨a, small, executes⟩ := executes_call low grown early running here
  have obeys := executes.obeys
  have other : ¬ (a.toNat = 7) := by omega
  have target : m.counterAfter ⟨.call, a, 0⟩ = (m.operand a).toNat :=
    congrArg UInt8.toNat (if_neg other)
  have counter : m.step.machine.pc = 0 := by
    rw [obeys.counter, target, grown.operand small]
    rfl
  have room : k < 243 := by omega
  exact ⟨obeys.status, counter, grown_call grown room here executes⟩

theorem looping_ends (looping : Looping r 240 3 m) :
    m.step.result = .error (.unknownInstruction 5 3) := by
  obtain ⟨running, here, grown⟩ := looping
  have five : m.memory.get 3 = 5 := grown.pushed (x := 3) (by decide) (by decide)
  have bytes : m.rest = 5 :: m.memory.toList.drop 4 := by
    have first : m.memory.toList.drop 3 = m.memory.get 3 :: m.memory.toList.drop 4 :=
      m.memory.drop_toNat 3
    rw [rest, here, first, five]
  have foreign : NoOpcode 5 := by
    intro opcode
    cases opcode <;> decide
  apply result_of_fetch_error running
  apply fetch_eq_error_iff.mpr
  refine ⟨.unknownOpcode 5, ?_, ?_⟩
  · rw [bytes]
    exact Instruction.decode_of_foreign foreign _
  · rw [fetchFault, here]

theorem looping_rounds (low : r.toNat < 7) (early : k ≤ 240) :
    Looping r k 0 ((ofImage (callLoop r)).after (2 * k)) := by
  induction k with
  | zero => exact looping_start r
  | succ k ih =>
    have loaded := looping_load low (by omega) (ih (by omega))
    have called := looping_call low (by omega) loaded
    rw [← after_succ_last, ← after_succ_last] at called
    exact called

/-- Of an odd number of steps the last is a load, and the calls are half of them either way. -/
theorem growing (low : r.toNat < 7) (early : n ≤ 481) :
    ((ofImage (callLoop r)).after n).status = .running ∧
      Grown r (n / 2) ((ofImage (callLoop r)).after n) := by
  have round := looping_rounds (k := n / 2) low (by omega)
  rcases Nat.mod_two_eq_zero_or_one n with even | odd
  · have steps : 2 * (n / 2) = n := by omega
    rw [steps] at round
    exact ⟨round.running, round.grown⟩
  · have steps : 2 * (n / 2) + 1 = n := by omega
    have loaded := looping_load low (by omega) round
    rw [← after_succ_last, steps] at loaded
    exact ⟨loaded.running, loaded.grown⟩

theorem overrun (low : r.toNat < 7) (late : 481 < n) :
    (ofImage (callLoop r)).after n =
      { (ofImage (callLoop r)).after 481 with
        status := .faulted (.unknownInstruction 5 3) } := by
  have round := looping_rounds (k := 240) low (Nat.le_refl 240)
  have loaded := looping_load low (Nat.le_refl 240) round
  rw [← after_succ_last] at loaded
  have failed := looping_ends loaded
  have last : (ofImage (callLoop r)).after 482 =
      { (ofImage (callLoop r)).after 481 with
        status := .faulted (.unknownInstruction 5 3) } := by
    rw [after_succ_last]
    exact (step_of_error loaded.running failed).1
  have stopped : ((ofImage (callLoop r)).after 482).status ≠ .running := by
    rw [last]
    nofun
  rw [← last]
  exact (stays_stopped stopped late).1

theorem result_overrun (low : r.toNat < 7) (late : 481 < n) :
    ((ofImage (callLoop r)).runFor n).result = .error (.unknownInstruction 5 3) := by
  rw [runFor_result (by omega), overrun low late]
  rfl

/-- The loop goes on for 481 steps, of which every second is a call. With the 240th call the stack
has come down to the opcode of the call, and the next attempt at it is the fault that ends the
loop. -/
theorem call_loop_meets_stack (r : UInt8) (low : r.toNat < 7) (n : Nat) :
    ((ofImage (callLoop r)).runFor n).result =
        (if n ≤ 481 then .ok .running else .error (.unknownInstruction 5 3)) ∧
      ((ofImage (callLoop r)).runFor n).machine.steps = min n 481 ∧
      Grown r (min (n / 2) 240) ((ofImage (callLoop r)).runFor n).machine := by
  have fresh : (ofImage (callLoop r)).steps = 0 := rfl
  by_cases early : n ≤ 481
  · obtain ⟨running, grown⟩ := growing low early
    obtain ⟨result, steps⟩ := runFor_of_running running
    have calls : min (n / 2) 240 = n / 2 := by omega
    rw [fresh, Nat.zero_add] at steps
    rw [if_pos early, Nat.min_eq_left early, calls]
    rw [← runFor_machine] at grown
    exact ⟨result, steps, grown⟩
  · have late := Nat.lt_of_not_le early
    obtain ⟨running, grown⟩ := growing low (Nat.le_refl 481)
    have steps := steps_of_running running
    rw [fresh, Nat.zero_add] at steps
    have calls : min (n / 2) 240 = 240 := by omega
    rw [if_neg early, Nat.min_eq_right (Nat.le_of_lt late), calls, runFor_machine,
      overrun low late]
    generalize (ofImage (callLoop r)).after 481 = last at grown steps ⊢
    exact ⟨result_overrun low late, steps, ⟨grown.pointer, grown.others, grown.cells⟩⟩

/-- With R5 the call still names its own register when its operand has been overwritten. -/
theorem call_loop_of_r5_faults :
    (5 : UInt8).toNat < 7 ∧
      ((ofImage (callLoop 5)).runFor 482).result = .error (.unknownInstruction 5 3) ∧
      ((ofImage (callLoop 5)).runFor 482).machine.steps = 481 := by
  have low : (5 : UInt8).toNat < 7 := by decide
  obtain ⟨result, steps, -⟩ := call_loop_meets_stack 5 low 482
  exact ⟨low, result, steps⟩

theorem call_loop_of_r0_not_endless :
    ¬ (((ofImage (callLoop 0)).runFor 482).result = .ok .running ∧
      ((ofImage (callLoop 0)).runFor 482).machine.steps = 482) := by
  rintro ⟨going, -⟩
  have low : (0 : UInt8).toNat < 7 := by decide
  have late : 481 < 482 := by omega
  rw [result_overrun low late] at going
  contradiction

end Machine

end ByteMachine
