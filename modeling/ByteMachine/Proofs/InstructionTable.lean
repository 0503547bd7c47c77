import Mathlib.Control.Monad.Basic
import ByteMachine.Proofs.Delivery
import ByteMachine.Proofs.Resolving
import ByteMachine.Proofs.Stepping

/-!
The instruction table. For every part of a machine a function says what an instruction leaves
there, as the table of the instruction set has it: operands are bytes that name registers, sums and
products are taken modulo 256, and the stack pointer is R7 like any other register. A step that
succeeds does what the table says and nothing else.
-/
namespace ByteMachine

namespace Registers

variable (registers : Registers)

theorem get_set_of_names {r : Register} {x : UInt8} (names : r.val = x.toNat) (q : Register)
    (value : UInt8) :
    (registers.set r value).get q = if q.val = x.toNat then value else registers.get q := by
  have same : r = q ↔ q.val = x.toNat := by rw [Fin.ext_iff, names, eq_comm]
  simp only [get_set, same]

theorem get_setStackPointer (q : Register) (value : UInt8) :
    (registers.setStackPointer value).get q = if q.val = 7 then value else registers.get q := by
  have same : Register.stackPointer = q ↔ q.val = 7 := Fin.ext_iff.trans eq_comm
  simp only [setStackPointer, get_set, same]

theorem get_set_product (q : Register) (value : UInt8) :
    (registers.set .product value).get q = if q.val = 0 then value else registers.get q := by
  have same : Register.product = q ↔ q.val = 0 := Fin.ext_iff.trans eq_comm
  simp only [get_set, same]

theorem stackPointer_set_of_names {r : Register} {x : UInt8} (names : r.val = x.toNat)
    (value : UInt8) :
    (registers.set r value).stackPointer =
      if x.toNat = 7 then value else registers.stackPointer := by
  have same : Register.stackPointer.val = x.toNat ↔ x.toNat = 7 := eq_comm
  simp only [stackPointer, get_set_of_names registers names, same]

end Registers

theorem Flags.bits_ofComparison (x y : UInt8) :
    (ofComparison x y).bits =
      if x.toNat < y.toNat then 0b100 else if y.toNat < x.toNat then 0b010 else 0b001 := by
  simp only [ofComparison, bits]
  split
  · rfl
  · split <;> rfl

theorem Opcode.setsCounter_eq_true_iff {opcode : Opcode} :
    opcode.setsCounter = true ↔ opcode = .call ∨ opcode = .ret := by
  cases opcode <;> decide

namespace Machine

/-- The value of the register that an operand names. Operands from eight on name none. -/
def operand (m : Machine) (x : UInt8) : UInt8 := m.registers.cells[x.toNat]?.getD 0

variable (m : Machine) (i : Instruction)

def registerAfter (r : Register) : UInt8 :=
  let s := m.registers.stackPointer
  match i.opcode with
  | .ldi => if r.val = i.a.toNat then i.b else m.registers.get r
  | .add =>
    if r.val = i.a.toNat then UInt8.ofNat ((m.operand i.a).toNat + (m.operand i.b).toNat)
    else m.registers.get r
  | .mul =>
    if r.val = 0 then UInt8.ofNat ((m.operand i.a).toNat * (m.operand i.b).toNat)
    else m.registers.get r
  | .push | .call => if r.val = 7 then s - 1 else m.registers.get r
  | .pop =>
    if r.val = 7 then (if i.a.toNat = 7 then m.memory.get s else s) + 1
    else if r.val = i.a.toNat then m.memory.get s
    else m.registers.get r
  | .ret => if r.val = 7 then s + 1 else m.registers.get r
  | .hlt | .prn | .cmp => m.registers.get r

def stored : Option UInt8 :=
  match i.opcode with
  | .push => some (if i.a.toNat = 7 then m.registers.stackPointer - 1 else m.operand i.a)
  | .call => some (UInt8.ofNat (m.pc + 2))
  | _ => none

def cellAfter (x : UInt8) : UInt8 :=
  if x = m.registers.stackPointer - 1 then (m.stored i).getD (m.memory.get x) else m.memory.get x

def bitsAfter : UInt8 :=
  match i.opcode with
  | .cmp =>
    if (m.operand i.a).toNat < (m.operand i.b).toNat then 0b100
    else if (m.operand i.b).toNat < (m.operand i.a).toNat then 0b010
    else 0b001
  | _ => m.flags.bits

def counterAfter : Nat :=
  match i.opcode with
  | .hlt => m.pc
  | .call => (if i.a.toNat = 7 then m.registers.stackPointer - 1 else m.operand i.a).toNat
  | .ret => (m.memory.get m.registers.stackPointer).toNat
  | opcode => m.pc + 1 + (opcode.byte >>> 6).toNat

def statusAfter : Status :=
  match i.opcode with
  | .hlt => .halted
  | _ => .running

def emitted : List UInt8 :=
  match i.opcode with
  | .prn => [m.operand i.a]
  | _ => []

structure Obeys (m' : Machine) : Prop where
  register : ∀ r, m'.registers.get r = m.registerAfter i r
  cell : ∀ x, m'.memory.get x = m.cellAfter i x
  bits : m'.flags.bits = m.bitsAfter i
  counter : m'.pc = m.counterAfter i
  status : m'.status = statusAfter i
  steps : m'.steps = m.steps + 1
  named : i.badOperand? = none
  back : i.opcode = .call → m.pc + 2 < memorySize

variable {m i}

theorem obeys_unique {m₁ m₂ : Machine} (first : Obeys m i m₁) (second : Obeys m i m₂) :
    m₁ = m₂ := by
  have registers : m₁.registers = m₂.registers :=
    Registers.ext_get fun r => (first.register r).trans (second.register r).symm
  have memory : m₁.memory = m₂.memory :=
    Memory.ext_get fun x => (first.cell x).trans (second.cell x).symm
  have flags : m₁.flags = m₂.flags := Flags.bits_injective (first.bits.trans second.bits.symm)
  have counter : m₁.pc = m₂.pc := first.counter.trans second.counter.symm
  have status : m₁.status = m₂.status := first.status.trans second.status.symm
  have steps : m₁.steps = m₂.steps := first.steps.trans second.steps.symm
  cases m₁
  cases m₂
  simp_all

section Performing

variable {action : Action}

theorem operand_of_names {r : Register} {x : UInt8} (names : r.val = x.toNat) :
    m.operand x = m.registers.get r := by
  simp [operand, ← names, Registers.get]

theorem pushed_of_names {r : Register} {x : UInt8} (names : r.val = x.toNat) :
    m.pushed r = if x.toNat = 7 then m.registers.stackPointer - 1 else m.operand x := by
  have same : r = .stackPointer ↔ x.toNat = 7 := by rw [Fin.ext_iff, names]; rfl
  simp only [pushed, same, operand_of_names names]

theorem target_of_names {r : Register} {x : UInt8} (names : r.val = x.toNat) :
    (m.registers.setStackPointer (m.registers.stackPointer - 1)).get r =
      if x.toNat = 7 then m.registers.stackPointer - 1 else m.operand x := by
  rw [Registers.get_setStackPointer, names, operand_of_names names]

theorem register_perform (resolves : Resolves m.pc i action) (next : Nat) (r : Register) :
    (m.perform next action).registers.get r = m.registerAfter i r := by
  cases resolves with
  | hlt | prn | cmp => rfl
  | ldi b names => exact Registers.get_set_of_names _ names r b
  | add names names' =>
    simp only [perform, Operation.apply, registerAfter, Registers.get_set_of_names _ names,
      operand_of_names names, operand_of_names names', UInt8.ofNat_add, UInt8.ofNat_toNat]
  | mul names names' =>
    simp only [perform, Operation.apply, registerAfter, Registers.get_set_product,
      operand_of_names names, operand_of_names names', UInt8.ofNat_mul, UInt8.ofNat_toNat]
  | push | call | ret =>
    simp only [perform, push, pop, registerAfter, Registers.get_setStackPointer]
  | pop b names =>
    simp only [perform, popInto, registerAfter, Registers.get_setStackPointer,
      Registers.get_set_of_names _ names, Registers.stackPointer_set_of_names _ names]

theorem cell_perform (resolves : Resolves m.pc i action) (next : Nat) (x : UInt8) :
    (m.perform next action).memory.get x = m.cellAfter i x := by
  cases resolves with
  | hlt | prn | cmp | ldi | add | mul | pop | ret => simp [perform, cellAfter, stored, pop]
  | push b names =>
    simp only [perform, push, cellAfter, stored, Memory.get_set, Option.getD_some,
      pushed_of_names names, eq_comm (a := x)]
  | call =>
    simp only [perform, push, cellAfter, stored, Memory.get_set, Option.getD_some,
      eq_comm (a := x)]

theorem bits_perform (resolves : Resolves m.pc i action) (next : Nat) :
    (m.perform next action).flags.bits = m.bitsAfter i := by
  cases resolves with
  | hlt | prn | ldi | add | mul | pop | ret | push | call => rfl
  | cmp names names' =>
    simp only [perform, Operation.apply, bitsAfter, operand_of_names names,
      operand_of_names names', Flags.bits_ofComparison]

theorem counter_perform (resolves : Resolves m.pc i action) :
    (m.perform (m.pc + i.opcode.length) action).pc = m.counterAfter i := by
  have advance : m.pc + i.opcode.length = m.pc + 1 + (i.opcode.byte >>> 6).toNat :=
    (Nat.add_assoc ..).symm
  rw [advance]
  cases resolves with
  | call b names fits => simp only [perform, push, counterAfter, target_of_names names]
  | _ => rfl

theorem status_perform (running : m.status = .running) (resolves : Resolves m.pc i action)
    (next : Nat) : (m.perform next action).status = statusAfter i := by
  cases resolves with
  | hlt => rfl
  | _ => exact running

theorem emitted_of_resolves (resolves : Resolves m.pc i action) :
    (m.report action).filterMap Event.value? = m.emitted i := by
  cases resolves with
  | prn b names => simp [report, emitted, Event.value?, operand_of_names names]
  | _ => rfl

end Performing

theorem Performs.obeys {action : Action} (performs : m.Performs i action) :
    Obeys m i m.step.machine := by
  have resolves := Instruction.resolves_of_resolve performs.resolved
  rw [performs.step_eq]
  exact {
    register := register_perform resolves _
    cell := cell_perform resolves _
    bits := bits_perform resolves _
    counter := counter_perform resolves
    status := status_perform performs.running resolves _
    steps := rfl
    named := Instruction.badOperand?_of_resolve performs.resolved
    back := by
      intro call
      cases resolves with
      | call b names fits => exact fits
      | _ => contradiction }

theorem Performs.values_eq {action : Action} (performs : m.Performs i action) :
    m.step.values = m.emitted i := by
  rw [performs.step_eq, Transition.values_after, ← emitted_of_resolves
    (Instruction.resolves_of_resolve performs.resolved)]
  rfl

theorem Executes.obeys (executes : m.Executes i) : Obeys m i m.step.machine := by
  obtain ⟨action, performs⟩ := executes_iff_performs.mp executes
  exact performs.obeys

theorem Executes.values_eq (executes : m.Executes i) : m.step.values = m.emitted i := by
  obtain ⟨action, performs⟩ := executes_iff_performs.mp executes
  exact performs.values_eq

theorem Executes.result_eq (executes : m.Executes i) :
    m.step.result = .ok m.step.machine.status := by
  obtain ⟨action, performs⟩ := executes_iff_performs.mp executes
  rw [performs.step_eq]
  rfl

theorem counterAfter_of_advances (advances : i.opcode.setsCounter = false)
    (goes : i.opcode ≠ .hlt) : m.counterAfter i = m.pc + 1 + (i.opcode.byte >>> 6).toNat := by
  have straight : ¬ (i.opcode = .call ∨ i.opcode = .ret) := by
    rw [← Opcode.setsCounter_eq_true_iff, advances]
    decide
  obtain ⟨opcode, a, b⟩ := i
  cases opcode with
  | hlt => contradiction
  | ret | call => simp at straight
  | _ => rfl

/-- A step that succeeds does exactly what the table says of the instruction at the program
counter, and a sink receives the values that the instruction emits and no others. -/
theorem step_obeys_table {σ : Type} [Sink σ] (sink : σ) {m : Machine} {answer : Status}
    (running : m.status = .running) (ok : m.step.result = .ok answer) :
    ∃ i, Instruction.decode m.rest = .ok i ∧ Obeys m i m.step.machine ∧
      (∀ m', Obeys m i m' → m' = m.step.machine) ∧ answer = m.step.machine.status ∧
      (i.opcode.setsCounter = false → i.opcode ≠ .hlt →
        m.step.machine.pc = m.pc + 1 + (i.opcode.byte >>> 6).toNat) ∧
      m.step.values = m.emitted i ∧
      (deliver sink m.step.events).1 = Sink.acceptAll sink (m.emitted i) := by
  obtain ⟨i, executes⟩ := executes_of_ok running ok
  have obeys := executes.obeys
  have values := executes.values_eq
  refine ⟨i, executes.decoded, obeys, ?_, ?_, ?_, values, ?_⟩
  · intro m' obeys'
    exact obeys_unique obeys' obeys
  · exact Except.ok.inj (ok.symm.trans executes.result_eq)
  · intro advances goes
    rw [obeys.counter, counterAfter_of_advances advances goes]
  · rw [deliver_sink, ← values]
    rfl

def pushingStackPointer : Machine :=
  { initial with memory := (initial.memory.set 0 0x45).set 1 7 }

theorem pushingStackPointer_obeys_table :
    pushingStackPointer.status = .running ∧ pushingStackPointer.step.result = .ok .running ∧
      ∃ i, Instruction.decode pushingStackPointer.rest = .ok i ∧
        Obeys pushingStackPointer i pushingStackPointer.step.machine := by
  have ok : pushingStackPointer.step.result = .ok .running := by decide +kernel
  obtain ⟨i, decoded, obeys, _⟩ := step_obeys_table Collector.empty rfl ok
  exact ⟨rfl, ok, i, decoded, obeys⟩

end Machine

end ByteMachine
