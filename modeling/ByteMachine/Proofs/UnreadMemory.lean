import Mathlib.Data.Set.Defs
import ByteMachine.Proofs.Contents
import ByteMachine.Proofs.Faulting
import ByteMachine.Proofs.StackMatching

/-!
Memory that is never read. A step looks at the opcode, at the operands that the opcode declares and,
if it pops, at the top of the stack. Two machines that differ in other cells alone answer alike,
report alike and go on differing in those cells alone.
-/
namespace ByteMachine

theorem Memory.getElem?_cells (memory : Memory) (x : UInt8) :
    memory.cells[x.toNat]? = some (memory.get x) :=
  Vector.getElem?_eq_getElem x.toNat_lt

theorem Instruction.decode_congr {x : UInt8} {rest rest' : List UInt8}
    (count : rest'.length = rest.length)
    (same : ∀ opcode : Opcode, opcode.byte = x →
      rest'.take opcode.operandCount = rest.take opcode.operandCount) :
    decode (x :: rest') = decode (x :: rest) := by
  cases found : Opcode.ofByte? x with
  | none =>
    have foreign := Opcode.ofByte?_eq_none_iff.mp found
    rw [decode_of_foreign foreign, decode_of_foreign foreign]
  | some opcode =>
    obtain rfl := Opcode.ofByte?_eq_some_iff.mp found
    by_cases short : rest.length < opcode.operandCount
    · rw [decode_of_short short, decode_of_short (count ▸ short), count]
    · have enough := Nat.not_lt.mp short
      rw [decode_of_enough enough, decode_of_enough (count ▸ enough), same opcode rfl]

namespace Machine

/-- The addresses of the opcode at the program counter and of the operands that it declares, as far
as they lie in memory. A byte that is no opcode declares none. -/
inductive Fetches (m : Machine) : UInt8 → Prop where
  | opcode {x : UInt8} (here : x.toNat = m.pc) : Fetches m x
  | operand {x : UInt8} {opcode : Opcode} (found : m.memory.cells[m.pc]? = some opcode.byte)
      (behind : m.pc < x.toNat) (within : x.toNat < m.pc + opcode.length) : Fetches m x

inductive Reads (m : Machine) : UInt8 → Prop where
  | code {x : UInt8} (running : m.status = .running) (fetches : m.Fetches x) : Reads m x
  | stack {i : Instruction} (executes : m.Executes i) (pops : i.Pops) :
      Reads m m.registers.stackPointer

structure AgreeOutside (U : Set UInt8) (m m' : Machine) : Prop where
  registers : m'.registers = m.registers
  flags : m'.flags = m.flags
  counter : m'.pc = m.pc
  status : m'.status = m.status
  steps : m'.steps = m.steps
  cell : ∀ x ∉ U, m'.memory.get x = m.memory.get x

structure MatchOutside {α : Type} (U : Set UInt8) (t t' : Transition α) : Prop where
  result : t'.result = t.result
  events : t'.events = t.events
  machine : AgreeOutside U t.machine t'.machine

variable {U : Set UInt8} {m m' : Machine}

theorem MatchOutside.after {α : Type} {t t' : Transition α} (same : MatchOutside U t t')
    (past : List Event) : MatchOutside U (t.after past) (t'.after past) :=
  ⟨same.result, congrArg (past ++ ·) same.events, same.machine⟩

theorem fetch_congr (counter : m'.pc = m.pc)
    (same : ∀ x, m.Fetches x → m'.memory.get x = m.memory.get x) : m'.fetch = m.fetch := by
  have decoded : Instruction.decode m'.rest = Instruction.decode m.rest := by
    obtain ⟨x, here⟩ | past := Memory.cell_or_past m.pc
    · have first : m.memory.cells[m.pc]? = some (m.memory.get x) := here ▸ m.memory.getElem?_cells x
      have first' : m'.memory.cells[m'.pc]? = some (m.memory.get x) := by
        rw [counter, ← here, Memory.getElem?_cells, same x (.opcode here)]
      rw [rest_eq_cons first, rest_eq_cons first', counter]
      refine Instruction.decode_congr ?_ fun opcode byte => ?_
      · rw [List.length_drop, List.length_drop, Memory.length_toList, Memory.length_toList]
      · refine Memory.stretch_eq fun y behind within => same y ?_
        rw [← byte] at first
        exact .operand first behind (by simp only [Opcode.length]; omega)
    · have nothing : m.rest = [] := List.drop_of_length_le (by rw [Memory.length_toList]; exact past)
      have nothing' : m'.rest = [] :=
        List.drop_of_length_le (by rw [Memory.length_toList, counter]; exact past)
      rw [nothing, nothing']
  rw [fetch_eq_decode_rest, fetch_eq_decode_rest, decoded]
  congr 1
  funext e
  cases e <;> simp only [fetchFault, counter]

namespace AgreeOutside

theorem fail (agree : AgreeOutside U m m') (fault : Fault) :
    MatchOutside U (m.fail fault) (m'.fail fault) := by
  refine ⟨rfl, ?_, { agree with status := rfl }⟩
  simp only [Machine.fail, agree.counter]

theorem push (agree : AgreeOutside U m m') (value : UInt8) :
    AgreeOutside U (m.push value) (m'.push value) := by
  refine { agree with registers := ?_, cell := fun x outside => ?_ }
  · simp only [Machine.push, agree.registers]
  · simp only [Machine.push, agree.registers, Memory.get_set, agree.cell x outside]

theorem perform {i : Instruction} {action : Action} (agree : AgreeOutside U m m') (next : Nat)
    (resolves : Resolves m.pc i action) (popped : i.Pops → m.registers.stackPointer ∉ U) :
    AgreeOutside U (m.perform next action) (m'.perform next action) := by
  cases resolves with
  | hlt => exact { agree with status := rfl }
  | prn => exact { agree with counter := rfl }
  | ldi b names =>
    refine { agree with registers := ?_, counter := rfl }
    simp only [Machine.perform, agree.registers]
  | add names names' | mul names names' | cmp names names' =>
    refine { agree with registers := ?_, flags := ?_, counter := rfl }
    · simp only [Machine.perform, agree.registers, agree.flags]
    · simp only [Machine.perform, agree.registers, agree.flags]
  | push b names =>
    simp only [Machine.perform, pushed, agree.registers]
    exact { agree.push _ with counter := rfl }
  | call b names =>
    have stored := agree.push (UInt8.ofNat (m.pc + 2))
    refine { stored with counter := ?_ }
    simp only [Machine.perform, stored.registers]
  | pop b names =>
    have top := agree.cell _ (popped (.inl rfl))
    refine { agree with registers := ?_, counter := rfl }
    simp only [Machine.perform, popInto, agree.registers, top]
  | ret =>
    have top := agree.cell _ (popped (.inr rfl))
    refine { agree with registers := ?_, counter := ?_ }
    · simp only [Machine.perform, Machine.pop, agree.registers]
    · simp only [Machine.perform, Machine.pop, agree.registers, top]

theorem report_eq (agree : AgreeOutside U m m') (action : Action) :
    m'.report action = m.report action := by
  cases action with
  | emit source => simp only [report, agree.registers]
  | halt => simp only [report, agree.counter, agree.steps]
  | _ => rfl

theorem complete {i : Instruction} {action : Action} (agree : AgreeOutside U m m') (next : Nat)
    (resolves : Resolves m.pc i action) (popped : i.Pops → m.registers.stackPointer ∉ U) :
    MatchOutside U (m.complete next action) (m'.complete next action) := by
  have same := agree.perform next resolves popped
  refine ⟨congrArg Except.ok same.status, agree.report_eq action, { same with steps := ?_ }⟩
  exact congrArg (· + 1) agree.steps

theorem step (agree : AgreeOutside U m m') (unread : ∀ x, m.Reads x → x ∉ U) :
    MatchOutside U m.step m'.step := by
  by_cases running : m.status = .running
  · have running' := agree.status.trans running
    have fetch : m'.fetch = m.fetch := fetch_congr agree.counter fun x fetches =>
      agree.cell x (unread x (.code running fetches))
    cases fetched : m.fetch with
    | error fault =>
      rw [step_of_fetch_error running fetched, step_of_fetch_error running' (fetch.trans fetched)]
      exact agree.fail fault
    | ok i =>
      rw [step_of_fetch running fetched, step_of_fetch running' (fetch.trans fetched)]
      cases resolved : i.resolve m.pc with
      | error fault =>
        rw [execute_of_error resolved, execute_of_error (agree.counter ▸ resolved), agree.counter]
        exact (agree.fail fault).after _
      | ok action =>
        have executes : m.Executes i := executes_iff_performs.mpr ⟨action, running, fetched, resolved⟩
        have same := agree.complete (m.pc + i.opcode.length)
          (Instruction.resolves_of_resolve resolved) fun pops => unread _ (.stack executes pops)
        rw [execute_of_ok resolved, execute_of_ok (agree.counter ▸ resolved), agree.counter]
        exact same.after _
  · rw [step_of_stopped running, step_of_stopped (agree.status ▸ running), agree.status]
    exact ⟨rfl, rfl, agree⟩

theorem stepTimes {n : Nat} (agree : AgreeOutside U m m')
    (unread : ∀ k < n, ∀ x, (m.after k).Reads x → x ∉ U) :
    MatchOutside U (m.stepTimes n) (m'.stepTimes n) := by
  induction n generalizing m m' with
  | zero => exact ⟨rfl, rfl, agree⟩
  | succ n ih =>
    have first := agree.step (unread 0 (Nat.succ_pos n))
    have later := ih first.machine fun k before => unread (k + 1) (Nat.succ_lt_succ before)
    exact {
      result := congrArg₂ List.cons first.result later.result
      events := congrArg₂ List.append first.events later.events
      machine := later.machine }

end AgreeOutside

/-- What a run never reads makes no difference to its answers, to what it emits, or to where it
leaves the machine in anything but those cells. In particular what stands behind the declared
operands of an instruction is no part of it. -/
theorem unread_memory_has_no_influence {U : Set UInt8} {m m' : Machine} {n : Nat}
    (agree : AgreeOutside U m m') (unread : ∀ k < n, ∀ x, (m.after k).Reads x → x ∉ U) :
    (m'.stepTimes n).result = (m.stepTimes n).result ∧
      (m'.stepTimes n).events = (m.stepTimes n).events ∧
      (m'.stepTimes n).values = (m.stepTimes n).values ∧
      AgreeOutside U (m.after n) (m'.after n) ∧
      ∀ p q : Machine, q.pc = p.pc →
        (∀ x, p.Fetches x → q.memory.get x = p.memory.get x) → q.fetch = p.fetch := by
  have same := agree.stepTimes unread
  have values := congrArg (List.filterMap Event.value?) same.events
  exact ⟨same.result, same.events, values, same.machine, fun p q => fetch_congr⟩

def printing (behind : UInt8) : Machine :=
  { initial with memory := (initial.memory.set 0 0x47).set 2 behind }

theorem printing_ignores_byte_behind :
    AgreeOutside { x | 2 ≤ x.toNat } (printing 0) (printing 0xFF) ∧
      (∀ k < 1, ∀ x, ((printing 0).after k).Reads x → ¬ 2 ≤ x.toNat) ∧
      ((printing 0xFF).stepTimes 1).values = ((printing 0).stepTimes 1).values := by
  have agree : AgreeOutside { x | 2 ≤ x.toNat } (printing 0) (printing 0xFF) := by
    refine ⟨rfl, rfl, rfl, rfl, rfl, fun x outside => ?_⟩
    have other : 2 ≠ x := by
      rintro rfl
      exact outside (Nat.le_refl 2)
    simp only [printing, Memory.get_set_of_ne other]
  have unread : ∀ k < 1, ∀ x, ((printing 0).after k).Reads x → ¬ 2 ≤ x.toNat := by
    intro k only x reads
    obtain rfl : k = 0 := by omega
    have fetched : (printing 0).fetch = .ok ⟨.prn, 0, 0⟩ := by decide +kernel
    have byte : (printing 0).memory.cells[0]? = some Opcode.prn.byte := by decide +kernel
    cases reads with
    | code running fetches =>
      cases fetches with
      | opcode here =>
        have first : x.toNat = 0 := here
        omega
      | @operand opcode found behind within =>
        obtain rfl := Opcode.byte_injective (Option.some.inj (byte.symm.trans found))
        have near : x.toNat < 0 + 2 := within
        omega
    | stack executes pops =>
      have decoded := fetch_eq_ok_iff.mpr executes.decoded
      obtain rfl := Except.ok.inj (fetched.symm.trans decoded)
      simp [Instruction.Pops] at pops
  obtain ⟨-, -, values, -⟩ := unread_memory_has_no_influence agree unread
  exact ⟨agree, unread, values⟩

end Machine

end ByteMachine
