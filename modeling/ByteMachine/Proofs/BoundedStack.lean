import Mathlib.Data.List.Infix
import Mathlib.Data.List.MinMax
import Mathlib.Order.Nat
import ByteMachine.Proofs.Requests
import ByteMachine.Proofs.StackDepth

/-!
The stack of a machine as a bounded list. Pushes and pops go round the memory, wherever the stack
pointer starts. They answer like pushes and pops on a list as long as no more bytes are popped than
were pushed and the list never has more than 256 of them. One byte more takes the place of the
oldest one.
-/
namespace ByteMachine

inductive StackRequest where
  | push (value : UInt8)
  | pop
  deriving DecidableEq, Repr

class Stack (σ : Type) where
  Failure : Type
  push : σ → UInt8 → Except Failure σ
  pop : σ → Except Failure (UInt8 × σ)

namespace Stack

section Requests

variable {σ : Type} [Stack σ] {s pushed rest left : σ} {value : UInt8} {popped more : List UInt8}
  {past later : List StackRequest}

def serveAll (s : σ) : List StackRequest → Except (Failure σ) (List UInt8 × σ)
  | [] => .ok ([], s)
  | .push value :: later => do
    let pushed ← push s value
    serveAll pushed later
  | .pop :: later => do
    let (value, rest) ← pop s
    let (popped, left) ← serveAll rest later
    return (value :: popped, left)

theorem serveAll_push (taken : push s value = .ok pushed) (later : List StackRequest) :
    serveAll s (.push value :: later) = serveAll pushed later := by
  simp only [serveAll, taken]
  rfl

theorem serveAll_pop (given : pop s = .ok (value, rest))
    (served : serveAll rest later = .ok (popped, left)) :
    serveAll s (.pop :: later) = .ok (value :: popped, left) := by
  simp only [serveAll, given, bind, Except.bind, served]
  rfl

theorem serveAll_append (before : serveAll s past = .ok (popped, rest))
    (after : serveAll rest later = .ok (more, left)) :
    serveAll s (past ++ later) = .ok (popped ++ more, left) := by
  induction past generalizing s popped with
  | nil =>
    obtain ⟨rfl, rfl⟩ := Prod.mk.inj (Except.ok.inj before)
    exact after
  | cons request past ih =>
    cases request with
    | push value =>
      obtain ⟨pushed, taken, before⟩ := bind_eq_ok_iff.mp before
      exact (serveAll_push taken _).trans (ih before)
    | pop =>
      obtain ⟨⟨value, first⟩, given, before⟩ := bind_eq_ok_iff.mp before
      obtain ⟨⟨popped, last⟩, served, same⟩ := bind_eq_ok_iff.mp before
      obtain ⟨rfl, rfl⟩ := Prod.mk.inj (Except.ok.inj same)
      exact serveAll_pop given (ih served)

end Requests

instance : Stack (List UInt8) where
  Failure := Unit
  push stack value := .ok (value :: stack)
  pop
    | [] => .error ()
    | value :: rest => .ok (value, rest)

theorem serveAll_pops_list (stack : List UInt8) :
    serveAll stack (List.replicate stack.length .pop) = .ok (stack, []) := by
  induction stack with
  | nil => rfl
  | cons value rest ih => exact serveAll_pop rfl ih

theorem serveAll_pushes_list (stack values : List UInt8) :
    serveAll stack (values.map .push) = .ok ([], values.reverse ++ stack) := by
  induction values generalizing stack with
  | nil => rfl
  | cons value later ih =>
    rw [List.map_cons, serveAll_push rfl, ih, List.reverse_cons, List.append_assoc]
    rfl

instance : Stack Machine where
  Failure := Fault
  push m value := do
    let top := m.registers.stackPointer - 1
    let memory ← m.memory.write top.toNat value
    return { m with registers := m.registers.setStackPointer top, memory := memory }
  pop m := do
    let top := m.registers.stackPointer
    let value ← m.memory.read top.toNat
    return (value, { m with registers := m.registers.setStackPointer (top + 1) })

theorem push_machine (m : Machine) (value : UInt8) : push m value = .ok (m.push value) := by
  simp only [push, Memory.write_toNat]
  rfl

theorem pop_machine (m : Machine) : pop m = .ok m.pop := by
  simp only [pop, Memory.read_toNat]
  rfl

end Stack

namespace StackRequest

def change : StackRequest → Int
  | push _ => 1
  | pop => -1

def depth : List StackRequest → Int
  | [] => 0
  | request :: later => request.change + depth later

def deepest (word : List StackRequest) : Nat :=
  (word.inits.map fun past => (depth past).toNat).foldr max 0

/-- Going on from a level, the depth stays between zero and a bound. -/
def StaysWithin (level : Int) (most : Nat) (word : List StackRequest) : Prop :=
  ∀ past, past <+: word → 0 ≤ level + depth past ∧ level + depth past ≤ most

variable {level : Int} {most : Nat} {request : StackRequest} {past word : List StackRequest}

theorem depth_nil : depth [] = 0 := rfl

theorem depth_cons (request : StackRequest) (word : List StackRequest) :
    depth (request :: word) = request.change + depth word := rfl

theorem depth_pushes (values : List UInt8) : depth (values.map push) = values.length := by
  induction values with
  | nil => rfl
  | cons value later ih =>
    rw [List.map_cons, depth_cons, ih, List.length_cons, change]
    omega

theorem depth_le_deepest (early : past <+: word) : depth past ≤ deepest word := by
  have member : (depth past).toNat ∈ word.inits.map fun past => (depth past).toNat :=
    List.mem_map_of_mem ((List.mem_inits past word).mpr early)
  have least : (depth past).toNat ≤ deepest word := List.le_max_of_le member (Nat.le_refl _)
  omega

namespace StaysWithin

theorem bounds (within : StaysWithin level most word) : 0 ≤ level ∧ level ≤ most := by
  have start := within [] List.nil_prefix
  rwa [depth_nil, Int.add_zero] at start

theorem tail (within : StaysWithin level most (request :: word)) :
    StaysWithin (level + request.change) most word := by
  intro past early
  have later := within (request :: past) ((List.prefix_cons_inj request).mpr early)
  rwa [depth_cons, ← Int.add_assoc] at later

theorem part (within : StaysWithin 0 most word) (early : past <+: word) :
    StaysWithin 0 (deepest past) past := by
  intro first earlier
  have low := (within first (earlier.trans early)).1
  have high := depth_le_deepest earlier
  omega

theorem deepest_le (within : StaysWithin 0 most word) (early : past <+: word) :
    deepest past ≤ most := by
  apply List.max_le_of_forall_le
  intro level member
  obtain ⟨first, earlier, rfl⟩ := List.mem_map.mp member
  have bound := (within first (((List.mem_inits first past).mp earlier).trans early)).2
  omega

end StaysWithin

end StackRequest

theorem toNat_sub_one_sub (x : UInt8) : (x - 1 - x).toNat = 255 := by
  have bound := x.toNat_lt
  rw [UInt8.toNat_sub, toNat_sub_one]
  omega

namespace Memory

variable {x start : UInt8} {count : Nat}

def upward (memory : Memory) (start : UInt8) : Nat → List UInt8
  | 0 => []
  | count + 1 => memory.get start :: memory.upward (start + 1) count

theorem upward_succ_last (memory : Memory) (start : UInt8) (count : Nat) :
    memory.upward start (count + 1) =
      memory.upward start count ++ [memory.get (start + UInt8.ofNat count)] := by
  induction count generalizing start with
  | zero => simp [upward]
  | succ count ih =>
    have next : start + 1 + UInt8.ofNat count = start + UInt8.ofNat (count + 1) := by
      rw [UInt8.ofNat_add, UInt8.add_assoc, UInt8.add_comm 1]
      rfl
    rw [upward, ih, next]
    rfl

theorem upward_round (memory : Memory) (top : UInt8) :
    memory.upward top 256 = memory.upward top 255 ++ [memory.get (top - 1)] := by
  have last : top + UInt8.ofNat 255 = top - 1 := (UInt8.sub_eq_add_neg top 1).symm
  rw [upward_succ_last, last]

theorem upward_set (memory : Memory) (value : UInt8) (far : count ≤ (x - start).toNat) :
    (memory.set x value).upward start count = memory.upward start count := by
  induction count generalizing start with
  | zero => rfl
  | succ count ih =>
    have other : x ≠ start := by
      rintro rfl
      rw [UInt8.sub_self] at far
      contradiction
    have nearer : count ≤ (x - (start + 1)).toNat := by
      have below := start.toNat_lt
      rw [UInt8.toNat_sub] at far ⊢
      rw [toNat_add_one]
      omega
    rw [upward, upward, get_set_of_ne other, ih nearer]

end Memory

namespace Machine

def cellsAbove (m : Machine) (x : UInt8) : Nat := (m.registers.stackPointer - 1 - x).toNat

/-- What requests that went at most `most` bytes deep have made of the machine `start`. The bytes
that are left lie from the stack pointer upward, the newest first. Nothing else has changed but the
`most` cells below where the stack pointer was. -/
structure Holds (start : Machine) (most : Nat) (stack : List UInt8) (now : Machine) : Prop where
  pointer : (now.registers.stackPointer.toNat : Int) =
    (start.registers.stackPointer.toNat - stack.length) % 256
  listed : now.memory.upward now.registers.stackPointer stack.length = stack
  spared : ∀ x, most ≤ start.cellsAbove x → now.memory.get x = start.memory.get x
  others : ∀ r, r ≠ .stackPointer → now.registers.get r = start.registers.get r
  course : SameCourse start now

variable {start now : Machine} {most : Nat} {stack : List UInt8} {value : UInt8}

theorem holds_start (start : Machine) (most : Nat) : Holds start most [] start := by
  have bound := start.registers.stackPointer.toNat_lt
  refine ⟨?_, rfl, fun _ _ => rfl, fun _ _ => rfl, .refl start⟩
  rw [List.length_nil]
  omega

namespace Holds

theorem cellsAbove_next (holds : Holds start most stack now) (room : stack.length < 256) :
    start.cellsAbove (now.registers.stackPointer - 1) = stack.length := by
  have pointer := holds.pointer
  have low := now.registers.stackPointer.toNat_lt
  have high := start.registers.stackPointer.toNat_lt
  rw [cellsAbove, UInt8.toNat_sub, toNat_sub_one, toNat_sub_one]
  omega

theorem push (holds : Holds start most stack now) (room : stack.length < most)
    (limit : most ≤ 256) (value : UInt8) : Holds start most (value :: stack) (now.push value) := by
  have top := stackPointer_push now value
  constructor
  case pointer =>
    have pointer := holds.pointer
    rw [top, toNat_sub_one, List.length_cons]
    omega
  case listed =>
    have far : stack.length ≤
        (now.registers.stackPointer - 1 - now.registers.stackPointer).toNat := by
      rw [toNat_sub_one_sub]
      omega
    rw [top, List.length_cons, Memory.upward, UInt8.sub_add_cancel]
    simp only [Machine.push, Memory.get_set_self, Memory.upward_set _ value far, holds.listed]
  case spared =>
    intro x outside
    have other : now.registers.stackPointer - 1 ≠ x := by
      rintro rfl
      rw [holds.cellsAbove_next (by omega)] at outside
      omega
    exact (Memory.get_set_of_ne other now.memory value).trans (holds.spared x outside)
  case others =>
    intro r other
    exact (Registers.get_set_of_ne other.symm _ _).trans (holds.others r other)
  case course => exact holds.course.trans ⟨rfl, rfl, rfl, rfl⟩

theorem pop (holds : Holds start most (value :: stack) now) :
    now.pop.1 = value ∧ Holds start most stack now.pop.2 := by
  have top := stackPointer_pop now
  have listed := holds.listed
  rw [List.length_cons, Memory.upward] at listed
  obtain ⟨first, rest⟩ := List.cons.inj listed
  refine ⟨first, ?_⟩
  constructor
  case pointer =>
    have pointer := holds.pointer
    rw [List.length_cons] at pointer
    rw [top, toNat_add_one]
    omega
  case listed =>
    rw [top]
    exact rest
  case spared => exact holds.spared
  case others =>
    intro r other
    exact (Registers.get_set_of_ne other.symm _ _).trans (holds.others r other)
  case course => exact holds.course.trans ⟨rfl, rfl, rfl, rfl⟩

theorem serveAll {word : List StackRequest} (holds : Holds start most stack now)
    (limit : most ≤ 256) (within : StackRequest.StaysWithin stack.length most word) :
    ∃ popped stack' now', Stack.serveAll stack word = .ok (popped, stack') ∧
      Stack.serveAll now word = .ok (popped, now') ∧
      (stack'.length : Int) = stack.length + StackRequest.depth word ∧
      Holds start most stack' now' := by
  induction word generalizing stack now with
  | nil => exact ⟨[], stack, now, rfl, rfl, (Int.add_zero _).symm, holds⟩
  | cons request later ih =>
    have tail := within.tail
    have bounds := tail.bounds
    rw [StackRequest.depth_cons]
    cases request with
    | push value =>
      rw [StackRequest.change] at tail bounds ⊢
      have room : stack.length < most := by omega
      obtain ⟨popped, stack', now', listed, served, deep, held⟩ :=
        ih (holds.push room limit value) tail
      refine ⟨popped, stack', now', listed, ?_, ?_, held⟩
      · rw [Stack.serveAll_push (Stack.push_machine now value), served]
      · rw [List.length_cons] at deep
        omega
    | pop =>
      rw [StackRequest.change] at tail bounds ⊢
      obtain ⟨value, rest, rfl⟩ : ∃ value rest, stack = value :: rest := by
        refine List.exists_cons_of_ne_nil ?_
        rintro rfl
        rw [List.length_nil] at bounds
        omega
      have below : StackRequest.StaysWithin rest.length most later := by
        rwa [List.length_cons, Int.natCast_succ, Int.add_neg_cancel_right] at tail
      obtain ⟨newest, holds⟩ := holds.pop
      obtain ⟨popped, stack', now', listed, served, deep, held⟩ := ih holds below
      refine ⟨value :: popped, stack', now', ?_, ?_, ?_, held⟩
      · exact Stack.serveAll_pop rfl listed
      · rw [← newest]
        exact Stack.serveAll_pop (Stack.pop_machine now) served
      · rw [List.length_cons]
        omega

end Holds

theorem serveAll_pops (m : Machine) (count : Nat) :
    ∃ left, Stack.serveAll m (List.replicate count .pop) =
      .ok (m.memory.upward m.registers.stackPointer count, left) := by
  induction count generalizing m with
  | zero => exact ⟨m, rfl⟩
  | succ count ih =>
    obtain ⟨left, served⟩ := ih m.pop.2
    rw [stackPointer_pop] at served
    exact ⟨left, Stack.serveAll_pop (Stack.pop_machine m) served⟩

theorem serveAll_of_within (m : Machine) {past word : List StackRequest}
    (within : StackRequest.StaysWithin 0 256 word) (early : past <+: word) :
    ∃ popped stack now, Stack.serveAll ([] : List UInt8) past = .ok (popped, stack) ∧
      Stack.serveAll m past = .ok (popped, now) ∧
      (stack.length : Int) = StackRequest.depth past ∧
      Holds m (StackRequest.deepest past) stack now := by
  have fresh := holds_start m (StackRequest.deepest past)
  obtain ⟨popped, stack, now, listed, served, deep, holds⟩ :=
    fresh.serveAll (within.deepest_le early) (within.part early)
  rw [List.length_nil, Int.natCast_zero, Int.zero_add] at deep
  exact ⟨popped, stack, now, listed, served, deep, holds⟩

/-- A push onto 256 bytes goes where the oldest of them lies. -/
theorem Holds.overrun (holds : Holds start most stack now) (full : stack.length = 256)
    (value : UInt8) :
    ∃ rest oldest left, stack = rest ++ [oldest] ∧
      Stack.serveAll now (.push value :: List.replicate 257 .pop) =
        .ok (value :: (rest ++ [value]), left) := by
  have listed := holds.listed
  rw [full, Memory.upward_round] at listed
  have far : 255 ≤ (now.registers.stackPointer - 1 - now.registers.stackPointer).toNat :=
    Nat.le_of_eq (toNat_sub_one_sub _).symm
  obtain ⟨left, pops⟩ := serveAll_pops (now.push value) 257
  rw [stackPointer_push, Memory.upward, UInt8.sub_add_cancel, Memory.upward_round] at pops
  simp only [Machine.push, Memory.get_set_self, Memory.upward_set _ value far] at pops
  refine ⟨_, _, left, listed.symm, ?_⟩
  rw [Stack.serveAll_push (Stack.push_machine now value)]
  exact pops

end Machine

theorem Stack.serveAll_overrun_list {rest : List UInt8} {oldest : UInt8}
    (full : (rest ++ [oldest]).length = 256) (value : UInt8) :
    serveAll (rest ++ [oldest]) (.push value :: List.replicate 257 .pop) =
      .ok (value :: (rest ++ [oldest]), []) := by
  have length : (value :: (rest ++ [oldest])).length = 257 := congrArg (· + 1) full
  have pops := serveAll_pops_list (value :: (rest ++ [oldest]))
  rw [length] at pops
  exact (serveAll_push rfl _).trans pops

/-- Over any word whose depth stays between 0 and 256 the stack of a machine never fails, gives back
what the list gives back and holds what the list holds. With one byte more the oldest byte is lost:
when it should come back, the newest one comes back a second time. -/
theorem stack_serves_like_list (m : Machine) (word : List StackRequest)
    (within : ∀ past, past <+: word →
      0 ≤ StackRequest.depth past ∧ StackRequest.depth past ≤ 256) :
    (∀ past, past <+: word → ∃ popped stack now,
      Stack.serveAll ([] : List UInt8) past = .ok (popped, stack) ∧
        Stack.serveAll m past = .ok (popped, now) ∧
        (stack.length : Int) = StackRequest.depth past ∧
        Machine.Holds m (StackRequest.deepest past) stack now) ∧
      (StackRequest.depth word = 256 → ∀ value, ∃ popped rest oldest left,
        let later := .push value :: List.replicate 257 .pop
        Stack.serveAll ([] : List UInt8) word = .ok (popped, rest ++ [oldest]) ∧
          Stack.serveAll ([] : List UInt8) (word ++ later) =
            .ok (popped ++ value :: (rest ++ [oldest]), []) ∧
          Stack.serveAll m (word ++ later) = .ok (popped ++ value :: (rest ++ [value]), left)) ∧
      ∀ (now : Machine) value,
        Stack.push now value = .ok (now.push value) ∧ Stack.pop now = .ok now.pop := by
  have stays : StackRequest.StaysWithin 0 256 word := by
    intro past early
    rw [Int.zero_add]
    exact within past early
  refine ⟨fun past early => m.serveAll_of_within stays early, ?_,
    fun now value => ⟨Stack.push_machine now value, Stack.pop_machine now⟩⟩
  intro full value
  obtain ⟨popped, stack, now, listed, served, deep, holds⟩ :=
    m.serveAll_of_within stays (List.prefix_refl word)
  have length : stack.length = 256 := by omega
  obtain ⟨rest, oldest, left, rfl, lost⟩ := holds.overrun length value
  refine ⟨popped, rest, oldest, left, listed, ?_, ?_⟩
  · exact Stack.serveAll_append listed (Stack.serveAll_overrun_list length value)
  · exact Stack.serveAll_append served lost

def filling : List UInt8 := 1 :: List.replicate 255 2

theorem filling_loses_first :
    (∀ past, past <+: filling.map .push →
      0 ≤ StackRequest.depth past ∧ StackRequest.depth past ≤ 256) ∧
      (∃ now, Stack.serveAll Machine.initial (filling.map .push) = .ok ([], now) ∧
        Machine.Holds Machine.initial (StackRequest.deepest (filling.map .push))
          (List.replicate 255 2 ++ [1]) now) ∧
      ∃ left, Stack.serveAll Machine.initial
        (filling.map .push ++ .push 3 :: List.replicate 257 .pop) =
          .ok (3 :: (List.replicate 255 2 ++ [3]), left) := by
  have length : filling.length = 256 := by
    rw [filling, List.length_cons, List.length_replicate]
  have within : ∀ past, past <+: filling.map .push →
      0 ≤ StackRequest.depth past ∧ StackRequest.depth past ≤ 256 := by
    intro past early
    obtain ⟨values, shorter, rfl⟩ := List.prefix_map_iff.mp early
    have bound := shorter.length_le
    rw [StackRequest.depth_pushes]
    omega
  have full : StackRequest.depth (filling.map .push) = 256 := by
    rw [StackRequest.depth_pushes, length]
    rfl
  have reversed : filling.reverse = List.replicate 255 2 ++ [1] := by
    rw [filling, List.reverse_cons, List.reverse_replicate]
  have pushes := Stack.serveAll_pushes_list [] filling
  rw [List.append_nil, reversed] at pushes
  obtain ⟨holding, overrun, -⟩ :=
    stack_serves_like_list Machine.initial (filling.map .push) within
  refine ⟨within, ?_, ?_⟩
  · obtain ⟨popped, stack, now, listed, served, -, holds⟩ := holding _ (List.prefix_refl _)
    obtain ⟨rfl, rfl⟩ := Prod.mk.inj (Except.ok.inj (pushes.symm.trans listed))
    exact ⟨now, served, holds⟩
  · obtain ⟨popped, rest, oldest, left, listed, -, served⟩ := overrun full 3
    obtain ⟨rfl, same⟩ := Prod.mk.inj (Except.ok.inj (pushes.symm.trans listed))
    obtain ⟨rfl, -⟩ := List.append_inj' same rfl
    exact ⟨left, served⟩

end ByteMachine
