import ByteMachine.Proofs.Contents
import ByteMachine.Proofs.StackMatching
import ByteMachine.Proofs.Trace

/-!
How deep the stack is. While only the stack instructions move the stack pointer, it tells how many
more bytes were pushed than popped, modulo the size of the memory. The stack then stays clear of the
program it started with as long as it neither grows down to it nor, having run empty, comes round to
it from the other end of the memory.
-/
namespace ByteMachine

namespace Instruction

instance (i : Instruction) : Decidable i.Pushes :=
  inferInstanceAs (Decidable (i.opcode = .push ∨ i.opcode = .call))

instance (i : Instruction) : Decidable i.Pops :=
  inferInstanceAs (Decidable (i.opcode = .pop ∨ i.opcode = .ret))

/-- Instructions that put a value into a register put it into another one than the stack pointer.
A product goes to R0 whatever its operands are. -/
def Steady (i : Instruction) : Prop :=
  i.opcode = .ldi ∨ i.opcode = .add ∨ i.opcode = .pop → i.a.toNat ≠ 7

instance (i : Instruction) : Decidable i.Steady :=
  inferInstanceAs (Decidable (_ → _))

theorem not_pops_of_pushes {i : Instruction} (pushes : i.Pushes) : ¬ i.Pops := by
  unfold Pops
  obtain push | call := pushes
  · simp [push]
  · simp [call]

end Instruction

/-- Bytes pushed less bytes popped. A stack that is popped too often has a negative depth. -/
def depth (is : List Instruction) : Int := is.countP (·.Pushes) - is.countP (·.Pops)

def AtDepth (pointer : UInt8) (depth : Int) : Prop := (pointer.toNat : Int) = (243 - depth) % 256

theorem toNat_sub_one (x : UInt8) : (x - 1).toNat = (255 + x.toNat) % 256 := UInt8.toNat_sub x 1

theorem toNat_add_one (x : UInt8) : (x + 1).toNat = (x.toNat + 1) % 256 := UInt8.toNat_add x 1

theorem depth_nil : depth [] = 0 := rfl

theorem depth_append (is js : List Instruction) : depth (is ++ js) = depth is + depth js := by
  simp only [depth, List.countP_append]
  omega

namespace AtDepth

variable {pointer : UInt8} {d : Int}

theorem start : AtDepth Registers.stackStart 0 := rfl

theorem lower (level : AtDepth pointer d) : AtDepth (pointer - 1) (d + 1) := by
  have bound := pointer.toNat_lt
  have moved := toNat_sub_one pointer
  unfold AtDepth at level ⊢
  omega

theorem raise (level : AtDepth pointer d) : AtDepth (pointer + 1) (d - 1) := by
  have bound := pointer.toNat_lt
  have moved := toNat_add_one pointer
  unfold AtDepth at level ⊢
  omega

theorem code_le {size : Nat} (level : AtDepth pointer d) (above : -12 ≤ d)
    (below : d ≤ 243 - size) : size ≤ pointer.toNat := by
  unfold AtDepth at level
  omega

end AtDepth

namespace Machine

variable {m : Machine} {i : Instruction} {n : Nat}

theorem Executes.stackPointer_eq (executes : m.Executes i) (steady : i.Steady) :
    m.step.machine.registers.stackPointer =
      if i.Pushes then m.registers.stackPointer - 1
      else if i.Pops then m.registers.stackPointer + 1 else m.registers.stackPointer := by
  rw [Registers.stackPointer, executes.obeys.register]
  obtain ⟨opcode, a, b⟩ := i
  cases opcode with
  | hlt | prn | mul | cmp | push | call | ret => rfl
  | ldi =>
    have other : 7 ≠ a.toNat := (steady (.inl rfl)).symm
    exact if_neg other
  | add =>
    have other : 7 ≠ a.toNat := (steady (.inr (.inl rfl))).symm
    exact if_neg other
  | pop =>
    have other : a.toNat ≠ 7 := steady (.inr (.inr rfl))
    exact congrArg (· + 1) (if_neg other)

theorem depth_singleton (i : Instruction) :
    depth [i] = if i.Pushes then 1 else if i.Pops then -1 else 0 := by
  by_cases pushes : i.Pushes
  · simp [depth, pushes, Instruction.not_pops_of_pushes pushes]
  · by_cases pops : i.Pops <;> simp [depth, pushes, pops]

theorem Executes.level_step {d : Int} (executes : m.Executes i) (steady : i.Steady)
    (level : AtDepth m.registers.stackPointer d) :
    AtDepth m.step.machine.registers.stackPointer (d + depth [i]) := by
  rw [executes.stackPointer_eq steady, depth_singleton]
  by_cases pushes : i.Pushes
  · rw [if_pos pushes, if_pos pushes]
    exact level.lower
  · rw [if_neg pushes, if_neg pushes]
    by_cases pops : i.Pops
    · rw [if_pos pops, if_pos pops]
      exact level.raise
    · rw [if_neg pops, if_neg pops, Int.add_zero]
      exact level

theorem level_after (level : AtDepth m.registers.stackPointer 0)
    (steady : ∀ i ∈ m.trace n, i.Steady) :
    AtDepth (m.after n).registers.stackPointer (depth (m.trace n)) := by
  induction n with
  | zero => exact level
  | succ n ih =>
    rw [trace_succ_last] at steady ⊢
    have before := ih fun i earlier => steady i (List.mem_append_left _ earlier)
    rw [after_succ_last, depth_append]
    cases found : (m.after n).executed? with
    | none =>
      rw [step_of_idle found]
      simpa [depth_nil] using before
    | some i =>
      have executes := executed?_eq_some_iff.mp found
      exact executes.level_step (steady i (by simp [found])) before

/-- After every instruction of the first `n` steps the stack lies between a program of the given
size and the end of the memory, with room for thirteen bytes above where it started. -/
def StaysClear (m : Machine) (n size : Nat) : Prop :=
  ∀ k < n, ∀ i, (m.after k).Executes i →
    -13 ≤ depth (m.trace (k + 1)) ∧ depth (m.trace (k + 1)) ≤ 243 - size

theorem StaysClear.mono {k size : Nat} (clear : m.StaysClear n size) (earlier : k ≤ n) :
    m.StaysClear k size := fun j before => clear j (Nat.lt_of_lt_of_le before earlier)

theorem StaysClear.depth_ge {size : Nat} (clear : m.StaysClear n size) :
    -13 ≤ depth (m.trace n) := by
  induction n with
  | zero =>
    rw [trace_zero, depth_nil]
    decide
  | succ n ih =>
    cases found : (m.after n).executed? with
    -- The bounds say nothing about a step that carries out no instruction: it keeps the depth.
    | none =>
      rw [trace_succ_last, found, Option.toList_none, List.append_nil]
      exact ih (clear.mono (Nat.le_succ n))
    | some i => exact (clear n (Nat.lt_succ_self n) i (executed?_eq_some_iff.mp found)).1

/-- A push stores at a depth of at least -12, because nothing before it was deeper than one less.
So what it stores lands past the program. -/
theorem StaysClear.size_le {k size : Nat} (clear : m.StaysClear n size)
    (level : AtDepth m.registers.stackPointer 0) (steady : ∀ i ∈ m.trace n, i.Steady)
    (within : k < n) (executes : (m.after k).Executes i) (pushes : i.Pushes) :
    size ≤ ((m.after k).registers.stackPointer - 1).toNat := by
  have deep := (clear.mono (Nat.le_of_lt within)).depth_ge
  have found := executed?_eq_some_iff.mpr executes
  have grown : depth (m.trace (k + 1)) = depth (m.trace k) + 1 := by
    rw [trace_succ_last, depth_append, found, Option.toList_some, depth_singleton, if_pos pushes]
  have shallow := (clear k within i executes).2
  have before : AtDepth (m.after k).registers.stackPointer (depth (m.trace k)) := by
    refine level_after level fun j earlier => steady j ?_
    obtain ⟨l, before, executed⟩ := mem_trace_iff.mp earlier
    exact mem_trace_iff.mpr ⟨l, Nat.lt_trans before within, executed⟩
  exact before.lower.code_le (by omega) (by omega)

/-- The stack pointer tells how many more bytes were pushed than popped. While the stack stays clear
of the image, the image stays in memory, and whatever is executed within it is what the image holds
there. -/
theorem stackPointer_tells_depth (image : Image) (n : Nat)
    (steady : ∀ i ∈ (ofImage image).trace n, i.Steady) :
    let m := ofImage image
    ((m.after n).registers.stackPointer.toNat : Int) = (243 - depth (m.trace n)) % 256 ∧
      (m.StaysClear n image.length →
        image.bytes <+: (m.after n).memory.toList ∧
          ∀ i, (m.after n).Executes i → (m.after n).pc + i.opcode.length ≤ image.length →
            Instruction.decode (image.bytes.drop (m.after n).pc) = .ok i) := by
  intro m
  have start : AtDepth m.registers.stackPointer 0 := .start
  refine ⟨level_after start steady, fun clear => ?_⟩
  have kept : image.bytes <+: (m.after n).memory.toList := by
    refine Memory.starts_of_same (Memory.starts_load .zero image) fun x inside => ?_
    refine cell_after fun k within i executes pushes same => ?_
    have past := clear.size_le start steady within executes pushes
    rw [same] at past
    exact absurd inside (Nat.not_lt.mpr past)
  refine ⟨kept, fun i executes within => ?_⟩
  exact Instruction.decode_drop_of_starts kept executes.decoded within

def poppingFirst : Image := ⟨[0x46, 1, 0x45, 0, 0x01], by decide⟩

theorem poppingFirst_stays :
    (∀ i ∈ (ofImage poppingFirst).trace 2, i.Steady) ∧
      (ofImage poppingFirst).StaysClear 2 poppingFirst.length ∧
      AtDepth ((ofImage poppingFirst).after 2).registers.stackPointer 0 ∧
      poppingFirst.bytes <+: ((ofImage poppingFirst).after 2).memory.toList := by
  have one : (ofImage poppingFirst).trace 1 = [⟨.pop, 1, 0⟩] := by decide +kernel
  have two : (ofImage poppingFirst).trace 2 = [⟨.pop, 1, 0⟩, ⟨.push, 0, 0⟩] := by decide +kernel
  have steady : ∀ i ∈ (ofImage poppingFirst).trace 2, i.Steady := by
    rw [two]
    decide
  have clear : (ofImage poppingFirst).StaysClear 2 poppingFirst.length := by
    intro k within i executes
    obtain rfl | rfl : k = 0 ∨ k = 1 := by omega
    · rw [one]
      decide
    · rw [two]
      decide
  obtain ⟨level, kept⟩ := stackPointer_tells_depth poppingFirst 2 steady
  rw [two] at level
  exact ⟨steady, clear, level, (kept clear).1⟩

end Machine

end ByteMachine
