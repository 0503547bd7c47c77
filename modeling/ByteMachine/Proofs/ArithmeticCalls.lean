import ByteMachine.Execution.Arithmetic
import ByteMachine.Proofs.CheckedStores
import ByteMachine.Proofs.Comparison

/-!
Arithmetic asked for directly, on registers given by numbers of any size. A call with a number out
of range is refused and changes nothing. Every other call looks at both registers first: a sum then
goes to the first of them, a product to R0, and a comparison changes the flags alone. So the flags
tell the last comparison that was not refused, and the registers come from the sums and products.
-/
namespace ByteMachine

structure ArithmeticCall where
  operation : Operation
  a : Nat
  b : Nat
  deriving DecidableEq, Repr

structure ArithmeticUnit where
  registers : Registers
  flags : Flags
  deriving DecidableEq, Repr

namespace ArithmeticCall

variable (call : ArithmeticCall)

def Named : Prop := call.a < registerCount ∧ call.b < registerCount

instance : Decidable call.Named := inferInstanceAs (Decidable (_ ∧ _))

def refusal : Fault :=
  .registerOutOfRange (if call.a < registerCount then call.b else call.a) .read

def Compares : Prop := call.Named ∧ call.operation = .compare

def Changes : Prop := call.Named ∧ call.operation ≠ .compare

instance : Decidable call.Changes := inferInstanceAs (Decidable (_ ∧ _))

def changing (calls : List ArithmeticCall) : List ArithmeticCall :=
  calls.filter fun call => call.Changes

end ArithmeticCall

namespace Operation

variable {operation : Operation} {a b : Nat}

theorem applyAt_of_named (first : a < registerCount) (second : b < registerCount)
    (registers : Registers) (flags : Flags) :
    operation.applyAt a b registers flags =
      .ok (operation.apply ⟨a, first⟩ ⟨b, second⟩ registers flags) := by
  rw [applyAt, Register.ofIndex_of_lt first, Register.ofIndex_of_lt second]
  rfl

theorem applyAt_of_first (outside : registerCount ≤ a) (registers : Registers) (flags : Flags) :
    operation.applyAt a b registers flags = .error (.registerOutOfRange a .read) := by
  rw [applyAt, Register.ofIndex_of_le outside]
  rfl

theorem applyAt_of_second (first : a < registerCount) (outside : registerCount ≤ b)
    (registers : Registers) (flags : Flags) :
    operation.applyAt a b registers flags = .error (.registerOutOfRange b .read) := by
  rw [applyAt, Register.ofIndex_of_lt first, Register.ofIndex_of_le outside]
  rfl

end Operation

/-- The arithmetic of a machine is a call with the operand bytes of the instruction: it is refused
when the call is, and leaves the registers and flags that the call leaves. -/
theorem Instruction.resolveArithmetic_eq_applyAt (i : Instruction) (operation : Operation)
    (m : Machine) (next : Nat) :
    (i.resolveArithmetic operation).map
        (fun action => ((m.perform next action).registers, (m.perform next action).flags)) =
      operation.applyAt i.a.toNat i.b.toNat m.registers m.flags := by
  rw [resolveArithmetic, Operation.applyAt]
  cases Register.ofIndex .read i.a.toNat with
  | error fault => rfl
  | ok a =>
    cases Register.ofIndex .read i.b.toNat with
    | error fault => rfl
    | ok b => cases operation <;> rfl

theorem Registers.read_set_val (registers : Registers) (r : Register) (value : UInt8)
    (index : Nat) :
    (registers.set r value).read index =
      if index = r.val then .ok value else registers.read index := by
  by_cases inside : index < registerCount
  · rw [read_set registers value r.isLt inside]
    simp only [eq_comm]
  · have outside := Nat.le_of_not_lt inside
    have other : index ≠ r.val := by
      have bound := r.isLt
      omega
    rw [if_neg other, read_of_le _ outside, read_of_le _ outside]

namespace ArithmeticUnit

def serve (u : ArithmeticUnit) (call : ArithmeticCall) : ArithmeticUnit × Except Fault Unit :=
  match call.operation.applyAt call.a call.b u.registers u.flags with
  | .ok (registers, flags) => (⟨registers, flags⟩, .ok ())
  | .error fault => (u, .error fault)

def after (u : ArithmeticUnit) (calls : List ArithmeticCall) : ArithmeticUnit :=
  calls.foldl (fun u call => (u.serve call).1) u

structure Computed (call : ArithmeticCall) (x y : UInt8) (u u' : ArithmeticUnit) : Prop where
  add : call.operation = .add → u'.flags = u.flags ∧ ∀ index, u'.registers.read index =
    if index = call.a then .ok (UInt8.ofNat (x.toNat + y.toNat)) else u.registers.read index
  multiply : call.operation = .multiply → u'.flags = u.flags ∧ ∀ index, u'.registers.read index =
    if index = 0 then .ok (UInt8.ofNat (x.toNat * y.toNat)) else u.registers.read index
  compare : call.operation = .compare →
    u'.registers = u.registers ∧ u'.flags.bits = comparisonBit x y

structure Answers (u : ArithmeticUnit) (call : ArithmeticCall) : Prop where
  reply : (u.serve call).2 = if call.Named then .ok () else .error call.refusal
  refused : ¬ call.Named → (u.serve call).1 = u
  computed : call.Named → ∃ x y, u.registers.read call.a = .ok x ∧
    u.registers.read call.b = .ok y ∧ Computed call x y u (u.serve call).1

variable {u v : ArithmeticUnit} {call : ArithmeticCall}

theorem serve_of_named (named : call.Named) (u : ArithmeticUnit) :
    let computed := call.operation.apply ⟨call.a, named.1⟩ ⟨call.b, named.2⟩ u.registers u.flags
    u.serve call = (⟨computed.1, computed.2⟩, .ok ()) := by
  simp only [serve, Operation.applyAt_of_named named.1 named.2]

theorem serve_of_unnamed (unnamed : ¬ call.Named) (u : ArithmeticUnit) :
    u.serve call = (u, .error call.refusal) := by
  by_cases first : call.a < registerCount
  · have second : registerCount ≤ call.b := by
      by_contra inside
      exact unnamed ⟨first, Nat.lt_of_not_le inside⟩
    simp only [serve, Operation.applyAt_of_second first second, ArithmeticCall.refusal, if_pos first]
  · have outside := Nat.le_of_not_lt first
    simp only [serve, Operation.applyAt_of_first outside, ArithmeticCall.refusal, if_neg first]

theorem computed_serve (named : call.Named) (u : ArithmeticUnit) :
    Computed call (u.registers.get ⟨call.a, named.1⟩) (u.registers.get ⟨call.b, named.2⟩) u
      (u.serve call).1 := by
  rw [serve_of_named named]
  constructor
  case add =>
    intro sum
    simp only [sum, Operation.apply]
    refine ⟨trivial, fun index => ?_⟩
    rw [Registers.read_set_val, UInt8.ofNat_add, UInt8.ofNat_toNat, UInt8.ofNat_toNat]
  case multiply =>
    intro product
    simp only [product, Operation.apply]
    refine ⟨trivial, fun index => ?_⟩
    rw [Registers.read_set_val, UInt8.ofNat_mul, UInt8.ofNat_toNat, UInt8.ofNat_toNat]
    rfl
  case compare =>
    intro comparison
    simp only [comparison, Operation.apply]
    exact ⟨trivial, Flags.bits_ofComparison _ _⟩

theorem answers (u : ArithmeticUnit) (call : ArithmeticCall) : u.Answers call := by
  by_cases named : call.Named
  · constructor
    case reply => rw [serve_of_named named, if_pos named]
    case refused => exact fun unnamed => absurd named unnamed
    case computed =>
      intro _
      exact ⟨_, _, u.registers.read_of_lt named.1, u.registers.read_of_lt named.2,
        computed_serve named u⟩
  · have served := serve_of_unnamed named u
    constructor
    case reply => rw [served, if_neg named]
    case refused => exact fun _ => congrArg Prod.fst served
    case computed => exact fun named' => absurd named' named

theorem flags_serve (idle : ¬ call.Compares) (u : ArithmeticUnit) :
    (u.serve call).1.flags = u.flags := by
  by_cases named : call.Named
  · have computed := computed_serve named u
    cases operation : call.operation with
    | add => exact (computed.add operation).1
    | multiply => exact (computed.multiply operation).1
    | compare => exact absurd ⟨named, operation⟩ idle
  · rw [serve_of_unnamed named]

theorem registers_serve (idle : ¬ call.Changes) (u : ArithmeticUnit) :
    (u.serve call).1.registers = u.registers := by
  by_cases named : call.Named
  · have comparison : call.operation = .compare := by
      by_contra other
      exact idle ⟨named, other⟩
    exact ((computed_serve named u).compare comparison).1
  · rw [serve_of_unnamed named]

theorem registers_serve_congr (same : u.registers = v.registers) (call : ArithmeticCall) :
    (u.serve call).1.registers = (v.serve call).1.registers := by
  by_cases named : call.Named
  · rw [serve_of_named named, serve_of_named named, same]
    cases call.operation <;> rfl
  · rw [serve_of_unnamed named, serve_of_unnamed named]
    exact same

theorem after_append (u : ArithmeticUnit) (past later : List ArithmeticCall) :
    u.after (past ++ later) = (u.after past).after later := List.foldl_append

theorem flags_after {calls : List ArithmeticCall} (idle : ∀ call ∈ calls, ¬ call.Compares)
    (u : ArithmeticUnit) : (u.after calls).flags = u.flags := by
  induction calls generalizing u with
  | nil => rfl
  | cons call later ih =>
    have first := flags_serve (idle call List.mem_cons_self) u
    have rest := ih (fun c member => idle c (List.mem_cons_of_mem _ member)) (u.serve call).1
    exact rest.trans first

theorem registers_after (same : u.registers = v.registers) (calls : List ArithmeticCall) :
    (u.after calls).registers = (v.after (ArithmeticCall.changing calls)).registers := by
  induction calls generalizing u v with
  | nil => exact same
  | cons call later ih =>
    by_cases changes : call.Changes
    · have kept : ArithmeticCall.changing (call :: later) =
          call :: ArithmeticCall.changing later := List.filter_cons_of_pos (decide_eq_true changes)
      rw [kept]
      exact ih (registers_serve_congr same call)
    · have dropped : ArithmeticCall.changing (call :: later) = ArithmeticCall.changing later :=
        List.filter_cons_of_neg (by simpa using changes)
      rw [dropped]
      exact ih ((registers_serve changes u).trans same)

theorem bits_after {past later : List ArithmeticCall} (compares : call.Compares)
    (last : ∀ c ∈ later, ¬ c.Compares) (u : ArithmeticUnit) :
    ∃ x y, (u.after past).registers.read call.a = .ok x ∧
      (u.after past).registers.read call.b = .ok y ∧
      (u.after (past ++ call :: later)).flags.bits = comparisonBit x y := by
  obtain ⟨x, y, first, second, computed⟩ := (answers (u.after past) call).computed compares.1
  refine ⟨x, y, first, second, ?_⟩
  rw [after_append]
  change (((u.after past).serve call).1.after later).flags.bits = comparisonBit x y
  rw [flags_after last]
  exact (computed.compare compares.2).2

/-- After any calls every further call is answered by the same law. The flags tell the last
comparison carried out and stay as they were if there was none, and the registers depend on nothing
but what they held at first and the sums and products carried out. -/
theorem calls_determine_unit (u : ArithmeticUnit) (calls : List ArithmeticCall) :
    (∀ call, (u.after calls).Answers call) ∧
      ((∀ call ∈ calls, ¬ call.Compares) → (u.after calls).flags = u.flags) ∧
      (∀ past call later, calls = past ++ call :: later → call.Compares →
        (∀ c ∈ later, ¬ c.Compares) →
          ∃ x y, (u.after past).registers.read call.a = .ok x ∧
            (u.after past).registers.read call.b = .ok y ∧
            (u.after calls).flags.bits = comparisonBit x y) ∧
      ∀ (v : ArithmeticUnit) (calls' : List ArithmeticCall), u.registers = v.registers →
        ArithmeticCall.changing calls = ArithmeticCall.changing calls' →
          (u.after calls).registers = (v.after calls').registers := by
  refine ⟨answers _, fun idle => flags_after idle u, ?_, ?_⟩
  · rintro past call later rfl compares last
    exact bits_after compares last u
  · intro v calls' same alike
    rw [registers_after same calls, alike, ← registers_after rfl calls']

-- The stack pointer doubles, its product with itself goes to R0, and the comparison is refused.
example :
    let calls : List ArithmeticCall := [⟨.add, 7, 7⟩, ⟨.multiply, 7, 7⟩, ⟨.compare, 0, 2 ^ 64⟩]
    ((⟨.initial, .clear⟩ : ArithmeticUnit).after calls).registers.toList =
      [164, 0, 0, 0, 0, 0, 0, 230] := by
  decide +kernel

end ArithmeticUnit

end ByteMachine
