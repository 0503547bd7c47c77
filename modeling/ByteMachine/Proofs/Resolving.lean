import ByteMachine.Execution.Action

/-!
How the operands of an instruction resolve. Each instruction has one action, and the only thing
that can stand in the way, apart from a return address, is an operand that names no register.
-/
namespace ByteMachine

theorem bind_eq_ok_iff {ε α β : Type} {first : Except ε α} {second : α → Except ε β} {b : β} :
    first >>= second = .ok b ↔ ∃ a, first = .ok a ∧ second a = .ok b := by
  cases first with
  | error e =>
    constructor
    · intro ok
      contradiction
    · rintro ⟨a, ok, -⟩
      contradiction
  | ok a =>
    constructor
    · intro ok
      exact ⟨a, rfl, ok⟩
    · rintro ⟨a', same, ok⟩
      obtain rfl := Except.ok.inj same
      exact ok

namespace Register

theorem ofIndex_eq_ok_iff {access : Access} {index : Nat} {r : Register} :
    ofIndex access index = .ok r ↔ r.val = index := by
  by_cases inside : index < registerCount
  · rw [ofIndex_of_lt inside, Except.ok.injEq, Fin.ext_iff]
    exact eq_comm
  · have := r.isLt
    rw [ofIndex_of_le (Nat.not_lt.mp inside)]
    simp only [reduceCtorEq, false_iff]
    omega

theorem ofIndex_eq_error_iff {access : Access} {index : Nat} {fault : Fault} :
    ofIndex access index = .error fault ↔
      registerCount ≤ index ∧ .registerOutOfRange index access = fault := by
  by_cases inside : index < registerCount
  · rw [ofIndex_of_lt inside]
    simp only [reduceCtorEq, false_iff]
    omega
  · rw [ofIndex_of_le (Nat.not_lt.mp inside)]
    simp only [Except.error.injEq, iff_and_self]
    omega

end Register

theorem returnAddress_eq_ok_iff {address : Nat} {back : UInt8} :
    returnAddress address = .ok back ↔ address < memorySize ∧ UInt8.ofNat address = back := by
  by_cases inside : address < memorySize <;> simp [returnAddress, inside]

theorem returnAddress_eq_error_iff {address : Nat} {fault : Fault} :
    returnAddress address = .error fault ↔
      memorySize ≤ address ∧ .addressOutOfRange address .write = fault := by
  by_cases inside : address < memorySize
  · simp only [returnAddress, if_pos inside, reduceCtorEq, false_iff]
    omega
  · simp [returnAddress, inside, Nat.not_lt.mp inside]

inductive Resolves (address : Nat) : Instruction → Action → Prop where
  | hlt (a b : UInt8) : Resolves address ⟨.hlt, a, b⟩ .halt
  | ret (a b : UInt8) : Resolves address ⟨.ret, a, b⟩ .ret
  | ldi {a : UInt8} (b : UInt8) {r : Register} (names : r.val = a.toNat) :
      Resolves address ⟨.ldi, a, b⟩ (.assign r b)
  | prn {a : UInt8} (b : UInt8) {r : Register} (names : r.val = a.toNat) :
      Resolves address ⟨.prn, a, b⟩ (.emit r)
  | add {a b : UInt8} {r q : Register} (names : r.val = a.toNat) (names' : q.val = b.toNat) :
      Resolves address ⟨.add, a, b⟩ (.compute .add r q)
  | mul {a b : UInt8} {r q : Register} (names : r.val = a.toNat) (names' : q.val = b.toNat) :
      Resolves address ⟨.mul, a, b⟩ (.compute .multiply r q)
  | cmp {a b : UInt8} {r q : Register} (names : r.val = a.toNat) (names' : q.val = b.toNat) :
      Resolves address ⟨.cmp, a, b⟩ (.compute .compare r q)
  | push {a : UInt8} (b : UInt8) {r : Register} (names : r.val = a.toNat) :
      Resolves address ⟨.push, a, b⟩ (.push r)
  | pop {a : UInt8} (b : UInt8) {r : Register} (names : r.val = a.toNat) :
      Resolves address ⟨.pop, a, b⟩ (.pop r)
  | call {a : UInt8} (b : UInt8) {r : Register} (names : r.val = a.toNat)
      (fits : address + 2 < memorySize) :
      Resolves address ⟨.call, a, b⟩ (.call r (UInt8.ofNat (address + 2)))

namespace Instruction

theorem resolveArithmetic_eq_ok_iff {i : Instruction} {operation : Operation} {action : Action} :
    i.resolveArithmetic operation = .ok action ↔
      ∃ r q : Register, r.val = i.a.toNat ∧ q.val = i.b.toNat ∧
        .compute operation r q = action := by
  simp only [resolveArithmetic, bind_eq_ok_iff, Register.ofIndex_eq_ok_iff]
  constructor
  · rintro ⟨r, names, q, names', resolved⟩
    exact ⟨r, q, names, names', Except.ok.inj resolved⟩
  · rintro ⟨r, q, names, names', rfl⟩
    exact ⟨r, names, q, names', rfl⟩

theorem map_ofIndex_eq_ok_iff {access : Access} {index : Nat} {f : Register → Action}
    {action : Action} :
    (Register.ofIndex access index).map f = .ok action ↔
      ∃ r : Register, r.val = index ∧ f r = action := by
  cases named : Register.ofIndex access index with
  | ok r =>
    have names := Register.ofIndex_eq_ok_iff.mp named
    simp only [Except.map, Except.ok.injEq]
    exact ⟨fun same => ⟨r, names, same⟩, fun ⟨q, names', same⟩ =>
      Fin.ext (names.trans names'.symm) ▸ same⟩
  | error fault =>
    simp only [Except.map, reduceCtorEq, false_iff, not_exists, not_and]
    intro r names
    rw [Register.ofIndex_eq_ok_iff.mpr names] at named
    contradiction

theorem resolves_of_resolve {i : Instruction} {address : Nat} {action : Action}
    (resolved : i.resolve address = .ok action) : Resolves address i action := by
  obtain ⟨opcode, a, b⟩ := i
  cases opcode with
  | hlt =>
    obtain rfl := Except.ok.inj resolved
    exact .hlt a b
  | ret =>
    obtain rfl := Except.ok.inj resolved
    exact .ret a b
  | ldi =>
    obtain ⟨r, names, rfl⟩ := map_ofIndex_eq_ok_iff.mp resolved
    exact .ldi b names
  | prn =>
    obtain ⟨r, names, rfl⟩ := map_ofIndex_eq_ok_iff.mp resolved
    exact .prn b names
  | push =>
    obtain ⟨r, names, rfl⟩ := map_ofIndex_eq_ok_iff.mp resolved
    exact .push b names
  | pop =>
    obtain ⟨r, names, rfl⟩ := map_ofIndex_eq_ok_iff.mp resolved
    exact .pop b names
  | add =>
    obtain ⟨r, q, names, names', rfl⟩ := resolveArithmetic_eq_ok_iff.mp resolved
    exact .add names names'
  | mul =>
    obtain ⟨r, q, names, names', rfl⟩ := resolveArithmetic_eq_ok_iff.mp resolved
    exact .mul names names'
  | cmp =>
    obtain ⟨r, q, names, names', rfl⟩ := resolveArithmetic_eq_ok_iff.mp resolved
    exact .cmp names names'
  | call =>
    simp only [resolve, bind_eq_ok_iff, Register.ofIndex_eq_ok_iff, returnAddress_eq_ok_iff]
      at resolved
    obtain ⟨r, names, back, ⟨fits, rfl⟩, resolved⟩ := resolved
    obtain rfl := Except.ok.inj resolved
    exact .call b names fits

end Instruction

def Instruction.registerOperands (i : Instruction) : List UInt8 :=
  match i.opcode with
  | .hlt | .ret => []
  | .ldi | .prn | .push | .pop | .call => [i.a]
  | .add | .mul | .cmp => [i.a, i.b]

def Instruction.badOperand? (i : Instruction) : Option UInt8 :=
  i.registerOperands.find? fun x => registerCount ≤ x.toNat

def Opcode.registerAccess : Opcode → Access
  | .ldi | .pop => .write
  | _ => .read

inductive Refuses (address : Nat) (i : Instruction) : Fault → Prop where
  | register {x : UInt8} (bad : i.badOperand? = some x) :
      Refuses address i (.registerOutOfRange x.toNat i.opcode.registerAccess)
  | back (call : i.opcode = .call) (named : i.badOperand? = none)
      (far : memorySize ≤ address + 2) : Refuses address i (.addressOutOfRange (address + 2) .write)

namespace Instruction

variable {i : Instruction} {address : Nat} {fault : Fault}

theorem refuses_iff_of_bad {x : UInt8} (bad : i.badOperand? = some x) :
    Refuses address i fault ↔ .registerOutOfRange x.toNat i.opcode.registerAccess = fault := by
  constructor
  · intro refuses
    cases refuses with
    | register bad' =>
      obtain rfl := Option.some.inj (bad.symm.trans bad')
      rfl
    | back call named => rw [bad] at named; contradiction
  · rintro rfl
    exact .register bad

theorem refuses_iff_of_named (named : i.badOperand? = none) :
    Refuses address i fault ↔
      i.opcode = .call ∧ memorySize ≤ address + 2 ∧
        .addressOutOfRange (address + 2) .write = fault := by
  constructor
  · intro refuses
    cases refuses with
    | register bad => rw [bad] at named; contradiction
    | back call _ far => exact ⟨call, far, rfl⟩
  · rintro ⟨call, far, rfl⟩
    exact .back call named far

theorem badOperand?_single (one : i.registerOperands = [i.a]) :
    i.badOperand? = if registerCount ≤ i.a.toNat then some i.a else none := by
  by_cases large : registerCount ≤ i.a.toNat <;> simp [badOperand?, one, large]

theorem badOperand?_pair (two : i.registerOperands = [i.a, i.b]) :
    i.badOperand? =
      if registerCount ≤ i.a.toNat then some i.a
      else if registerCount ≤ i.b.toNat then some i.b else none := by
  by_cases large : registerCount ≤ i.a.toNat <;>
    by_cases large' : registerCount ≤ i.b.toNat <;>
      simp [badOperand?, two, large, large']

theorem map_ofIndex_eq_error_iff {access : Access} {index : Nat} {f : Register → Action} :
    (Register.ofIndex access index).map f = .error fault ↔
      registerCount ≤ index ∧ .registerOutOfRange index access = fault := by
  rw [← Register.ofIndex_eq_error_iff]
  cases Register.ofIndex access index <;> simp [Except.map]

theorem single_eq_error_iff (f : Register → Action) (one : i.registerOperands = [i.a])
    (plain : i.opcode ≠ .call) :
    (Register.ofIndex i.opcode.registerAccess i.a.toNat).map f = .error fault ↔
      Refuses address i fault := by
  rw [map_ofIndex_eq_error_iff]
  by_cases large : registerCount ≤ i.a.toNat
  · rw [refuses_iff_of_bad ((badOperand?_single one).trans (if_pos large))]
    simp only [large, true_and]
  · rw [refuses_iff_of_named ((badOperand?_single one).trans (if_neg large))]
    simp only [large, plain, false_and]

theorem resolveArithmetic_eq_error_iff (operation : Operation)
    (two : i.registerOperands = [i.a, i.b]) (wants : i.opcode.registerAccess = .read)
    (plain : i.opcode ≠ .call) :
    i.resolveArithmetic operation = .error fault ↔ Refuses address i fault := by
  have bad := badOperand?_pair two
  by_cases large : registerCount ≤ i.a.toNat
  · rw [refuses_iff_of_bad (bad.trans (if_pos large)), wants]
    simp [resolveArithmetic, Register.ofIndex_of_le large, bind, Except.bind]
  · rw [if_neg large] at bad
    by_cases large' : registerCount ≤ i.b.toNat
    · rw [refuses_iff_of_bad (bad.trans (if_pos large')), wants]
      simp [resolveArithmetic, Register.ofIndex_of_lt (Nat.not_le.mp large),
        Register.ofIndex_of_le large', bind, Except.bind]
    · rw [refuses_iff_of_named (bad.trans (if_neg large'))]
      simp [resolveArithmetic, Register.ofIndex_of_lt (Nat.not_le.mp large),
        Register.ofIndex_of_lt (Nat.not_le.mp large'), bind, Except.bind, plain, pure, Except.pure]

theorem resolve_call_eq_error_iff {a b : UInt8} :
    resolve ⟨.call, a, b⟩ address = .error fault ↔ Refuses address ⟨.call, a, b⟩ fault := by
  have bad := badOperand?_single (i := ⟨.call, a, b⟩) rfl
  by_cases large : registerCount ≤ a.toNat
  · rw [refuses_iff_of_bad (bad.trans (if_pos large))]
    simp [resolve, Register.ofIndex_of_le large, bind, Except.bind, Opcode.registerAccess]
  · rw [refuses_iff_of_named (bad.trans (if_neg large))]
    have length : Opcode.call.length = 2 := rfl
    simp only [resolve, Register.ofIndex_of_lt (Nat.not_le.mp large), bind, Except.bind,
      true_and, length, ← returnAddress_eq_error_iff]
    cases returnAddress (address + 2) with
    | error e => simp only [Except.error.injEq]
    | ok back => simp [pure, Except.pure]

theorem resolve_eq_error_iff : i.resolve address = .error fault ↔ Refuses address i fault := by
  obtain ⟨opcode, a, b⟩ := i
  cases opcode with
  | hlt | ret => rw [refuses_iff_of_named rfl]; simp [resolve]
  | ldi | prn | push | pop => exact single_eq_error_iff _ rfl (by simp)
  | add | mul | cmp => exact resolveArithmetic_eq_error_iff _ rfl rfl (by simp)
  | call => exact resolve_call_eq_error_iff

theorem badOperand?_of_resolve {action : Action} (resolved : i.resolve address = .ok action) :
    i.badOperand? = none := by
  cases bad : i.badOperand? with
  | none => rfl
  | some x =>
    rw [resolve_eq_error_iff.mpr (.register bad)] at resolved
    contradiction

theorem badOperand?_eq_none (named : ∀ x ∈ i.registerOperands, x.toNat < registerCount) :
    i.badOperand? = none := by
  apply List.find?_eq_none.mpr
  intro x member
  have small := named x member
  simp only [decide_eq_true_eq]
  omega

theorem resolve_of_named (named : i.badOperand? = none)
    (back : i.opcode = .call → address + 2 < memorySize) :
    ∃ action, i.resolve address = .ok action := by
  cases resolved : i.resolve address with
  | ok action => exact ⟨action, rfl⟩
  | error fault =>
    cases resolve_eq_error_iff.mp resolved with
    | register bad =>
      rw [named] at bad
      contradiction
    | back call _ far =>
      have near := back call
      omega

end Instruction

end ByteMachine
