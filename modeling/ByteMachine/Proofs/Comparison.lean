import ByteMachine.Proofs.Lifecycle
import ByteMachine.Proofs.Moments

/-!
The flags and the comparisons. Whatever a host asks of a machine, the flags tell how the last
comparison came out that was carried out, on the values that the registers had then. Nothing else
that happens to the machine changes them.
-/
namespace ByteMachine

def comparisonBit (x y : UInt8) : UInt8 :=
  if x.toNat < y.toNat then 0b100 else if y.toNat < x.toNat then 0b010 else 0b001

namespace Machine

def compared? (m : Machine) : Option (UInt8 × UInt8) :=
  match m.executed? with
  | some ⟨.cmp, a, b⟩ => some (m.operand a, m.operand b)
  | _ => none

variable {m : Machine} {i : Instruction}

theorem Executes.compared?_of_ne (executes : m.Executes i) (other : i.opcode ≠ .cmp) :
    m.compared? = none := by
  obtain ⟨opcode, a, b⟩ := i
  unfold compared?
  rw [executed?_eq_some_iff.mpr executes]
  cases opcode with
  | cmp => contradiction
  | _ => rfl

theorem compared?_of_error {fault : Fault} (failed : m.step.result = .error fault) :
    m.compared? = none := by
  have idle : m.executed? = none := by
    cases found : m.executed? with
    | none => rfl
    | some i =>
      rw [(executed?_eq_some_iff.mp found).result_eq] at failed
      contradiction
  simp only [compared?, idle]

theorem bits_step (m : Machine) :
    m.step.machine.flags.bits =
      (m.compared?.map fun pair => comparisonBit pair.1 pair.2).getD m.flags.bits := by
  cases found : m.executed? with
  | none =>
    rw [step_of_idle found]
    simp only [compared?, found, Option.map_none, Option.getD_none]
  | some i =>
    have executes := executed?_eq_some_iff.mp found
    rw [executes.obeys.bits]
    obtain ⟨opcode, a, b⟩ := i
    by_cases comparison : opcode = .cmp
    · simp only [bitsAfter, compared?, found, comparison, comparisonBit, Option.map_some,
        Option.getD_some]
    · rw [executes.compared?_of_ne comparison]
      simp only [bitsAfter, Option.map_none, Option.getD_none]

theorem flags_step_of_none (uncompared : m.compared? = none) :
    m.step.machine.flags = m.flags := by
  apply Flags.bits_injective
  rw [bits_step, uncompared]
  rfl

def bitsThrough (before : UInt8) (comparisons : List (UInt8 × UInt8)) : UInt8 :=
  (comparisons.getLast?.map fun pair => comparisonBit pair.1 pair.2).getD before

theorem bits_append_step {past : List Machine} {before : UInt8}
    (told : m.flags.bits = bitsThrough before (past.filterMap compared?)) :
    m.step.machine.flags.bits = bitsThrough before ((past ++ [m]).filterMap compared?) := by
  rw [bits_step, List.filterMap_append]
  cases found : m.compared? with
  | none =>
    rw [List.filterMap_cons_none found, List.filterMap_nil, List.append_nil]
    exact told
  | some pair =>
    rw [List.filterMap_cons_some found, List.filterMap_nil, bitsThrough, List.getLast?_concat]
    rfl

end Machine

namespace Session

variable {σ : Type} [Sink σ]

/-- The pairs of register values that were compared while some requests were served, each as the
registers had them then. -/
def comparisons (s : Session σ) (requests : List Request) : List (UInt8 × UInt8) :=
  (s.moments requests).filterMap Machine.compared?

theorem bits_serveAll (s : Session σ) (requests : List Request) :
    (s.serveAll requests).session.machine.flags.bits =
      Machine.bitsThrough s.machine.flags.bits (s.comparisons requests) := by
  let Told (past : List Machine) (m : Machine) : Prop :=
    m.flags.bits = Machine.bitsThrough s.machine.flags.bits (past.filterMap Machine.compared?)
  have start : Told [] s.machine := rfl
  have access (past : List Machine) (m m' : Machine) (told : Told past m)
      (same : Machine.SameCourse m m') : Told past m' :=
    (congrArg Flags.bits same.flags).trans told
  exact serveAll_moments_induction start (fun _ _ told => Machine.bits_append_step told) access
    requests

theorem flags_serveAll_of_none {s : Session σ} {requests : List Request}
    (uncompared : s.comparisons requests = []) :
    (s.serveAll requests).session.machine.flags = s.machine.flags := by
  apply Flags.bits_injective
  rw [bits_serveAll, uncompared]
  rfl

structure FlagsTell (s : Session σ) (past : List Request) (now : Session σ) : Prop where
  clear : s.comparisons past = [] → now.machine.flags.bits = 0
  last : ∀ x y, (s.comparisons past).getLast? = some (x, y) →
    now.machine.flags.bits =
      if x.toNat < y.toNat then 0b100 else if y.toNat < x.toNat then 0b010 else 0b001
  kept : ∀ later, now.comparisons later = [] →
    (now.serveAll later).session.machine.flags = now.machine.flags
  other : ∀ i, now.machine.Executes i → i.opcode ≠ .cmp →
    now.machine.step.machine.flags = now.machine.flags
  failing : ∀ fault, now.machine.step.result = .error fault →
    now.machine.step.machine.flags = now.machine.flags
  access : ∀ request, ¬ request.Advances →
    (now.serve request).session.machine.flags = now.machine.flags

theorem flags_tell_last_comparison (s : Session σ) (fresh : s.machine.Fresh)
    (past : List Request) : FlagsTell s past (s.serveAll past).session := by
  have blank : s.machine.flags.bits = 0 := by
    obtain same | ⟨image, same⟩ := fresh <;> rw [same] <;> rfl
  have told := bits_serveAll s past
  rw [blank] at told
  constructor
  case clear =>
    intro uncompared
    rw [told, uncompared]
    rfl
  case last =>
    intro x y recent
    rw [told, Machine.bitsThrough, recent]
    rfl
  case kept => exact fun later uncompared => flags_serveAll_of_none uncompared
  case other =>
    intro i executes different
    exact Machine.flags_step_of_none (executes.compared?_of_ne different)
  case failing =>
    intro fault failed
    exact Machine.flags_step_of_none (Machine.compared?_of_error failed)
  case access => exact fun request access => (Machine.sameCourse_of_access access).flags

def comparing : Image := ⟨[0xA7, 0, 7, 0xA7, 0, 9], by decide⟩

def raising : List Request := [.step, .writeRegister 0 255, .step]

theorem comparing_tells_less :
    (start comparing Collector.empty).1.machine.Fresh ∧
      (start comparing Collector.empty).1.comparisons raising = [(0, 0xF3)] ∧
      ((start comparing Collector.empty).1.serveAll raising).session.machine.flags.bits = 0b100 := by
  have fresh : (start comparing Collector.empty).1.machine.Fresh := .inr ⟨comparing, rfl⟩
  have compared : (start comparing Collector.empty).1.comparisons raising = [(0, 0xF3)] := by
    decide +kernel
  have tells := flags_tell_last_comparison (start comparing Collector.empty).1 fresh raising
  have bits := tells.last 0 0xF3 (by rw [compared]; rfl)
  exact ⟨fresh, compared, bits⟩

end Session

end ByteMachine
