import ByteMachine.Proofs.Faulting
import ByteMachine.Proofs.Requests

/-!
The life of a machine under a host that may ask for anything in any order. The program counter stays
in the memory or just past it, the machine stops at most once and for good, the counter of steps
counts what was carried out, and a stored fault is one of a few kinds.
-/
namespace ByteMachine

inductive Fault.Possible : Fault → Prop where
  | unknown {x : UInt8} {address : Nat} (foreign : NoOpcode x) (inside : address ≤ 255) :
      Possible (.unknownInstruction x address)
  | register {index : Nat} {access : Access} (least : 8 ≤ index) (most : index ≤ 255)
      (wanted : access = .read ∨ access = .write) : Possible (.registerOutOfRange index access)
  | address {access : Access} (wanted : access = .fetch ∨ access = .write) :
      Possible (.addressOutOfRange 256 access)

theorem Opcode.registerAccess_cases (opcode : Opcode) :
    opcode.registerAccess = .read ∨ opcode.registerAccess = .write := by
  cases opcode <;> decide

namespace Machine

variable {m : Machine} {fault : Fault}

theorem Raises.possible (raises : Raises m fault) : fault.Possible := by
  cases raises with
  | outside past => exact .address (.inl rfl)
  | unknown here foreign =>
    obtain ⟨inside, -⟩ := Vector.getElem?_eq_some_iff.mp here
    exact .unknown foreign (Nat.le_of_lt_succ inside)
  | cutOff here long => exact .address (.inl rfl)
  | @register i x decoded bad =>
    have least : 8 ≤ x.toNat := by simpa using List.find?_some bad
    exact .register least (Nat.le_of_lt_succ x.toNat_lt) i.opcode.registerAccess_cases
  | back decoded named call last => exact .address (.inr rfl)

theorem possible_of_failing (running : m.status = .running) (inside : m.pc ≤ memorySize)
    (failed : m.step.result = .error fault) : fault.Possible := by
  have way := stepping_step running
  generalize m.step = t at way failed
  cases way with
  | lost fetched =>
    obtain rfl := Except.error.inj failed
    exact (raises_of_fetch_error inside fetched).possible
  | refused fetched resolved =>
    obtain rfl := Except.error.inj failed
    exact (raises_of_refusal fetched resolved).possible
  | done performs => contradiction

structure Sound (m : Machine) : Prop where
  counter : m.pc ≤ 256
  halted : m.status = .halted → m.pc ≤ 255
  faulted : ∀ fault, m.status = .faulted fault → fault.Possible

def Fresh (m : Machine) : Prop := m = .initial ∨ ∃ image, m = .ofImage image

theorem Fresh.sound (fresh : m.Fresh) : m.Sound ∧ m.steps = 0 := by
  obtain rfl | ⟨image, rfl⟩ := fresh
  · exact ⟨⟨Nat.zero_le _, nofun, nofun⟩, rfl⟩
  · exact ⟨⟨Nat.zero_le _, nofun, nofun⟩, rfl⟩

theorem Executes.hlt_of_halted {i : Instruction} (executes : m.Executes i)
    (halted : m.step.machine.status = .halted) : i.opcode = .hlt := by
  rw [executes.obeys.status] at halted
  unfold statusAfter at halted
  split at halted
  · assumption
  · contradiction

theorem Sound.step (sound : m.Sound) : m.step.machine.Sound := by
  by_cases running : m.status = .running
  · obtain ⟨i, executes⟩ | ⟨fault, failed⟩ := executes_or_fails running
    · have fits := fits_of_fetch (fetch_eq_ok_iff.mpr executes.decoded)
      refine ⟨?_, fun halted => ?_, fun fault faulted => ?_⟩
      · rw [executes.obeys.counter]
        exact counterAfter_le fits
      · have hlt := executes.hlt_of_halted halted
        have long := i.opcode.length_pos
        rw [executes.obeys.counter]
        simp only [counterAfter, hlt]
        simp only [memorySize] at fits
        omega
      · have result := executes.result_eq
        rw [step_result_eq, faulted] at result
        contradiction
    · have possible := possible_of_failing running sound.counter failed
      rw [(step_of_error running failed).1]
      refine ⟨sound.counter, fun halted => ?_, fun stored same => ?_⟩
      · contradiction
      · obtain rfl := Status.faulted.inj same
        exact possible
  · rw [step_of_stopped running]
    exact sound

theorem Sound.after (sound : m.Sound) (n : Nat) : (m.after n).Sound := by
  induction n with
  | zero => exact sound
  | succ n ih =>
    rw [after_succ_last]
    exact ih.step

theorem Sound.of_sameCourse {m' : Machine} (sound : m.Sound) (same : SameCourse m m') :
    m'.Sound := by
  refine ⟨?_, ?_, ?_⟩
  · rw [same.counter]
    exact sound.counter
  · rw [same.counter, same.status]
    exact sound.halted
  · rw [same.status]
    exact sound.faulted

theorem Sound.serve (sound : m.Sound) (request : Request) : (m.serve request).machine.Sound := by
  by_cases advances : request.Advances
  · rw [(serve_of_advances advances).1]
    exact sound.after _
  · exact sound.of_sameCourse (sameCourse_of_access advances)

theorem stops_of_change {request : Request}
    (changes : (m.serve request).machine.status ≠ m.status) :
    request.Advances ∧ m.status = .running ∧
      ((m.serve request).machine.status = .halted ∨
        ∃ fault, (m.serve request).machine.status = .faulted fault) := by
  have running : m.status = .running := by
    by_contra stopped
    exact changes (serve_of_stopped stopped request).1.status
  refine ⟨?_, running, ?_⟩
  · by_contra access
    exact changes (sameCourse_of_access access).status
  · cases status : (m.serve request).machine.status with
    | running => exact absurd (status.trans running.symm) changes
    | halted => exact .inl rfl
    | faulted fault => exact .inr ⟨fault, rfl⟩

end Machine

namespace Session

variable {σ : Type} [Sink σ]

structure Lifecycle (s : Session σ) (past : List Request) (now : Session σ) : Prop where
  counter : now.machine.pc ≤ 256
  halted : now.machine.status = .halted → now.machine.pc ≤ 255
  faulted : ∀ fault, now.machine.status = .faulted fault → fault.Possible
  counted : now.machine.steps = (s.carriedOut past).length
  moves : ∀ request, (now.serve request).session.machine.status ≠ now.machine.status →
    request.Advances ∧ now.machine.status = .running ∧
      ((now.serve request).session.machine.status = .halted ∨
        ∃ fault, (now.serve request).session.machine.status = .faulted fault)
  access : ∀ request, ¬ request.Advances →
    Machine.SameCourse now.machine (now.serve request).session.machine
  refused : ∀ request, ¬ request.Advances → (now.serve request).reply.Refused →
    (now.serve request).session.machine = now.machine
  stopped : now.machine.status ≠ .running → ∀ later : List Request,
    Machine.SameCourse now.machine (now.serveAll later).session.machine ∧
      (now.serveAll later).session.sink = now.sink
  silent : now.machine.status ≠ .running → ∀ (later : List Request) (request : Request),
    ((now.serveAll later).session.machine.serve request).values = []
  answers : now.machine.status ≠ .running → ∀ later : List Request,
    ((now.serveAll later).session.serve .step).reply = .status now.machine.status.answer

/-- Whatever a host has asked of a fresh machine, in whatever order. -/
theorem lifecycle_of_fresh (s : Session σ) (fresh : s.machine.Fresh) (past : List Request) :
    Lifecycle s past (s.serveAll past).session := by
  obtain ⟨start, zero⟩ := fresh.sound
  have sound : (s.serveAll past).session.machine.Sound :=
    serveAll_induction past start fun m sound request => sound.serve request
  generalize arrived : (s.serveAll past).session = now at sound
  have still {later : List Request} (stopped : now.machine.status ≠ .running) :
      (now.serveAll later).session.machine.status ≠ .running := by
    rw [(serveAll_of_stopped stopped later).1.status]
    exact stopped
  constructor
  case counter => exact sound.counter
  case halted => exact sound.halted
  case faulted => exact sound.faulted
  case counted => rw [← arrived, steps_serveAll, zero, Nat.zero_add]
  case moves => exact fun request changes => Machine.stops_of_change changes
  case access => exact fun request => Machine.sameCourse_of_access
  case refused => exact fun request => Machine.serve_of_refused
  case stopped => exact fun stopped later => serveAll_of_stopped stopped later
  case silent =>
    intro stopped later request
    rw [Transition.values, (Machine.serve_of_stopped (still stopped) request).2]
    rfl
  case answers =>
    intro stopped later
    have same := (serveAll_of_stopped stopped later).1.status
    change Reply.status (now.serveAll later).session.machine.step.result = _
    rw [Machine.step_of_stopped (still stopped), same]

def halting : Image := ⟨[0x01], by decide⟩

/-- A host that writes out of range, lets the machine halt, and then overwrites the halt. -/
def tampering : List Request :=
  [.writeMemory 300 1, .step, .writeMemory 0 0xFF, .writeRegister 7 0, .runFor 5]

theorem tampering_leaves_halted :
    (start halting Collector.empty).1.machine.Fresh ∧
      ((start halting Collector.empty).1.serveAll tampering).session.machine.status = .halted ∧
      Lifecycle (start halting Collector.empty).1 tampering
        ((start halting Collector.empty).1.serveAll tampering).session ∧
      ((start halting Collector.empty).1.serveAll tampering).session.machine.pc ≤ 255 := by
  have fresh : (start halting Collector.empty).1.machine.Fresh := .inr ⟨halting, rfl⟩
  have halted : ((start halting Collector.empty).1.serveAll tampering).session.machine.status =
      .halted := by decide +kernel
  have lifecycle := lifecycle_of_fresh (start halting Collector.empty).1 fresh tampering
  exact ⟨fresh, halted, lifecycle, lifecycle.halted halted⟩

end Session

end ByteMachine
