import ByteMachine.Proofs.Contents
import ByteMachine.Proofs.Running

/-!
Straight programs: instructions without calls and returns, one after another, and a halt. What they
do can be told without a program counter, on memory, registers, flags and output alone. The machine
does the same from their encoding, as long as no push stores over the code.
-/
namespace ByteMachine

namespace Instruction

structure Straight (i : Instruction) : Prop where
  straight : i.opcode ∈ [Opcode.ldi, .prn, .add, .mul, .cmp, .push, .pop]
  named : ∀ x ∈ i.registerOperands, x.toNat < registerCount

def trimmed (i : Instruction) : Instruction := ofOperands i.opcode i.declared

def encodeAll (is : List Instruction) : List UInt8 := is.flatMap encode

def program (is : List Instruction) : List UInt8 := encodeAll is ++ [Opcode.hlt.byte]

theorem encodeAll_cons (i : Instruction) (is : List Instruction) :
    encodeAll (i :: is) = i.encode ++ encodeAll is := rfl

theorem length_program (is : List Instruction) :
    (program is).length = (encodeAll is).length + 1 := by
  simp [program]

theorem trimmed_eq (i : Instruction) :
    i.trimmed = ofOperands i.opcode ([i.a, i.b].take i.opcode.signature.length) := by
  rw [Opcode.length_signature]
  rfl

theorem Straight.trimmed {i : Instruction} (straight : i.Straight) : i.trimmed.Straight := by
  have same : i.trimmed.registerOperands = i.registerOperands := by
    rw [trimmed_eq]
    obtain ⟨opcode, a, b⟩ := i
    cases opcode <;> rfl
  exact ⟨straight.straight, same ▸ straight.named⟩

theorem Straight.resolves {i : Instruction} (straight : i.Straight) (address : Nat) :
    ∃ action, i.resolve address = .ok action := by
  apply resolve_of_named
  · exact badOperand?_eq_none straight.named
  · intro call
    have other := straight.straight
    rw [call] at other
    contradiction

end Instruction

def Register.ofByte (x : UInt8) : Register :=
  ⟨x.toNat % registerCount, Nat.mod_lt _ (by decide)⟩

theorem Register.eq_ofByte {r : Register} {x : UInt8} (names : r.val = x.toNat) :
    r = ofByte x := by
  have small : x.toNat % registerCount = x.toNat := Nat.mod_eq_of_lt (names ▸ r.isLt)
  exact Fin.ext (names.trans small.symm)

theorem Machine.pushed_eq (m : Machine) (source : Register) :
    m.pushed source =
      (m.registers.setStackPointer (m.registers.stackPointer - 1)).get source := by
  simp only [pushed, Registers.setStackPointer, Registers.get_set, eq_comm (a := source)]

structure Workspace where
  memory : Memory
  registers : Registers
  flags : Flags
  output : List UInt8

namespace Workspace

def start (image : Image) : Workspace := ⟨Memory.zero.load image, .initial, .clear, []⟩

/-- What an instruction means for the workspace, in the order in which its parts happen: a push
moves the stack pointer before it looks at its register, and a pop afterwards. -/
def execute (w : Workspace) (i : Instruction) : Workspace :=
  let a := Register.ofByte i.a
  let b := Register.ofByte i.b
  let x := w.registers.get a
  let y := w.registers.get b
  match i.opcode with
  | .ldi => { w with registers := w.registers.set a i.b }
  | .prn => { w with output := w.output ++ [x] }
  | .add => { w with registers := w.registers.set a (x + y) }
  | .mul => { w with registers := w.registers.set .product (x * y) }
  | .cmp => { w with flags := .ofComparison x y }
  | .push =>
    let lowered := w.registers.setStackPointer (w.registers.stackPointer - 1)
    { w with
      registers := lowered
      memory := w.memory.set lowered.stackPointer (lowered.get a) }
  | .pop =>
    let filled := w.registers.set a (w.memory.get w.registers.stackPointer)
    { w with registers := filled.setStackPointer (filled.stackPointer + 1) }
  | .hlt | .call | .ret => w

def executeAll (w : Workspace) (is : List Instruction) : Workspace := is.foldl execute w

def Spares (size : Nat) : Workspace → List Instruction → Prop
  | _, [] => True
  | w, i :: is =>
    (i.opcode = .push → size ≤ (w.registers.stackPointer - 1).toNat) ∧ Spares size (w.execute i) is

def decideSpares (size : Nat) : (w : Workspace) → (is : List Instruction) →
    Decidable (Spares size w is)
  | _, [] => .isTrue trivial
  | w, i :: is =>
    have := decideSpares size (w.execute i) is
    inferInstanceAs (Decidable (_ ∧ _))

instance (size : Nat) (w : Workspace) (is : List Instruction) : Decidable (Spares size w is) :=
  decideSpares size w is

def machineAt (w : Workspace) (pc steps : Nat) : Machine :=
  ⟨w.memory, w.registers, w.flags, pc, .running, steps⟩

variable {w : Workspace} {i : Instruction} {is : List Instruction} {code back : List UInt8}
  {pc : Nat}

theorem execute_trimmed (w : Workspace) (i : Instruction) :
    w.execute i.trimmed = w.execute i := by
  rw [Instruction.trimmed_eq]
  obtain ⟨opcode, a, b⟩ := i
  cases opcode <;> rfl

theorem cell_execute {x : UInt8} (spared : i.opcode = .push → w.registers.stackPointer - 1 ≠ x) :
    (w.execute i).memory.get x = w.memory.get x := by
  obtain ⟨opcode, a, b⟩ := i
  cases opcode with
  | push =>
    have other := spared rfl
    simp only [execute, Registers.stackPointer_setStackPointer, Memory.get_set, if_neg other]
  | _ => rfl

theorem starts_execute (starts : code <+: w.memory.toList)
    (clear : i.opcode = .push → code.length ≤ (w.registers.stackPointer - 1).toNat) :
    code <+: (w.execute i).memory.toList := by
  refine Memory.starts_of_same starts fun x inside => cell_execute fun push same => ?_
  have past := clear push
  rw [same] at past
  omega

theorem step_machineAt (steps : Nat) (straight : i.Straight)
    (decoded : Instruction.decode (w.memory.toList.drop pc) = .ok i) :
    (w.machineAt pc steps).step.machine =
        (w.execute i).machineAt (pc + i.opcode.length) (steps + 1) ∧
      (w.execute i).output = w.output ++ (w.machineAt pc steps).step.values := by
  obtain ⟨action, resolved⟩ := straight.resolves pc
  have performs : (w.machineAt pc steps).Performs i action :=
    ⟨rfl, Machine.fetch_eq_ok_iff.mpr decoded, resolved⟩
  rw [performs.step_eq]
  cases Instruction.resolves_of_resolve resolved with
  | hlt | ret | call =>
    have other := straight.straight
    contradiction
  | ldi b names =>
    obtain rfl := Register.eq_ofByte names
    exact ⟨rfl, (List.append_nil _).symm⟩
  | prn b names =>
    obtain rfl := Register.eq_ofByte names
    exact ⟨rfl, rfl⟩
  | add names names' | mul names names' | cmp names names' =>
    obtain rfl := Register.eq_ofByte names
    obtain rfl := Register.eq_ofByte names'
    exact ⟨rfl, (List.append_nil _).symm⟩
  | push b names =>
    obtain rfl := Register.eq_ofByte names
    refine ⟨?_, (List.append_nil _).symm⟩
    simp only [Transition.after, Machine.complete, Machine.perform, Machine.push,
      Machine.pushed_eq, execute, machineAt, Registers.stackPointer_setStackPointer]
  | pop b names =>
    obtain rfl := Register.eq_ofByte names
    exact ⟨rfl, (List.append_nil _).symm⟩

theorem decode_placed (starts : code <+: w.memory.toList)
    (placed : code.drop pc = i.encode ++ back) :
    Instruction.decode (w.memory.toList.drop pc) = .ok i.trimmed := by
  obtain ⟨rest, found⟩ := starts.drop pc
  rw [← found, placed, List.append_assoc]
  exact Instruction.decode_encode_append i _

theorem step_placed (steps : Nat) (straight : i.Straight) (starts : code <+: w.memory.toList)
    (placed : code.drop pc = i.encode ++ back) :
    (w.machineAt pc steps).step.machine =
        (w.execute i).machineAt (pc + i.opcode.length) (steps + 1) ∧
      (w.execute i).output = w.output ++ (w.machineAt pc steps).step.values := by
  rw [← execute_trimmed]
  exact step_machineAt steps straight.trimmed (decode_placed starts placed)

theorem run_machineAt (steps : Nat) (straight : ∀ i ∈ is, i.Straight)
    (starts : code <+: w.memory.toList) (placed : code.drop pc = Instruction.encodeAll is ++ back)
    (clear : w.Spares code.length is) :
    (w.machineAt pc steps).after is.length =
        (w.executeAll is).machineAt (pc + (Instruction.encodeAll is).length) (steps + is.length) ∧
      (w.executeAll is).output =
        w.output ++ ((w.machineAt pc steps).stepTimes is.length).values ∧
      code <+: (w.executeAll is).memory.toList := by
  -- Besides the workspace, the code in memory is carried along: pushes that spare it keep it there,
  -- so the next instruction is found where the one before it ends.
  induction is generalizing w pc steps with
  | nil => exact ⟨rfl, (List.append_nil _).symm, starts⟩
  | cons i is ih =>
    obtain ⟨here, later⟩ := clear
    have first := straight i List.mem_cons_self
    rw [Instruction.encodeAll_cons, List.append_assoc] at placed
    obtain ⟨moved, printed⟩ := step_placed steps first starts placed
    have next : code.drop (pc + i.opcode.length) = Instruction.encodeAll is ++ back := by
      rw [← List.drop_drop, placed, ← i.length_encode, List.drop_left]
    obtain ⟨machine, output, kept⟩ := ih (steps + 1)
      (fun j member => straight j (List.mem_cons_of_mem _ member)) (starts_execute starts here)
      next later
    have distance : pc + i.opcode.length + (Instruction.encodeAll is).length =
        pc + (Instruction.encodeAll (i :: is)).length := by
      rw [Instruction.encodeAll_cons, List.length_append, Instruction.length_encode, Nat.add_assoc]
    have count : steps + 1 + is.length = steps + (is.length + 1) := by omega
    refine ⟨?_, ?_, kept⟩
    · rw [List.length_cons, Machine.after_succ, moved, machine, distance, count]
      rfl
    · rw [List.length_cons, Machine.values_stepTimes_succ, moved, ← List.append_assoc, ← printed]
      exact output

theorem halt_machineAt (steps : Nat) (halt : [Opcode.hlt.byte] <+: w.memory.toList.drop pc) :
    (w.machineAt pc steps).step.machine =
        { w.machineAt pc (steps + 1) with status := .halted } ∧
      (w.machineAt pc steps).step.values = [] := by
  obtain ⟨rest, found⟩ := halt
  have decoded : Instruction.decode (w.memory.toList.drop pc) = .ok ⟨.hlt, 0, 0⟩ := by
    rw [← found]
    exact Instruction.decode_encode_append ⟨.hlt, 0, 0⟩ rest
  have performs : (w.machineAt pc steps).Performs ⟨.hlt, 0, 0⟩ .halt :=
    ⟨rfl, Machine.fetch_eq_ok_iff.mpr decoded, rfl⟩
  rw [performs.step_eq]
  exact ⟨rfl, rfl⟩

theorem run_program (image : Image) (code : image.bytes = Instruction.program is)
    (straight : ∀ i ∈ is, i.Straight) (clear : (start image).Spares image.length is) :
    let w := (start image).executeAll is
    (Machine.ofImage image).after (is.length + 1) =
        ⟨w.memory, w.registers, w.flags, (Instruction.encodeAll is).length, .halted,
          is.length + 1⟩ ∧
      ((Machine.ofImage image).stepTimes (is.length + 1)).values = w.output := by
  intro w
  have starts : image.bytes <+: (start image).memory.toList := Memory.starts_load .zero image
  have placed : image.bytes.drop 0 = Instruction.encodeAll is ++ [Opcode.hlt.byte] := code
  obtain ⟨machine, output, kept⟩ := run_machineAt 0 straight starts placed clear
  rw [Nat.zero_add, Nat.zero_add] at machine
  have last : [Opcode.hlt.byte] <+: w.memory.toList.drop (Instruction.encodeAll is).length := by
    have rest := kept.drop (Instruction.encodeAll is).length
    rwa [code, Instruction.program, List.drop_left] at rest
  obtain ⟨halted, silent⟩ := halt_machineAt is.length last
  have fresh : (start image).machineAt 0 0 = Machine.ofImage image := rfl
  rw [fresh] at machine output
  constructor
  · rw [Machine.after_succ_last, machine]
    exact halted
  · rw [Machine.values_stepTimes_add, machine, Machine.values_stepTimes_succ, silent, output]
    exact List.append_nil _

end Workspace

namespace Session

variable {σ : Type} [Sink σ]

/-- A straight program that never pushes over its own code runs to its halt. It leaves the machine
and the sink with what its instructions make of a fresh workspace, one after another. -/
theorem run_simulates_instructions (sink : σ) (is : List Instruction)
    (straight : ∀ i ∈ is, i.Straight) (fits : (Instruction.program is).length ≤ memorySize)
    (clear : (Workspace.start ⟨Instruction.program is, fits⟩).Spares
      (Instruction.program is).length is) :
    let image : Image := ⟨Instruction.program is, fits⟩
    let served := (start image sink).1.serve .run
    let w := (Workspace.start image).executeAll is
    Image.ofBytes (Instruction.program is) = .ok image ∧
      served.reply = .done (.ok ()) ∧
      served.session.sink = Sink.acceptAll sink w.output ∧
      served.session.machine =
        ⟨w.memory, w.registers, w.flags, (Instruction.program is).length - 1, .halted,
          is.length + 1⟩ := by
  intro image served w
  obtain ⟨machine, output⟩ := Workspace.run_program image rfl straight clear
  have halted :
      ((start image sink).1.stepping (is.length + 1)).session.machine.status = .halted := by
    rw [machine_stepping, machine_start, machine]
  have stopped :
      ((start image sink).1.stepping (is.length + 1)).session.machine.status ≠ .running := by
    rw [halted]
    nofun
  have ends : served = _ := serve_run_of_stopped stopped
  rw [ends, halted]
  refine ⟨Image.ofBytes_eq_ok_iff.mpr rfl, rfl, ?_, ?_⟩
  · rw [stepping_eq, machine_start, sink_start, deliver_sink, ← Transition.values, output]
  · rw [machine_stepping, machine_start, machine, Instruction.length_program, Nat.add_sub_cancel]

def pushAndPop : List Instruction :=
  [⟨.ldi, 0, 5⟩, ⟨.push, 0, 0⟩, ⟨.ldi, 0, 0⟩, ⟨.pop, 0, 0⟩, ⟨.prn, 0, 0⟩]

def pushAndPopImage : Image := ⟨Instruction.program pushAndPop, by decide⟩

theorem pushAndPop_prints_five :
    (∀ i ∈ pushAndPop, i.Straight) ∧
      (Workspace.start pushAndPopImage).Spares pushAndPopImage.length pushAndPop ∧
      ((start pushAndPopImage Collector.empty).1.serve .run).reply = .done (.ok ()) ∧
      ((start pushAndPopImage Collector.empty).1.serve .run).session.sink = ⟨#[5]⟩ := by
  have straight : ∀ i ∈ pushAndPop, i.Straight := by
    intro i member
    simp only [pushAndPop, List.mem_cons, List.not_mem_nil, or_false] at member
    obtain rfl | rfl | rfl | rfl | rfl := member <;>
      exact ⟨by simp, by simp [Instruction.registerOperands]⟩
  have clear : (Workspace.start pushAndPopImage).Spares pushAndPopImage.length pushAndPop := by
    decide +kernel
  have output : ((Workspace.start pushAndPopImage).executeAll pushAndPop).output = [5] := by
    decide +kernel
  obtain ⟨-, reply, sink, -⟩ := run_simulates_instructions Collector.empty pushAndPop straight
    pushAndPopImage.fits clear
  have taken : Sink.acceptAll Collector.empty [5] = ⟨#[5]⟩ := rfl
  rw [← taken, ← output]
  exact ⟨straight, clear, reply, sink⟩

end Session

end ByteMachine
