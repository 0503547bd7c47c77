import ByteMachine.Isa.Listing
import ByteMachine.Log.Level
import ByteMachine.Fault
import ByteMachine.Text.Quoted

/-!
Notices: what the loader, the machine, the console and the commands have to say beside their
results. A notice is kept as the event that it reports; its level, its source and its words follow
from that.
-/
namespace ByteMachine

inductive Notice where
  | skippedLine (number : Nat) (line : List Char)
  | parsed (bytes skipped : Nat)
  | loaded (bytes : Nat)
  | executing (address : Nat) (instruction : Instruction)
  | halted (address steps : Nat)
  | faulted (address : Nat) (fault : Fault)
  /-- A sink did not take the value, for the reason that its writer gives. -/
  | dropped (value : UInt8) (reason : String)
  | finished (path : String) (steps : Nat)
  deriving DecidableEq, Repr

namespace Notice

def level : Notice → Level
  | skippedLine .. | parsed .. | loaded .. | halted .. | finished .. => .debug
  | executing .. => .trace
  | faulted .. | dropped .. => .warn

def source : Notice → String
  | skippedLine .. | parsed .. => "ls8_common::program"
  | loaded .. => "ls8_vm::machine"
  | executing .. | halted .. | faulted .. => "ls8_vm::execute"
  | dropped .. => "ls8_vm::output"
  | finished .. => "ls8::commands"

def message : Notice → String
  | skippedLine number line => s!"skipping line {number}: {quote line}"
  | parsed bytes skipped => s!"parsed {bytes} program bytes, skipped {skipped} lines"
  | loaded bytes => s!"loaded {bytes} program bytes"
  | executing address instruction => s!"{hex address}: {instruction.text}"
  | halted address steps => s!"halted at pc {hex address} after {steps} steps"
  | faulted address fault => s!"faulted at pc {hex address}: {fault.message}"
  | dropped value reason => s!"dropping output value {value.toNat}: {reason}"
  | finished path steps => s!"{path} halted after {steps} steps"

def entry (notice : Notice) : String :=
  s!"{notice.level.text} {notice.source} {notice.message}"

def line (notice : Notice) : String :=
  s!"[{notice.level.column} {notice.source}] {notice.message}"

end Notice

end ByteMachine
