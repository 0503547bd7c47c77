import ByteMachine.CommandLine.Folder
import ByteMachine.CommandLine.Invocation
import ByteMachine.Execution.Run
import ByteMachine.Image.Loading
import ByteMachine.Log.Filter
import ByteMachine.Output.Console

/-!
What a command does: its exit code and what it writes. Everything that is said on the error stream
is part of the outcome; a filter then decides which notices are shown and touches nothing else.
-/
namespace ByteMachine

inductive Diagnostic where
  | log (notice : Notice)
  | complaint (text : String)
  deriving DecidableEq, Repr

namespace Diagnostic

def shownBy (filter : Filter) : Diagnostic → Bool
  | log notice => filter.admits notice
  | complaint _ => true

def line : Diagnostic → String
  | log notice => notice.line
  | complaint text => text

end Diagnostic

inductive ExitCode where
  | success
  | badInput
  | fault
  | limit
  | crash
  deriving DecidableEq, Repr

def ExitCode.number : ExitCode → Nat
  | success => 0
  | badInput => 1
  | fault => 2
  | limit => 3
  | crash => 101

structure Outcome where
  exit : ExitCode
  output : String
  diagnostics : List Diagnostic
  deriving DecidableEq, Repr

namespace Outcome

def errors (outcome : Outcome) (filter : Filter) : String :=
  String.join <| (outcome.diagnostics.filter (Diagnostic.shownBy filter)).map fun d =>
    d.line ++ "\n"

def after (notices : List Notice) (outcome : Outcome) : Outcome :=
  { outcome with diagnostics := notices.map .log ++ outcome.diagnostics }

def refuse (text : String) : Outcome := ⟨.badInput, "", [.complaint s!"error: {text}"]⟩

end Outcome

def Machine.runWithin (m : Machine) : Option Nat → Option (Transition (Except Fault Status))
  | some limit => some (m.runFor limit)
  | none => m.run.map fun t => t.map fun result => result.map fun _ => .halted

def verdict (path : String) (m : Machine) : Except Fault Status → ExitCode × Diagnostic
  | .ok .halted => (.success, .log (.finished path m.steps))
  | .ok .running =>
    (.limit, .complaint
      s!"error: step limit of {m.steps} reached before HLT (pc {hex m.pc})")
  | .ok (.faulted fault) | .error fault => (.fault, .complaint s!"fault: {fault.message}")

def runImage (room : Option Room) (path : String) (limit : Option Nat) (image : Image) :
    Option Outcome := do
  let t ← (Machine.ofImage image).runWithin limit
  let (console, notices) := deliver (Console.ofRoom room) t.events
  let (exit, last) := verdict path t.machine t.result
  return Outcome.after (.loaded image.length :: notices) ⟨exit, console.text, [last]⟩

/-- An output that refuses a part of the report brings the command down. It then says as well where
in the program that happened, which is left out here. -/
def describe (room : Option Room) (path : String) (report : Report) : Outcome :=
  let skipped := report.skipped.length
  let (console, refusal) := (Console.ofRoom room).write
    s!"OK: {path} ({report.image.length} bytes, {skipped} lines skipped)\n"
  match refusal with
  | none => ⟨.success, console.text, []⟩
  | some reason => ⟨.crash, console.text, [.complaint s!"failed printing to stdout: {reason}"]⟩

namespace Command

def execute (command : Command) (room : Option Room) (content : Except ReadError String) :
    Option Outcome :=
  match content with
  | .error e => some (.refuse s!"cannot read '{command.path}': {e.message}")
  | .ok text =>
    let loading := Loading.ofText text.toList
    Outcome.after loading.notices <$>
      match loading.result with
      | .error e => some (.refuse e.message)
      | .ok report =>
        match command with
        | .run path limit => runImage room path limit report.image
        | .load path => some (describe room path report)

end Command

end ByteMachine
