import ByteMachine.CommandLine.Outcome
import ByteMachine.Log.Setting

/-!
The whole program as a function: from arguments, the room on the output, a log setting and the files
that can be read to an exit code and two streams of text.
-/
namespace ByteMachine

def versionText : String := "ls8 0.1.0\n"

inductive Response where
  | help
  /-- Usage, shown on the error stream because the arguments make no sense. -/
  | misuse
  | written (exit : Nat) (output errors : String)
  deriving DecidableEq, Repr

def Response.exit : Response → Nat
  | help => 0
  | misuse => 1
  | written exit .. => exit

namespace Invocation

/-- A log setting from outside wins over the verbose flags, and what is wrong with it is said before
all else. There is no response if the program that is run has no end. -/
def respond (invocation : Invocation) (room : Option Room) (setting : Option LogSetting)
    (read : String → Except ReadError String) : Option Response :=
  match invocation with
  | help => some .help
  | misuse => some .misuse
  | version => some (.written 0 ((Console.ofRoom room).write versionText).1.text "")
  | command chosen verbosity =>
    let setting := setting.getD (.ofVerbosity verbosity)
    (chosen.execute room (read chosen.path)).map fun outcome =>
      .written outcome.exit.number outcome.output
        (setting.complaints ++ outcome.errors setting.filter)

end Invocation

end ByteMachine
