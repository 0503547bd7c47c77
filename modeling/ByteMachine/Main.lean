import ByteMachine.CommandLine.Response

/-!
The command line. It reads the arguments, the log setting and one file, and writes what the response
says.
-/
namespace ByteMachine

def usageText : String :=
  "Usage: ls8 [-v] run FILE [--max-steps N]\n" ++
  "       ls8 [-v] load FILE\n" ++
  "       ls8 --version\n"

def readContent (path : String) : IO (Except ReadError String) := do
  try
    return textOfBytes (← IO.FS.readBinFile path)
  catch
    | .noFileOrDirectory .. => return .error .missing
    | .permissionDenied .. => return .error (.refused "Permission denied" 13)
    | .invalidArgument _ 36 _ => return .error .nameTooLong
    | .inappropriateType _ 21 _ => return .error .directory
    | .inappropriateType .. => return .error .notDirectory
    | .otherError code details => return .error (.refused details code.toNat)
    | e => return .error (.refused (toString e) 0)

def Response.write (response : Response) : IO UInt32 := do
  match response with
  | help => IO.print usageText
  | misuse => IO.eprint usageText
  | written _ output errors =>
    IO.print output
    IO.eprint errors
  return response.exit.toUInt32

/-- A run without a limit answers as it does under any limit that it does not use up, so higher and
higher limits are tried. Until one is enough, the output is shown as far as it has come. -/
def serveUnlimited (path : String) (verbosity : Nat) (setting : Option LogSetting)
    (content : Except ReadError String) : IO UInt32 := do
  let stdout ← IO.getStdout
  let mut limit := 1
  let mut printed := 0
  let mut exit := ExitCode.limit.number
  while exit = ExitCode.limit.number do
    let attempt := Invocation.command (.run path (some limit)) verbosity
    if let some (.written code output errors) := attempt.respond none setting fun _ => content then
      stdout.putStr (String.ofList (output.toList.drop printed))
      stdout.flush
      unless code = ExitCode.limit.number do
        IO.eprint errors
      printed := output.length
      exit := code
    limit := 2 * limit
  return exit.toUInt32

/-- Standard output is taken to have room for all that comes. -/
def serveCommandLine (arguments : List String) : IO UInt32 := do
  let setting := (← IO.getEnv "RUST_LOG").map LogSetting.ofText
  let invocation := Invocation.ofArguments arguments
  match invocation with
  | .command (.run path none) verbosity =>
    serveUnlimited path verbosity setting (← readContent path)
  | _ =>
    let content ← match invocation with
      | .command command _ => readContent command.path
      | _ => pure (.error .missing)
    let some response := invocation.respond none setting fun _ => content
      | throw (IO.userError "a run without a limit")
    response.write

end ByteMachine

def main (arguments : List String) : IO UInt32 :=
  ByteMachine.serveCommandLine arguments
