import ByteMachine.Text.Numeral

/-!
What the arguments of a command line ask for. They are read from left to right, and the first one
that asks for help or the version, or that cannot be understood, settles the matter.
-/
namespace ByteMachine

inductive Command where
  | run (path : String) (limit : Option Nat)
  | load (path : String)
  deriving DecidableEq, Repr

def Command.path : Command → String
  | run path _ | load path => path

inductive Invocation where
  | help
  | version
  | misuse
  | command (command : Command) (verbosity : Nat)
  deriving DecidableEq, Repr

inductive Argument where
  | separator
  | long (name : String) (value : Option String)
  | short (letters : List Char)
  | plain (text : String)
  deriving DecidableEq, Repr

/-- A dash alone is plain text. -/
def Argument.ofString (text : String) : Argument :=
  match text.toList with
  | ['-', '-'] => separator
  | '-' :: '-' :: rest =>
    match rest.span (· ≠ '=') with
    | (name, []) => long (String.ofList name) none
    | (name, _ :: value) => long (String.ofList name) (some (String.ofList value))
  | '-' :: letter :: letters => short (letter :: letters)
  | _ => plain text

inductive Flag where
  | verbose
  | help
  | version
  deriving DecidableEq, Repr

namespace Flag

def ofName? : String → Option Flag
  | "verbose" => some verbose
  | "help" => some help
  | "version" => some version
  | _ => none

def ofLetter? : Char → Option Flag
  | 'v' => some verbose
  | 'h' => some help
  | 'V' => some version
  | _ => none

end Flag

inductive CommandName where
  | run
  | load
  deriving DecidableEq, Repr

def CommandName.ofString? : String → Option CommandName
  | "run" => some .run
  | "load" => some .load
  | _ => none

def limitBound : Nat := 0x10000000000000000

/-- What has been read of a command line. Before the command `name` is absent. -/
structure Draft where
  name : Option CommandName
  path : Option String
  limit : Option Nat
  /-- Verbose flags since the command, or since the start while there is none. -/
  verbosity : Nat
  before : Nat
  deriving DecidableEq, Repr

namespace Draft

def empty : Draft := ⟨none, none, none, 0, 0⟩

def addFlag (d : Draft) : Option Flag → Except Invocation Draft
  | some .verbose => .ok { d with verbosity := d.verbosity + 1 }
  | some .help => .error .help
  | some .version => .error (if d.name.isNone then .version else .misuse)
  | none => .error .misuse

def addLetters (d : Draft) (letters : List Char) : Except Invocation Draft :=
  letters.foldlM (fun d letter => d.addFlag (Flag.ofLetter? letter)) d

def addPath (d : Draft) (text : String) : Except Invocation Draft :=
  if d.path.isNone ∧ text ≠ "" then .ok { d with path := some text } else .error .misuse

def addLimit (d : Draft) (text : String) : Except Invocation Draft :=
  match readDecimal? limitBound text with
  | some limit =>
    if d.name = some .run ∧ d.limit.isNone then .ok { d with limit := some limit }
    else .error .misuse
  | none => .error .misuse

/-- A command counts its own verbose flags, and those in front of it only if it has none. -/
def finish (d : Draft) : Invocation :=
  let verbosity := if d.verbosity = 0 then d.before else d.verbosity
  match d.name, d.path with
  | some .run, some path => .command (.run path d.limit) verbosity
  | some .load, some path => .command (.load path) verbosity
  | _, _ => .misuse

end Draft

def helpTopic : List String → Invocation
  | [] | ["run"] | ["load"] | ["help"] => .help
  | _ => .misuse

/-- The arguments of a command. An option that wants a value takes the next argument, unless that
looks like an option itself; after the separator every argument is a path. -/
def readArguments (d : Draft) : List String → Except Invocation Draft
  | [] => .ok d
  | text :: rest =>
    match Argument.ofString text with
    | .separator => rest.foldlM Draft.addPath d
    | .short letters => do readArguments (← d.addLetters letters) rest
    | .plain text => do readArguments (← d.addPath text) rest
    | .long "max-steps" (some value) => do readArguments (← d.addLimit value) rest
    | .long "max-steps" none =>
      match rest with
      | [] => .error .misuse
      | value :: rest =>
        match Argument.ofString value with
        | .plain value => do readArguments (← d.addLimit value) rest
        | _ => .error .misuse
    | .long name none => do readArguments (← d.addFlag (Flag.ofName? name)) rest
    | .long _ (some _) => .error .misuse

def readCommand (d : Draft) : List String → Except Invocation Draft
  | [] => .error .misuse
  | text :: rest =>
    match Argument.ofString text with
    | .short letters => do readCommand (← d.addLetters letters) rest
    | .long name none => do readCommand (← d.addFlag (Flag.ofName? name)) rest
    | .plain "help" => .error (helpTopic rest)
    | .plain text =>
      match CommandName.ofString? text with
      | some name =>
        readArguments { Draft.empty with name := some name, before := d.verbosity } rest
      | none => .error .misuse
    | _ => .error .misuse

def Invocation.ofArguments (arguments : List String) : Invocation :=
  match readCommand .empty arguments with
  | .ok draft => draft.finish
  | .error early => early

end ByteMachine
