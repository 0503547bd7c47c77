import ByteMachine.Text.Split

/-!
Reading files by path. A folder holds named files and nothing else; it is the part of the world
that a command can see.
-/
namespace ByteMachine

inductive ReadError where
  | refused (reason : String) (code : Nat)
  | notText
  deriving DecidableEq, Repr

namespace ReadError

def missing : ReadError := refused "No such file or directory" 2

def notDirectory : ReadError := refused "Not a directory" 20

def directory : ReadError := refused "Is a directory" 21

def nameTooLong : ReadError := refused "File name too long" 36

def message : ReadError → String
  | refused reason code => s!"{reason} (os error {code})"
  | notText => "stream did not contain valid UTF-8"

end ReadError

def textOfBytes (bytes : ByteArray) : Except ReadError String :=
  match String.fromUTF8? bytes with
  | some text => .ok text
  | none => .error .notText

def longestName : Nat := 255

def longestPath : Nat := 4095

structure Folder where
  files : List (String × ByteArray)

namespace Folder

def leadsOn (part : List Char) : Bool := part = [] ∨ part = ['.'] ∨ part = ['.', '.']

/-- Every directory has one above it, and the topmost is above itself. A name is known only while
the way to it has not left the folder; one that is too long is refused wherever it is looked for. -/
def read (folder : Folder) (path : String) : Except ReadError String :=
  let parts := splitAtEvery '/' path.toList
  if path.utf8ByteSize > longestPath then .error .nameTooLong
  else match parts.dropWhile leadsOn with
    | [] => .error .directory
    | name :: more =>
      let name := String.ofList name
      if name.utf8ByteSize > longestName then .error .nameTooLong
      else if path.toList.head? = some '/' ∨ ['.', '.'] ∈ parts.takeWhile leadsOn then .error .missing
      else match folder.files.lookup name with
        | none => .error .missing
        | some bytes => if more = [] then textOfBytes bytes else .error .notDirectory

end Folder

end ByteMachine
