import ByteMachine.CommandLine.Folder

/-!
What can be read of a folder. A path leads to a file if its last part is the name of one and all
parts before it stay in the folder. Then the bytes of the file are read if they are text; any other
path is refused.
-/
namespace ByteMachine

namespace Folder

variable {folder : Folder} {path : String} {bytes : ByteArray}

inductive Holds (folder : Folder) (path : String) : ByteArray → Prop where
  | file {bytes : ByteArray} (stays : List (List Char)) (name : List Char)
      (parts : splitAtEvery '/' path.toList = stays ++ [name])
      (still : ∀ part ∈ stays, part = [] ∨ part = ['.'])
      (relative : path.toList.head? ≠ some '/')
      (proper : name ≠ [] ∧ name ≠ ['.'] ∧ name ≠ ['.', '.'])
      (short : (String.ofList name).utf8ByteSize ≤ longestName)
      (reachable : path.utf8ByteSize ≤ longestPath)
      (found : folder.files.lookup (String.ofList name) = some bytes) : Holds folder path bytes

end Folder

end ByteMachine
