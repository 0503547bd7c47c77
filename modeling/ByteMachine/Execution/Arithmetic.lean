import ByteMachine.Store.Flags
import ByteMachine.Store.Registers

/-!
Arithmetic on registers. Both operands are read before anything is written. Sums and products wrap;
a product always goes to R0, and a comparison changes the flags alone.
-/
namespace ByteMachine

inductive Operation where
  | add
  | multiply
  | compare
  deriving DecidableEq, Repr

namespace Operation

def apply (operation : Operation) (a b : Register) (registers : Registers) (flags : Flags) :
    Registers × Flags :=
  let x := registers.get a
  let y := registers.get b
  match operation with
  | add => (registers.set a (x + y), flags)
  | multiply => (registers.set .product (x * y), flags)
  | compare => (registers, .ofComparison x y)

def applyAt (operation : Operation) (a b : Nat) (registers : Registers) (flags : Flags) :
    Except Fault (Registers × Flags) := do
  let a ← Register.ofIndex .read a
  let b ← Register.ofIndex .read b
  return operation.apply a b registers flags

end Operation

end ByteMachine
