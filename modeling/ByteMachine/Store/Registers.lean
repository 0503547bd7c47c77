import ByteMachine.Fault

/-!
The register file: eight bytes, the last of which is the stack pointer. A `Register` is an index in
range, so access by register cannot fail; access by number is checked.
-/
namespace ByteMachine

abbrev registerCount : Nat := 8

abbrev Register := Fin registerCount

def Register.ofIndex (access : Access) (index : Nat) : Except Fault Register :=
  if h : index < registerCount then .ok ⟨index, h⟩ else .error (.registerOutOfRange index access)

def Register.stackPointer : Register := 7

def Register.product : Register := 0

theorem Register.ofIndex_of_lt {access : Access} {index : Nat} (h : index < registerCount) :
    ofIndex access index = .ok ⟨index, h⟩ := by
  simp [ofIndex, h]

theorem Register.ofIndex_of_le {access : Access} {index : Nat} (h : registerCount ≤ index) :
    ofIndex access index = .error (.registerOutOfRange index access) := by
  simp [ofIndex, Nat.not_lt.mpr h]

structure Registers where
  cells : Vector UInt8 registerCount
  deriving DecidableEq, Repr

namespace Registers

def stackStart : UInt8 := 0xF3

def get (registers : Registers) (r : Register) : UInt8 := registers.cells[r]

def set (registers : Registers) (r : Register) (value : UInt8) : Registers :=
  ⟨registers.cells.set r value⟩

def stackPointer (registers : Registers) : UInt8 := registers.get .stackPointer

def setStackPointer (registers : Registers) (value : UInt8) : Registers :=
  registers.set .stackPointer value

def initial : Registers := setStackPointer ⟨.replicate registerCount 0⟩ stackStart

def toList (registers : Registers) : List UInt8 := registers.cells.toList

def read (registers : Registers) (index : Nat) : Except Fault UInt8 :=
  (Register.ofIndex .read index).map registers.get

def write (registers : Registers) (index : Nat) (value : UInt8) : Except Fault Registers :=
  (Register.ofIndex .write index).map fun r => registers.set r value

theorem ext_get {f g : Registers} (h : ∀ r, f.get r = g.get r) : f = g := by
  cases f
  cases g
  congr
  exact Vector.ext fun i hi => h ⟨i, hi⟩

@[simp] theorem get_set_self (registers : Registers) (r : Register) (value : UInt8) :
    (registers.set r value).get r = value := by
  simp [get, set]

theorem get_set_of_ne {r q : Register} (h : r ≠ q) (registers : Registers) (value : UInt8) :
    (registers.set r value).get q = registers.get q := by
  have : r.val ≠ q.val := fun same => h (Fin.ext same)
  simp [get, set, Vector.getElem_set_ne _ _ this]

theorem get_set (registers : Registers) (r q : Register) (value : UInt8) :
    (registers.set r value).get q = if r = q then value else registers.get q := by
  split
  · rename_i same
    rw [same, get_set_self]
  · rename_i other
    exact get_set_of_ne other registers value

@[simp] theorem stackPointer_setStackPointer (registers : Registers) (value : UInt8) :
    (registers.setStackPointer value).stackPointer = value :=
  get_set_self registers _ value

end Registers

end ByteMachine
