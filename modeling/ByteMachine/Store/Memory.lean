import ByteMachine.Image.Basic
import ByteMachine.Fault

/-!
The memory: one cell for each byte address. Access by a byte cannot fail; access by number is
checked.
-/
namespace ByteMachine

structure Memory where
  cells : Vector UInt8 memorySize
  deriving DecidableEq, Repr

namespace Memory

def cell (address : UInt8) : Fin memorySize := ⟨address.toNat, address.toNat_lt⟩

def get (memory : Memory) (address : UInt8) : UInt8 := memory.cells[cell address]

def set (memory : Memory) (address value : UInt8) : Memory :=
  ⟨memory.cells.set (cell address) value⟩

def zero : Memory := ⟨.replicate memorySize 0⟩

def toList (memory : Memory) : List UInt8 := memory.cells.toList

def read (memory : Memory) (address : Nat) : Except Fault UInt8 :=
  if h : address < memorySize then .ok memory.cells[address]
  else .error (.addressOutOfRange address .read)

def write (memory : Memory) (address : Nat) (value : UInt8) : Except Fault Memory :=
  if h : address < memorySize then .ok ⟨memory.cells.set address value⟩
  else .error (.addressOutOfRange address .write)

def load (memory : Memory) (image : Image) : Memory :=
  ⟨.ofFn fun address => image.bytes.getD address memory.cells[address]⟩

def window (memory : Memory) (start count : Nat) : List UInt8 :=
  (memory.cells.toArray.extract start (start + count)).toList

def changes (before after : Memory) : List (Nat × UInt8) :=
  (List.range memorySize).filterMap fun address =>
    if before.cells[address]? = after.cells[address]? then none
    else after.cells[address]?.map (address, ·)

theorem window_eq (memory : Memory) (start count : Nat) :
    memory.window start count = (memory.toList.drop start).take count := by
  simp only [window, Array.toList_extract, List.extract, Nat.add_sub_cancel_left]
  rfl

theorem ext_get {m n : Memory} (h : ∀ address, m.get address = n.get address) : m = n := by
  cases m
  cases n
  congr
  refine Vector.ext fun i hi => ?_
  have := h (UInt8.ofNat i)
  simpa [get, cell, Nat.mod_eq_of_lt hi] using this

@[simp] theorem get_set_self (memory : Memory) (address value : UInt8) :
    (memory.set address value).get address = value := by
  simp [get, set]

theorem get_set_of_ne {x y : UInt8} (h : x ≠ y) (memory : Memory) (value : UInt8) :
    (memory.set x value).get y = memory.get y := by
  have : x.toNat ≠ y.toNat := fun same => h (UInt8.toNat_inj.mp same)
  simp [get, set, cell, Vector.getElem_set_ne _ _ this]

theorem get_set (memory : Memory) (x y value : UInt8) :
    (memory.set x value).get y = if x = y then value else memory.get y := by
  split
  · rename_i same
    rw [same, get_set_self]
  · rename_i other
    exact get_set_of_ne other memory value

theorem read_toNat (memory : Memory) (address : UInt8) :
    memory.read address.toNat = .ok (memory.get address) :=
  dif_pos (cell address).isLt

theorem write_toNat (memory : Memory) (address value : UInt8) :
    memory.write address.toNat value = .ok (memory.set address value) :=
  dif_pos (cell address).isLt

end Memory

end ByteMachine
