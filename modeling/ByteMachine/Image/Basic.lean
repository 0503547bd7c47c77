/-!
Program images: byte lists that fit the memory they are loaded into.
-/
namespace ByteMachine

abbrev memorySize : Nat := 256

inductive LoadError where
  | programTooLarge (length capacity : Nat)
  deriving DecidableEq, Repr

def LoadError.message : LoadError → String
  | programTooLarge length capacity =>
    s!"program of {length} bytes exceeds memory size of {capacity}"

structure Image where
  bytes : List UInt8
  fits : bytes.length ≤ memorySize
  deriving DecidableEq, Repr

namespace Image

def ofBytes (bytes : List UInt8) : Except LoadError Image :=
  if fits : bytes.length ≤ memorySize then .ok ⟨bytes, fits⟩
  else .error (.programTooLarge bytes.length memorySize)

def length (image : Image) : Nat := image.bytes.length

def isEmpty (image : Image) : Bool := image.bytes.isEmpty

@[ext] theorem ext {p q : Image} (h : p.bytes = q.bytes) : p = q := by
  cases p
  cases q
  cases h
  rfl

theorem ofBytes_eq_ok_iff {bytes : List UInt8} {image : Image} :
    ofBytes bytes = .ok image ↔ image.bytes = bytes := by
  constructor
  · intro h
    simp only [ofBytes] at h
    split at h <;> cases h
    rfl
  · rintro rfl
    simp [ofBytes, image.fits]

theorem ofBytes_of_lt {bytes : List UInt8} (h : memorySize < bytes.length) :
    ofBytes bytes = .error (.programTooLarge bytes.length memorySize) := by
  simp only [ofBytes, dif_neg (Nat.not_le.mpr h)]

end Image

end ByteMachine
