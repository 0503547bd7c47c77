/-!
The flags: what the last comparison found, or nothing before the first. They are shown as a byte
with one bit for each outcome and as three letters.
-/
namespace ByteMachine

structure Flags where
  outcome : Option Ordering
  deriving DecidableEq, Repr

namespace Flags

def clear : Flags := ⟨none⟩

def ofComparison (x y : UInt8) : Flags :=
  ⟨some (if x.toNat < y.toNat then .lt else if y.toNat < x.toNat then .gt else .eq)⟩

def bit : Ordering → UInt8
  | .lt => 0b100
  | .gt => 0b010
  | .eq => 0b001

def bits (flags : Flags) : UInt8 := (flags.outcome.map bit).getD 0

def less (flags : Flags) : Bool := flags.outcome = some .lt

def greater (flags : Flags) : Bool := flags.outcome = some .gt

def equal (flags : Flags) : Bool := flags.outcome = some .eq

def text (flags : Flags) : String :=
  String.ofList [if flags.less then 'L' else '-', if flags.greater then 'G' else '-',
    if flags.equal then 'E' else '-']

theorem bits_injective {f g : Flags} (h : f.bits = g.bits) : f = g := by
  rcases f with ⟨_ | _ | _ | _⟩ <;> rcases g with ⟨_ | _ | _ | _⟩ <;>
    simp_all [bits, bit]

end Flags

end ByteMachine
