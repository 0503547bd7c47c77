/-!
Sets of numbers as ranges, both ends included, in ascending order. Ranges that are built here never
touch, so that each set has one form.
-/
namespace ByteMachine

abbrev Ranges := List (Nat × Nat)

namespace Ranges

/-- The ranges must ascend. -/
def contains (n : Nat) : Ranges → Bool
  | [] => false
  | (low, high) :: rest => if n < low then false else n ≤ high || contains n rest

/-- One more range; those that it meets or touches become one with it. -/
def insert (low high : Nat) : Ranges → Ranges
  | [] => [(low, high)]
  | (l, h) :: rest =>
    if high + 1 < l then (low, high) :: (l, h) :: rest
    else if h + 1 < low then (l, h) :: insert low high rest
    else insert (min low l) (max high h) rest

def union (some others : Ranges) : Ranges :=
  others.foldl (fun all (low, high) => insert low high all) some

def gaps (start top : Nat) : Ranges → Ranges
  | [] => if start ≤ top then [(start, top)] else []
  | (low, high) :: rest =>
    if start < low then (start, low - 1) :: gaps (high + 1) top rest else gaps (high + 1) top rest

def complement (top : Nat) (ranges : Ranges) : Ranges := gaps 0 top ranges

def intersection (top : Nat) (some others : Ranges) : Ranges :=
  complement top (union (complement top some) (complement top others))

def difference (top : Nat) (some others : Ranges) : Ranges :=
  intersection top some (complement top others)

end Ranges

end ByteMachine
