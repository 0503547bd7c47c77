import ByteMachine.Output.Sink

/-!
A console writes each value as a decimal line. The output that it writes to may have room for a fixed
number of bytes: it then takes the beginning of what it is given and refuses the rest, and a value
whose line was not taken whole is dropped with a warning.
-/
namespace ByteMachine

/-- An output with an end: a file on a full device, or a pipe that is closed at some point. -/
structure Room where
  bytes : Nat
  refusal : String
  deriving DecidableEq, Repr

structure Console where
  text : String
  /-- Without a bound there is always room. -/
  room : Option Room
  deriving DecidableEq, Repr

/-- The characters that fit in some bytes. Nothing is kept of a character that is cut. -/
def fitting : Nat → List Char → List Char
  | room, c :: text => if c.utf8Size ≤ room then c :: fitting (room - c.utf8Size) text else []
  | _, [] => []

namespace Console

def ofRoom (room : Option Room) : Console := ⟨"", room⟩

def line (value : UInt8) : String := s!"{value.toNat}\n"

def write (console : Console) (piece : String) : Console × Option String :=
  match console.room with
  | none => (⟨console.text ++ piece, none⟩, none)
  | some room =>
    (⟨console.text ++ String.ofList (fitting room.bytes piece.toList),
        some ⟨room.bytes - piece.utf8ByteSize, room.refusal⟩⟩,
      if piece.utf8ByteSize ≤ room.bytes then none else some room.refusal)

instance : Sink Console where
  accept console value :=
    let (console, refusal) := console.write (line value)
    (console, refusal.map (.dropped value))

end Console

end ByteMachine
