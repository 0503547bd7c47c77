import ByteMachine.Image.Basic
import ByteMachine.Image.Binary
import ByteMachine.Log.Notice
import ByteMachine.Text.Line

/-!
Loading program text. Each line gives one byte or is skipped, and the bytes in line order are the
image. Whether they fit is asked once all lines have been read, so a text that is too large has
still named every line it skipped.
-/
namespace ByteMachine

structure SourceLine where
  number : Nat
  text : List Char
  deriving DecidableEq, Repr

def SourceLine.byte? (line : SourceLine) : Option UInt8 := lineByte? line.text

def sourceLines (text : List Char) : List SourceLine :=
  (lines text).mapIdx fun i line => ⟨i + 1, line⟩

structure Report where
  image : Image
  skipped : List Nat
  deriving DecidableEq, Repr

structure Loading where
  result : Except LoadError Report
  notices : List Notice

namespace Loading

def ofText (text : List Char) : Loading :=
  let source := sourceLines text
  let bytes := source.filterMap SourceLine.byte?
  let skipped := source.filter fun line => line.byte?.isNone
  let remarks := skipped.map fun line => Notice.skippedLine line.number line.text
  match Image.ofBytes bytes with
  | .error e => ⟨.error e, remarks⟩
  | .ok image =>
    ⟨.ok ⟨image, skipped.map SourceLine.number⟩,
      remarks ++ [.parsed image.length skipped.length]⟩

end Loading

def Image.ofText (text : List Char) : Except LoadError Image :=
  (Loading.ofText text).result.map Report.image

end ByteMachine
