import ByteMachine.Text.Pattern

/-!
How much room a pattern takes as an automaton that reads bytes. A state takes 32 bytes, a way out of
a state that has several of them 4, and a range of bytes in a state that tells several ranges apart
8. A pattern is built into an automaton that reads forwards, which also keeps track of groups, and
into one that reads backwards, which does not. Characters beyond ASCII are read as UTF-8.
-/
namespace ByteMachine

def byteLimits : List Nat := [0x7F, 0x7FF, 0xFFFF, 0x10FFFF]

def utf8Bytes (n : Nat) : List Nat :=
  if n ≤ 0x7F then [n]
  else if n ≤ 0x7FF then [0xC0 + n / 0x40, 0x80 + n % 0x40]
  else if n ≤ 0xFFFF then [0xE0 + n / 0x1000, 0x80 + n / 0x40 % 0x40, 0x80 + n % 0x40]
  else [0xF0 + n / 0x40000, 0x80 + n / 0x1000 % 0x40, 0x80 + n / 0x40 % 0x40, 0x80 + n % 0x40]

/-- Where the characters from `low` to `high` have to be cut in two so that in each part every byte
of the encoding goes through a range of its own: the last character of the first part. -/
def utf8Cut? (low high : Nat) : Option Nat :=
  (byteLimits.find? fun limit => low ≤ limit && limit < high).or <|
    if high ≤ 0x7F then none
    else [0x40, 0x1000, 0x40000].findSome? fun block =>
      if low / block = high / block then none
      else if low % block ≠ 0 then some (low / block * block + (block - 1))
      else if high % block ≠ block - 1 then some (high / block * block - 1)
      else none

/-- The ranges that the bytes go through, for each part. Sixteen cuts deep is deeper than needed. -/
def utf8Ranges (low high : Nat) : Nat → List Ranges
  | 0 => []
  | depth + 1 =>
    if high < low then []
    else if low ≤ 0xDFFF ∧ high ≥ 0xD800 then
      (if low < 0xD800 then utf8Ranges low 0xD7FF depth else []) ++
        (if high > 0xDFFF then utf8Ranges 0xE000 high depth else [])
    else match utf8Cut? low high with
      | some cut => utf8Ranges low cut depth ++ utf8Ranges (cut + 1) high depth
      | none => [(utf8Bytes low).zip (utf8Bytes high)]

def byHead (ways : List Ranges) : List ((Nat × Nat) × List Ranges) :=
  ways.foldr (fun way groups =>
    match way, groups with
    | [], groups => groups
    | first :: rest, [] => [(first, [rest])]
    | first :: rest, (head, tails) :: others =>
      if first = head then (head, rest :: tails) :: others
      else (first, [rest]) :: (head, tails) :: others) []

/-- The states of an automaton that tells apart what is still to come, each as the ways that lead on
from it. Characters have at most four bytes. -/
def forwardStates : Nat → List Ranges → List (List Ranges)
  | 0, _ => []
  | depth + 1, ways =>
    if ways.all (· = []) then []
    else ways :: (byHead ways).flatMap fun (_, tails) => forwardStates depth tails

def total (sizes : List Nat) : Nat := sizes.foldl (· + ·) 0

namespace Ranges

def isAscii (set : Ranges) : Bool := set.all fun (_, high) => high ≤ 0x7F

def utf8 (set : Ranges) : List Ranges :=
  set.flatMap fun (low, high) => utf8Ranges low high 16

def forwardSize (set : Ranges) : Nat :=
  let states := (forwardStates 5 set.utf8).eraseDups
  32 + total (states.map fun ways => 32 + 8 * (byHead ways).length)

/-- Read backwards, ways with the same beginning share the states of it. -/
def backwardSize (set : Ranges) : Nat :=
  let ways := set.utf8
  let states := (ways.flatMap fun way => (List.range way.length).map fun n => way.take (n + 1)).eraseDups
  64 + 4 * ways.length + 32 * states.length

def size (backwards : Bool) (set : Ranges) : Nat :=
  match set with
  | [(low, high)] =>
    if low = high then 32 * (utf8Bytes low).length
    else if high ≤ 0x7F then 72
    else if backwards then set.backwardSize else set.forwardSize
  | _ =>
    if set.isAscii then 64 + 8 * set.length
    else if backwards then set.backwardSize else set.forwardSize

end Ranges

/-- A tree of words: the states in which a word can go on. A word that ends there cuts the words
before it from those after it. -/
def wordTreeSize : Nat → List (List Nat) → Nat
  | 0, _ => 0
  | depth + 1, words =>
    if words.all (· = []) then 0
    else
      let words := if words.head? = some [] then [] :: words.dropWhile (· = []) else words
      let chunks := words.foldr (fun word chunks =>
        match word, chunks with
        | [], chunks => [] :: chunks
        | word, [] => [[word]]
        | word, chunk :: others => (word :: chunk) :: others) [[]]
      let heads (chunk : List (List Nat)) := (chunk.filterMap List.head?).eraseDups
      let filled := chunks.filter (· ≠ [])
      32 + 4 * (filled.length + (chunks.length - 1)) +
        total (filled.map fun chunk =>
          let heads := heads chunk
          (if heads.length = 1 then 32 else 32 + 8 * heads.length) +
            total (heads.map fun head =>
              wordTreeSize depth ((chunk.filter (·.head? = some head)).map List.tail)))

namespace Pattern

def leastLength : Pattern → Option Nat
  | empty | look _ => some 0
  | one set => if set = [] then none else some 1
  | seq first second => do return (← leastLength first) + (← leastLength second)
  | either first second => do return min (← leastLength first) (← leastLength second)
  | group body => leastLength body
  | repeated body least _ => (leastLength body).map (· * least)

def isAnchored : Pattern → Bool
  | look what => what = .start
  | seq first second => isAnchored first || (first.isHollow && isAnchored second)
  | either first second => isAnchored first && isAnchored second
  | group body => isAnchored body
  | repeated body least _ => 0 < least && isAnchored body
  | _ => false

def isAnchoredBehind : Pattern → Bool
  | look what => what = .finish
  | seq first second => isAnchoredBehind second || (second.isHollow && isAnchoredBehind first)
  | either first second => isAnchoredBehind first && isAnchoredBehind second
  | group body => isAnchoredBehind body
  | repeated body least _ => 0 < least && isAnchoredBehind body
  | _ => false

def word? : Pattern → Option (List Nat)
  | one [(low, high)] => if low = high then some (utf8Bytes low) else none
  | seq first second => do return (← word? first) ++ (← word? second)
  | _ => none

/-- The size of a pattern, or of what is left of the alternatives of a larger one. -/
def size (backwards : Bool) : Pattern → (rest : Bool) → Nat
  | either first second, rest =>
    let words := (either first second).alternatives.mapM word?
    match rest, words with
    | false, some words =>
      let words := if backwards then words.map List.reverse else words
      32 + wordTreeSize ((words.map List.length).foldl max 0 + 1) words
    | false, none => 64 + (size backwards first false + 4) + size backwards second true
    | true, _ => size backwards first false + 4 + size backwards second true
  | empty, rest | look _, rest => 32 + (if rest then 4 else 0)
  | one set, rest => set.size backwards + (if rest then 4 else 0)
  | seq first second, rest =>
    size backwards first false + size backwards second false + (if rest then 4 else 0)
  | group body, rest =>
    size backwards body false + (if backwards then 0 else 64) + (if rest then 4 else 0)
  | repeated body least most, rest =>
    let body' := size backwards body false
    let consumes := body.leastLength.any (0 < ·)
    let own := match least, most with
      | 0, some 1 => body' + 72
      | 0, none => if consumes then body' + 40 else body' + 112
      | least, none => least * body' + 40
      | least, some most =>
        let start := if least = 0 then 32 else least * body'
        if least = most then start else start + 32 + (most - least) * (body' + 40)
    own + (if rest then 4 else 0)

/-- A search from all places of a text begins with a loop that no anchored pattern needs. -/
def forwardSize (pattern : Pattern) : Nat :=
  (if pattern.isAnchored then 32 else 112) + 64 + pattern.size false false + 32

def backwardSize (pattern : Pattern) : Nat :=
  (if pattern.isAnchoredBehind then 32 else 112) + pattern.size true false + 32

def isWide : Pattern → Bool
  | look what => what = .wideWord
  | seq first second | either first second => isWide first || isWide second
  | group body | repeated body _ _ => isWide body
  | empty | one _ => false

end Pattern

end ByteMachine
