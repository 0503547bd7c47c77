import ByteMachine.Text.Letter
import ByteMachine.Text.Pattern.Automaton
import ByteMachine.Text.Pattern.Bracket

/-!
How patterns are written. A dot is any character within a line, a caret the start and a dollar the
end of the text. Round brackets group, bars separate alternatives, square brackets hold classes, and
`*`, `+`, `?` and counts in curly brackets repeat what stands before them; a question mark after one
of these says nothing about whether a text matches. Flags stand behind a question mark in round
brackets and are in force to the end of the group around them, or for a group of their own.

A pattern that is written well may still ask for what is not there, and it may be too large.
-/
namespace ByteMachine

structure PatternPart where
  pattern : Pattern
  span : Span
  depths : Depths
  /-- Flags are no part that could be repeated. -/
  repeatable : Bool

structure PatternBranch where
  begun : Place
  parts : List PatternPart

namespace PatternBranch

def part (branch : PatternBranch) (stop : Place) : PatternPart :=
  let span : Span := ⟨branch.begun, stop⟩
  match branch.parts with
  | [] => ⟨.empty, span, [], false⟩
  | [part] => part
  | parts =>
    let parts := parts.reverse
    ⟨.sequence (parts.map PatternPart.pattern), span,
      .around span (parts.map PatternPart.depths), true⟩

end PatternBranch

/-- A group that is being read, or the whole pattern, with its finished alternatives, the latest
first. -/
structure PatternLevel where
  begun : Place
  branches : List PatternPart
  branch : PatternBranch

namespace PatternLevel

def ofPlace (place : Place) : PatternLevel := ⟨place, [], ⟨place, []⟩⟩

def push (level : PatternLevel) (part : PatternPart) : PatternLevel :=
  { level with branch := { level.branch with parts := part :: level.branch.parts } }

def pop? (level : PatternLevel) : Option (PatternPart × PatternLevel) :=
  match level.branch.parts with
  | part :: parts =>
    if part.repeatable then some (part, { level with branch := { level.branch with parts } })
    else none
  | [] => none

def split (level : PatternLevel) (bar next : Place) : PatternLevel :=
  { level with branches := level.branch.part bar :: level.branches, branch := ⟨next, []⟩ }

def part (level : PatternLevel) (stop : Place) : PatternPart :=
  let last := level.branch.part stop
  if level.branches.isEmpty then last
  else
    let span : Span := ⟨level.begun, stop⟩
    let parts := (last :: level.branches).reverse
    ⟨.choice (parts.map PatternPart.pattern), span, .around span (parts.map PatternPart.depths), true⟩

end PatternLevel

structure OpenGroup where
  opening : Span
  captures : Bool
  flags : PatternFlags
  outer : PatternLevel

/-- Flags that are set, and after a dash flags that are cleared. -/
def PatternFlags.apply (flags : PatternFlags) (letters : List Char) : PatternFlags :=
  (letters.foldl (fun (flags, on) letter =>
    match letter with
    | '-' => (flags, false)
    | 'i' => ({ flags with caseless := on }, on)
    | 'm' => ({ flags with manyLines := on }, on)
    | 's' => ({ flags with dotAll := on }, on)
    | 'u' => ({ flags with wide := on }, on)
    | 'R' => ({ flags with anyLineEnd := on }, on)
    | 'x' => ({ flags with freeSpacing := on }, on)
    | _ => (flags, on)) (flags, true)).1

def isNameStart (c : Char) : Bool := c = '_' || isLetter c

def isNameChar (c : Char) : Bool :=
  c = '_' || c = '.' || c = '[' || c = ']' || isLetterOrNumber c

def countBound : Nat := 0x100000000

namespace PatternRead

def flagLetters : Nat → List (Char × Span) → PatternRead (List Char)
  | 0, _ => do fail .unfinishedFlags (← here)
  | n + 1, letters => do
    match ← peek? with
    | none => fail .unfinishedFlags (← here)
    | some c =>
      if c = ':' ∨ c = ')' then
        match letters with
        | ('-', span) :: _ => fail .danglingNegation span
        | _ => return (letters.map Prod.fst).reverse
      else
        let span ← charSpan
        if c ∉ ['-', 'i', 'm', 's', 'U', 'u', 'R', 'x'] then fail .unknownFlag span
        match letters.find? (·.1 = c) with
        | some (_, earlier) =>
          throw ⟨if c = '-' then .repeatedNegation else .duplicateFlag, span, some earlier⟩
        | none =>
          next
          flagLetters n ((c, span) :: letters)

def groupName : PatternRead Unit := do
  let start ← place
  let name := match (← get).rest with
    | c :: rest => if isNameStart c then c :: rest.takeWhile isNameChar else []
    | [] => []
  modify (PatternScan.drop name.length)
  let span ← since start
  match ← peek? with
  | none => fail .unclosedName (← here)
  | some '>' =>
    next
    if name = [] then fail .emptyName span
    match (← get).names.lookup name with
    | some earlier => throw ⟨.duplicateName, span, some earlier⟩
    | none => modify fun scan => { scan with names := (name, span) :: scan.names }
  | some _ => fail .invalidName (← charSpan)

/-- An opening bracket with what belongs to it: a group to read next, or flags for the rest of the
group around them. -/
def openGroup (outer : PatternLevel) : PatternRead (Option OpenGroup × PatternLevel) := do
  let opening ← charSpan
  let before ← flags
  let enter (captures : Bool) : PatternRead (Option OpenGroup × PatternLevel) :=
    return (some ⟨opening, captures, before, outer⟩, .ofPlace (← place))
  advance
  if (← accept ['?', '=']) || (← accept ['?', '!']) || (← accept ['?', '<', '=']) ||
      (← accept ['?', '<', '!']) then
    fail .lookAround (← since opening.start)
  let inner ← here
  if (← accept ['?', 'P', '<']) || (← accept ['?', '<']) then
    groupName
    enter true
  else if ← accept ['?'] then
    if (← peek?).isNone then fail .unclosedGroup opening
    let letters ← flagLetters ((← get).rest.length + 1) []
    let ending ← peek?
    next
    if ending = some ')' ∧ letters = [] then fail .nothingRepeated inner
    setFlags (before.apply letters)
    if ending = some ')' then
      return (none, outer.push ⟨.empty, ← since opening.start, [], false⟩)
    enter false
  else enter true

def closeGroup (group : OpenGroup) (level : PatternLevel) : PatternRead PatternLevel := do
  setFlags group.flags
  let inner := level.part (← place)
  next
  let span ← since group.opening.start
  let pattern := if group.captures then .group inner.pattern else inner.pattern
  return group.outer.push ⟨pattern, span, .around span [inner.depths], true⟩

def repeatLast (level : PatternLevel) (read : PatternRead (Nat × Option Nat)) :
    PatternRead PatternLevel := do
  match level.pop? with
  | none => fail .nothingRepeated (← here)
  | some (part, level) =>
    let (least, most) ← read
    let span ← since part.span.start
    return level.push ⟨part.pattern.times least most, span, .around span [part.depths], true⟩

def repetition (least : Nat) (most : Option Nat) : PatternRead (Nat × Option Nat) := do
  next
  if (← peek?) = some '?' then next
  return (least, most)

def skipBlanks : PatternRead Unit :=
  modify fun scan => scan.drop (scan.rest.takeWhile isBlank).length

/-- A number, with any blanks around it. What is wrong with it does not count until it is used. -/
def decimal : PatternRead (Except PatternError Nat) := do
  skipBlanks
  let start ← place
  let digits ← collect Char.isDigit
  let span ← since start
  skipBlanks
  skip
  let value := Nat.ofDigitChars 10 digits 0
  if digits = [] then return .error ⟨.emptyNumber, span, none⟩
  if value < countBound then return .ok value
  return .error ⟨.largeNumber, span, none⟩

def count : PatternRead (Nat × Option Nat) := do
  let start ← place
  let unclosed {α : Type} : PatternRead α := do fail .unclosedCount (← since start)
  advance
  if (← peek?).isNone then unclosed
  let least ← decimal
  if (← peek?).isNone then unclosed
  let bounds ←
    if (← peek?) = some ',' then do
      advance
      if (← peek?).isNone then unclosed
      if (← peek?) = some '}' then pure (← least, none)
      else do
        let least ← least
        let most ← decimal
        pure (least, some (← most))
    else do
      let least ← least
      pure (least, some least)
  if (← peek?) ≠ some '}' then unclosed
  advance
  if (← peek?) = some '?' then next
  if bounds.2.any (· < bounds.1) then fail .invertedCount (← since start)
  return bounds

def charPattern (c : Char) (isByte : Bool) (span : Span) : PatternRead Pattern := do
  let flags ← flags
  if isByte && !flags.wide && c.toNat > 0x7F then refuse .brokenText span
  if flags.caseless then
    if flags.wide then refuse .wideCase span
    return .one (foldAsciiCase [(c.toNat, c.toNat)])
  return .single c

def dotPattern (span : Span) : PatternRead Pattern := do
  let flags ← flags
  if !flags.wide then refuse .brokenText span
  let ends : Ranges :=
    if flags.dotAll then [] else if flags.anyLineEnd then [(0x0A, 0x0A), (0x0D, 0x0D)]
    else [(0x0A, 0x0A)]
  return .one (ends.complement topChar)

def atomPattern (atom : Atom) : PatternRead Pattern := do
  match atom.kind with
  | .char c isByte => charPattern c isByte atom.span
  | .look what => return .look what
  | .shorthand shorthand negated => return .one (← shorthandPart shorthand negated atom.span).ranges
  | .property fault =>
    refuseProperty fault atom.span
    return .matchNothing

def simplePart (c : Char) : PatternRead PatternPart := do
  let span ← charSpan
  let flags ← flags
  let only (pattern : Pattern) : PatternRead PatternPart := do
    next
    return ⟨pattern, span, [], true⟩
  match c with
  | '\\' =>
    let atom ← escape
    return ⟨← atomPattern atom, atom.span, [], true⟩
  | '[' =>
    let part ← bracketClass
    return ⟨.one part.ranges, part.span, part.depths, true⟩
  | '.' => only (← dotPattern span)
  | '^' =>
    only (.look (if !flags.manyLines then .start
      else if flags.anyLineEnd then .anyLineStart else .lineStart))
  | '$' =>
    only (.look (if !flags.manyLines then .finish
      else if flags.anyLineEnd then .anyLineFinish else .lineFinish))
  | c => only (← charPattern c false span)

def partsRest : Nat → List OpenGroup → PatternLevel → PatternRead PatternPart
  | 0, _, level => return level.part (← place)
  | n + 1, groups, level => do
    skip
    match ← peek?, groups with
    | none, [] => return level.part (← place)
    | none, group :: _ => fail .unclosedGroup group.opening
    | some '(', groups =>
      match ← openGroup level with
      | (some group, level) => partsRest n (group :: groups) level
      | (none, level) => partsRest n groups level
    | some ')', [] => fail .unopenedGroup (← charSpan)
    | some ')', group :: groups => partsRest n groups (← closeGroup group level)
    | some '|', groups =>
      let bar ← place
      next
      partsRest n groups (level.split bar (← place))
    | some '?', groups => partsRest n groups (← repeatLast level (repetition 0 (some 1)))
    | some '*', groups => partsRest n groups (← repeatLast level (repetition 0 none))
    | some '+', groups => partsRest n groups (← repeatLast level (repetition 1 none))
    | some '{', groups => partsRest n groups (← repeatLast level count)
    | some c, groups => partsRest n groups (level.push (← simplePart c))

/-- A whole pattern. What is written badly counts first, then what is nested too deeply, and then
what cannot be used. -/
def pattern : PatternRead Pattern := do
  let part ← partsRest ((← get).rest.length + 1) [] (.ofPlace (← place))
  if let some span := part.depths[deepestNesting]? then fail .deepNesting span
  if let some refusal := (← get).refusal then throw refusal
  return part.pattern

end PatternRead

inductive PatternRefusal where
  | misread (e : PatternError)
  | wide
  | large
  deriving DecidableEq, Repr

def largestAutomaton : Nat := 10485760

def PatternRefusal.message (text : List Char) : PatternRefusal → String
  | misread e => e.message text
  | wide => "error building NFA"
  | large => s!"Compiled regex exceeds size limit of {largestAutomaton} bytes."

def Pattern.ofText (text : List Char) : Except PatternRefusal Pattern :=
  match (PatternRead.pattern.run (.ofText text)).map Prod.fst with
  | .error e => .error (.misread e)
  | .ok pattern =>
    if pattern.forwardSize > largestAutomaton then .error .large
    else if pattern.isWide then .error .wide
    else if pattern.backwardSize > largestAutomaton then .error .large
    else .ok pattern

end ByteMachine
