import ByteMachine.Text.Place

/-!
What can be wrong with a written pattern.
-/
namespace ByteMachine

inductive PatternFault where
  | invertedRange
  | rangeOfClass
  | misplacedEscape
  | unclosedClass
  | largeNumber
  | emptyNumber
  | invertedCount
  | unclosedCount
  | nothingRepeated
  | emptyHex
  | invalidHex
  | invalidHexDigit
  | unfinishedEscape
  | unknownEscape
  | backReference
  | danglingNegation
  | repeatedNegation
  | duplicateFlag
  | unfinishedFlags
  | unknownFlag
  | duplicateName
  | emptyName
  | invalidName
  | unclosedName
  | lookAround
  | unclosedGroup
  | unopenedGroup
  | deepNesting
  | unfinishedBoundary
  | unclosedBoundary
  | unknownBoundary
  | invalidProperty
  | onlyAscii
  | brokenText
  | unknownProperty
  | unknownPropertyValue
  | wideClass
  | wideCase
  deriving DecidableEq, Repr

/-- How deep groups, classes, repetitions and lists may stand in each other. -/
def deepestNesting : Nat := 250

namespace PatternFault

def message : PatternFault → String
  | invertedRange => "invalid character class range, the start must be <= the end"
  | rangeOfClass => "invalid range boundary, must be a literal"
  | misplacedEscape => "invalid escape sequence found in character class"
  | unclosedClass => "unclosed character class"
  | largeNumber => "decimal literal invalid"
  | emptyNumber => "repetition quantifier expects a valid decimal"
  | invertedCount => "invalid repetition count range, the start must be <= the end"
  | unclosedCount => "unclosed counted repetition"
  | nothingRepeated => "repetition operator missing expression"
  | emptyHex => "hexadecimal literal empty"
  | invalidHex => "hexadecimal literal is not a Unicode scalar value"
  | invalidHexDigit => "invalid hexadecimal digit"
  | unfinishedEscape => "incomplete escape sequence, reached end of pattern prematurely"
  | unknownEscape => "unrecognized escape sequence"
  | backReference => "backreferences are not supported"
  | danglingNegation => "dangling flag negation operator"
  | repeatedNegation => "flag negation operator repeated"
  | duplicateFlag => "duplicate flag"
  | unfinishedFlags => "expected flag but got end of regex"
  | unknownFlag => "unrecognized flag"
  | duplicateName => "duplicate capture group name"
  | emptyName => "empty capture group name"
  | invalidName => "invalid capture group character"
  | unclosedName => "unclosed capture group name"
  | lookAround => "look-around, including look-ahead and look-behind, is not supported"
  | unclosedGroup => "unclosed group"
  | unopenedGroup => "unopened group"
  | deepNesting =>
    s!"exceed the maximum number of nested parentheses/brackets ({deepestNesting})"
  | unfinishedBoundary =>
    "found either the beginning of a special word boundary or a bounded repetition on a \\b " ++
      "with an opening brace, but no closing brace"
  | unclosedBoundary =>
    "special word boundary assertion is either unclosed or contains an invalid character"
  | unknownBoundary =>
    "unrecognized special word boundary assertion, valid choices are: start, end, start-half " ++
      "or end-half"
  | invalidProperty => "invalid Unicode character class"
  | onlyAscii => "Unicode not allowed here"
  | brokenText => "pattern can match invalid UTF-8"
  | unknownProperty => "Unicode property not found"
  | unknownPropertyValue => "Unicode property value not found"
  | wideClass =>
    "Unicode-aware Perl class not found (make sure the unicode-perl feature is enabled)"
  | wideCase =>
    "Unicode-aware case insensitivity matching is not available (make sure the unicode-case " ++
      "feature is enabled)"

end PatternFault

structure PatternError where
  fault : PatternFault
  span : Span
  earlier : Option Span
  deriving DecidableEq, Repr

namespace PatternError

/-- The written pattern with notes on it, and what is wrong. A pattern of several lines stands
between rules, and spans that cross lines are told apart from the notes. -/
def message (e : PatternError) (text : List Char) : String :=
  let spans := match e.earlier with
    | none => [e.span]
    | some earlier => if earlier.isBefore e.span then [earlier, e.span] else [e.span, earlier]
  let notes := notated text spans
  let rule := if '\n' ∈ text then String.ofList (List.replicate 79 '~') ++ "\n" else ""
  let courses := (spans.filter (! ·.isOneLine)).map fun span => span.course ++ "\n"
  "regex parse error:\n" ++ rule ++ notes ++ rule ++ String.join courses ++
    s!"error: {e.fault.message}"

end PatternError

end ByteMachine
