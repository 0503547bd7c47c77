import ByteMachine.Log.Notice
import ByteMachine.Text.Pattern

/-!
Filters, which decide on every notice whether it is shown. Each source has one rule that decides on
it, and that rule says how much of it is shown; a pattern can then ask for certain words. A plain
threshold is a filter with a single rule for all sources.
-/
namespace ByteMachine

structure Rule where
  scope : Option String
  threshold : Threshold
  deriving DecidableEq, Repr

namespace Rule

def covers (rule : Rule) (source : String) : Bool :=
  (rule.scope.getD "").toList.isPrefixOf source.toList

def narrowness (rule : Rule) : Nat := (rule.scope.getD "").utf8ByteSize

end Rule

/-- Rules with the scopes in the order in which they first came up. A rule takes the place of an
earlier one with the same scope. -/
def putRule (rules : List Rule) (rule : Rule) : List Rule :=
  if rules.any (·.scope = rule.scope) then
    rules.map fun other => if other.scope = rule.scope then rule else other
  else rules ++ [rule]

structure Filter where
  rules : List Rule
  pattern : Option Pattern

namespace Filter

def ofThreshold (threshold : Threshold) : Filter := ⟨[⟨none, threshold⟩], none⟩

def prefer (source : String) (found : Option Rule) (rule : Rule) : Option Rule :=
  if rule.covers source ∧ found.all (·.narrowness ≤ rule.narrowness) then some rule else found

/-- The narrowest rule that covers a source, the last of them if several are equally narrow. -/
def deciding (filter : Filter) (source : String) : Option Rule :=
  filter.rules.foldl (prefer source) none

def admits (filter : Filter) (notice : Notice) : Bool :=
  (filter.deciding notice.source).any (·.threshold.admits notice.level) &&
    filter.pattern.all (·.occursIn notice.message.toList)

theorem admits_ofThreshold (threshold : Threshold) (notice : Notice) :
    (ofThreshold threshold).admits notice = threshold.admits notice.level := by
  simp [admits, deciding, prefer, ofThreshold, Rule.covers]

end Filter

end ByteMachine
