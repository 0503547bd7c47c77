/-!
Log levels, and thresholds that decide which of them are shown.
-/
namespace ByteMachine

inductive Level where
  | error
  | warn
  | info
  | debug
  | trace
  deriving DecidableEq, Repr

namespace Level

def text : Level → String
  | error => "ERROR"
  | warn => "WARN"
  | info => "INFO"
  | debug => "DEBUG"
  | trace => "TRACE"

def column (level : Level) : String := String.ofList (level.text.toList.rightpad 5 ' ')

def rank : Level → Nat
  | error => 1
  | warn => 2
  | info => 3
  | debug => 4
  | trace => 5

theorem rank_injective {l k : Level} (h : l.rank = k.rank) : l = k := by
  cases l <;> cases k <;> simp_all [rank]

end Level

structure Threshold where
  most : Option Level
  deriving DecidableEq, Repr

namespace Threshold

def off : Threshold := ⟨none⟩

def everything : Threshold := ⟨some .trace⟩

def rank (threshold : Threshold) : Nat := (threshold.most.map Level.rank).getD 0

def admits (threshold : Threshold) (level : Level) : Bool := level.rank ≤ threshold.rank

def ofName? (name : String) : Option Threshold :=
  match name.toLower with
  | "off" => some off
  | "error" => some ⟨some .error⟩
  | "warn" => some ⟨some .warn⟩
  | "info" => some ⟨some .info⟩
  | "debug" => some ⟨some .debug⟩
  | "trace" => some ⟨some .trace⟩
  | _ => none

def ofVerbosity : Nat → Threshold
  | 0 => ⟨some .warn⟩
  | 1 => ⟨some .debug⟩
  | _ => everything

theorem admits_mono {s t : Threshold} {level : Level} (h : s.rank ≤ t.rank)
    (shown : s.admits level = true) : t.admits level = true := by
  simp only [admits, decide_eq_true_eq] at shown ⊢
  omega

end Threshold

end ByteMachine
