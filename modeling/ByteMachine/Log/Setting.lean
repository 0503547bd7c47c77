import ByteMachine.Log.Filter
import ByteMachine.Text.Blank
import ByteMachine.Text.Pattern.Reading
import ByteMachine.Text.Split

/-!
Log settings: filters in writing. A setting is a list of rules between commas and, after a slash, a
pattern. A rule is a threshold, a scope, or a scope and a threshold with an equals sign between
them. What makes no sense is told and otherwise ignored.
-/
namespace ByteMachine

inductive SettingFault where
  | badRule (text : List Char)
  | manySlashes (text : List Char)
  | badPattern (text : List Char) (refusal : PatternRefusal)
  deriving DecidableEq, Repr

namespace SettingFault

def message : SettingFault → String
  | badRule text => s!"invalid logging spec '{String.ofList text}'"
  | manySlashes text => s!"invalid logging spec '{String.ofList text}' (too many '/'s)"
  | badPattern text refusal => s!"invalid regex filter - {refusal.message text}"

def line (fault : SettingFault) : String := s!"warning: {fault.message}, ignoring it"

end SettingFault

/-- A scope alone asks for everything from there, and so does one without a threshold after its
equals sign. -/
def Rule.ofText (text : List Char) : Except SettingFault Rule :=
  match splitAtEvery '=' text with
  | [word] =>
    match Threshold.ofName? (String.ofList word) with
    | some threshold => .ok ⟨none, threshold⟩
    | none => .ok ⟨some (String.ofList word), .everything⟩
  | [scope, word] =>
    let word := strip word
    match Threshold.ofName? (String.ofList word) with
    | some threshold => .ok ⟨some (String.ofList scope), threshold⟩
    | none =>
      if word = [] then .ok ⟨some (String.ofList scope), .everything⟩ else .error (.badRule word)
  | _ => .error (.badRule text)

structure LogSetting where
  filter : Filter
  faults : List SettingFault

namespace LogSetting

def ofRules (rules : List Rule) (pattern : Option Pattern) (faults : List SettingFault) :
    LogSetting :=
  ⟨⟨if rules = [] then [⟨none, ⟨some .error⟩⟩] else rules, pattern⟩, faults⟩

def readRules (text : List Char) : List Rule × List SettingFault :=
  let parts := ((splitAtEvery ',' text).map strip).filter (· ≠ [])
  parts.foldl (fun (rules, faults) part =>
    match Rule.ofText part with
    | .ok rule => (putRule rules rule, faults)
    | .error fault => (rules, faults ++ [fault])) ([], [])

def ofText (text : String) : LogSetting :=
  match splitAtEvery '/' text.toList with
  | [written] =>
    let (rules, faults) := readRules written
    ofRules rules none faults
  | [written, pattern] =>
    let (rules, faults) := readRules written
    match Pattern.ofText pattern with
    | .ok pattern => ofRules rules (some pattern) faults
    | .error refusal => ofRules rules none (faults ++ [.badPattern pattern refusal])
  | _ => ofRules [] none [.manySlashes text.toList]

def ofVerbosity (verbosity : Nat) : LogSetting := ⟨.ofThreshold (.ofVerbosity verbosity), []⟩

def complaints (setting : LogSetting) : String :=
  String.join (setting.faults.map fun fault => fault.line ++ "\n")

end LogSetting

end ByteMachine
