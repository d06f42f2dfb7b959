import ArgosCore.Foundations.Xml
import ArgosCore.RuleEngineering.Backtest
import ArgosCore.Runtime

/-! The compiler from rule specs to the XML of a Wazuh rule. -/

namespace ArgosCore
open Xml

/-- An attribute that a value does not have is a type error here. -/
inductive CompileError where
  | invalidRuleId (message : String)
  | keyError (key : String)
  | typeError
  deriving DecidableEq, Repr

/-- What the compiler reads of a rule spec. A setting that is falsy counts as absent. -/
structure CompiledRule where
  severityLevel : Json
  frequency : Option Json
  timeframe : Option Json
  parentRuleSid : Option Json
  sameSourceIp : Bool
  sameUser : Bool
  description : String
  mitreIds : List String
  groups : List String

namespace RuleCompiler

def required (ruleSpec : Json.Object) (key : String) : Except CompileError Json := Json.item ruleSpec key (.keyError key)

/-- `if value:` -/
def given (value : Json) : Option Json := if value.truthy then some value else none

/-- What is written for the text of an element: nothing for a falsy one. -/
def textOf (value : Json) : Except CompileError String :=
  match given value with
  | none => .ok ""
  | some (.str text) => .ok text
  | some _ => .error .typeError

/-- What a loop over `value or []` goes through. -/
def itemsOf (value : Json) : Except CompileError (List Json) :=
  match given value with
  | none => .ok []
  | some (.arr items) => .ok items
  | some (.obj members) => .ok (members.map fun member => .str member.1)
  | some (.str text) => .ok (text.toList.map fun c => .str (String.singleton c))
  | some _ => .error .typeError

def joinedText : Json → Except CompileError String
  | .str text => .ok text
  | _ => .error .typeError

/-- The reading half of `compile_rule_spec_to_xml`. -/
def readRule (ruleSpec : Json.Object) : Except CompileError CompiledRule := do
  let severityLevel ← required ruleSpec "severity_level"
  let correlation ← (Backtest.correlationOf ruleSpec).mapError fun _ => .typeError
  let description ← required ruleSpec "description"
  let mitreIds ← itemsOf (Json.get ruleSpec "mitre_ids")
  let groups ← itemsOf (Json.get ruleSpec "groups")
  return {
    severityLevel
    frequency := given (Json.get correlation "frequency")
    timeframe := given (Json.get correlation "timeframe_seconds")
    parentRuleSid := given (Json.get ruleSpec "parent_rule_sid")
    sameSourceIp := (Json.get correlation "same_source_ip").truthy
    sameUser := (Json.get correlation "same_user").truthy
    description := ← textOf description
    mitreIds := ← mitreIds.mapM textOf
    groups := ← groups.mapM joinedText }

end RuleCompiler

variable [Runtime]

namespace CompiledRule
open RuleCompiler

def attributes (rule : CompiledRule) (ruleId : Int) : List (Name × String) :=
  [(⟨"id", by decide⟩, toString ruleId), (⟨"level", by decide⟩, strJson rule.severityLevel)] ++
    (rule.frequency.map fun frequency => (⟨"frequency", by decide⟩, strJson frequency)).toList ++
    (rule.timeframe.map fun timeframe => (⟨"timeframe", by decide⟩, strJson timeframe)).toList

omit [Runtime] in
/-- `",".join(groups) + ","` -/
def groupText (rule : CompiledRule) : String := String.intercalate "," rule.groups ++ ","

def children (rule : CompiledRule) : List Element :=
  (rule.parentRuleSid.map fun sid => .leaf ⟨"if_matched_sid", by decide⟩ [] (strJson sid)).toList ++
    (if rule.sameSourceIp then [.leaf ⟨"same_source_ip", by decide⟩ [] ""] else []) ++
    (if rule.sameUser then [.leaf ⟨"same_user", by decide⟩ [] ""] else []) ++
    [.leaf ⟨"description", by decide⟩ [] rule.description] ++
    (if rule.mitreIds = [] then [] else [.holding ⟨"mitre", by decide⟩ [] (rule.mitreIds.map (.leaf ⟨"id", by decide⟩ []))]) ++
    (if rule.groups = [] then [] else [.leaf ⟨"group", by decide⟩ [] rule.groupText])

/-- The building half of `compile_rule_spec_to_xml`. -/
def element (rule : CompiledRule) (ruleId : Int) : Element :=
  .holding ⟨"rule", by decide⟩ (rule.attributes ruleId) rule.children

end CompiledRule

def compileRuleSpecToXml (ruleSpec : Json.Object) (ruleId : Int) : Except CompileError String :=
  if 100000 ≤ ruleId ∧ ruleId ≤ 120000 then do
    let rule ← RuleCompiler.readRule ruleSpec
    return (rule.element ruleId).document 4
  else
    .error (.invalidRuleId ("rule_id=" ++ toString ruleId ++
      " fuera del rango reservado para reglas custom (100000-120000)"))

end ArgosCore
