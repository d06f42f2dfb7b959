import ArgosCore.Runtime

/-! Deterministic sanitization: the rules of a policy, in the order of their paths,
rewrite a copy of the payload. A path names a field or a field of a nested object. -/

namespace ArgosCore

inductive TransformationOp where
  | removeField
  | redactField
  | tokenizeField
  | generalizeValue
  | dropAttachment
  deriving DecidableEq, Repr

def redactedPlaceholder : String := "***REDACTED***"

structure SanitizationRule where
  fieldPath : String
  operation : TransformationOp
  detail : String := ""
  deriving DecidableEq

structure Transformation where
  fieldPath : String
  operation : TransformationOp
  detail : String
  deriving DecidableEq

structure SanitizationResult where
  originalHash : String
  releasedHash : String
  releasedPayload : Json.Object
  transformations : List Transformation
  fieldsRemoved : List String

def splitAtDot : List Char → List Char × Option (List Char)
  | [] => ([], none)
  | c :: chars =>
    if c = '.' then ([], some chars)
    else
      let (parent, child) := splitAtDot chars
      (c :: parent, child)

/-- `_split`: the path up to its first dot, and what follows it. -/
def splitPath (fieldPath : String) : String × Option String :=
  let (parent, child) := splitAtDot fieldPath.toList
  (String.ofList parent, child.map String.ofList)

example : splitPath "metadata.note" = ("metadata", some "note") := by decide

variable [Runtime]

/-- `_tokenize` -/
def tokenize (fieldPath : String) (value : Json) : String :=
  "tok_" ++ String.ofList ((Runtime.sha256 (fieldPath ++ ":" ++ value.canonical).toUTF8).toList.take 16)

/-- What an operation leaves in the place of a value. -/
def SanitizationRule.replacement (rule : SanitizationRule) (value : Json) : Option Json :=
  match rule.operation with
  | .removeField | .dropAttachment => none
  | .redactField => some (.str redactedPlaceholder)
  | .tokenizeField => some (.str (tokenize rule.fieldPath value))
  | .generalizeValue => some (.str (if rule.detail = "" then "GENERALIZED" else rule.detail))

/-- `_apply_one`; `none` when the path is not there. -/
def applyOne (working : Json.Object) (rule : SanitizationRule) : Option (Json.Object × Transformation) := do
  let (top, nested) := splitPath rule.fieldPath
  let value ← working.lookup top
  let applied : Transformation := ⟨rule.fieldPath, rule.operation, rule.detail⟩
  match nested with
  | none => return (working.put top (rule.replacement value), applied)
  | some key =>
    let .obj members := value | none
    let inner ← members.lookup key
    return (working.set top (.obj (Dict.put members key (rule.replacement inner))), applied)

def removesField : TransformationOp → Bool
  | .removeField | .dropAttachment => true
  | _ => false

/-- What the loop of `apply_sanitization` carries. -/
structure Sanitizing where
  working : Json.Object
  transformations : List Transformation
  fieldsRemoved : List String

def sanitizeStep (state : Sanitizing) (rule : SanitizationRule) : Sanitizing :=
  match applyOne state.working rule with
  | none => state
  | some (working, applied) =>
    { working
      transformations := state.transformations ++ [applied]
      fieldsRemoved := if removesField rule.operation then state.fieldsRemoved ++ [rule.fieldPath] else state.fieldsRemoved }

/-- `sorted(rules, key=lambda r: r.field_path)` -/
def sortedRules (rules : List SanitizationRule) : List SanitizationRule :=
  rules.insertionSort fun left right => left.fieldPath ≤ right.fieldPath

def applySanitization (payload : Json.Object) (rules : List SanitizationRule) : SanitizationResult :=
  let final := (sortedRules rules).foldl sanitizeStep ⟨payload, [], []⟩
  { originalHash := hashJson (.obj payload)
    releasedHash := hashJson (.obj final.working)
    releasedPayload := final.working
    transformations := final.transformations
    fieldsRemoved := final.fieldsRemoved }

end ArgosCore
