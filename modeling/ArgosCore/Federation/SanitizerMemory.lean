import ArgosCore.Federation.Sanitizer

/-! The sanitizer on dictionaries in memory. A field refers to a nested dictionary by its
address, and the loop rewrites dictionaries where they lie: those of a deep copy. -/

namespace ArgosCore

/-- What a field holds: a nested dictionary, by its address, or a value that is none. -/
inductive Held where
  | dict (address : Nat)
  | value (json : Json)

/-- The payloads and the dictionaries nested in them, by address. What lies deeper is
never written and stays part of the values. -/
structure Memory where
  payloads : List (Dict Held)
  nested : List Json.Object

def Held.json (nested : List Json.Object) : Held → Json
  | .dict address => .obj (nested.getD address [])
  | .value json => json

def documentOf (nested : List Json.Object) (fields : Dict Held) : Json.Object :=
  fields.map fun field => (field.1, field.2.json nested)

namespace Memory

def fields (memory : Memory) (address : Nat) : Dict Held := memory.payloads.getD address []

def read (memory : Memory) (address : Nat) : Json.Object := documentOf memory.nested (memory.fields address)

/-- `container[key] = …` or `del container[key]`, on a payload. -/
def putField (memory : Memory) (address : Nat) (key : String) (value : Option Json) : Memory :=
  { memory with payloads := memory.payloads.modify address fun fields => fields.put key (value.map .value) }

/-- The same on a nested dictionary. -/
def putMember (memory : Memory) (address : Nat) (key : String) (value : Option Json) : Memory :=
  { memory with nested := memory.nested.modify address fun members => Dict.put members key value }

end Memory

variable [Runtime]

/-- `_apply_one`, in place -/
def applyOneIn (memory : Memory) (working : Nat) (rule : SanitizationRule) : Option (Memory × Transformation) := do
  let (top, nested) := splitPath rule.fieldPath
  let held ← (memory.fields working).lookup top
  let applied : Transformation := ⟨rule.fieldPath, rule.operation, rule.detail⟩
  match nested with
  | none => return (memory.putField working top (rule.replacement (held.json memory.nested)), applied)
  | some key =>
    let .dict container := held | none
    let inner ← (memory.nested.getD container []).lookup key
    return (memory.putMember container key (rule.replacement inner), applied)

structure SanitizingIn where
  memory : Memory
  transformations : List Transformation
  fieldsRemoved : List String

def sanitizeStepIn (working : Nat) (state : SanitizingIn) (rule : SanitizationRule) : SanitizingIn :=
  match applyOneIn state.memory working rule with
  | none => state
  | some (memory, applied) =>
    { memory
      transformations := state.transformations ++ [applied]
      fieldsRemoved := if removesField rule.operation then state.fieldsRemoved ++ [rule.fieldPath] else state.fieldsRemoved }

end ArgosCore
