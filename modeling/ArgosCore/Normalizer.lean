import ArgosCore.Correlator
import ArgosCore.Foundations.PyText
import Mathlib.Data.Finset.Basic

/-! The normalizer: the one entrance of security events. An event is let in once for
each source and native reference, and only as a document of its schema. -/

namespace ArgosCore

/-- `_WAZUH_LEVEL_THRESHOLDS` -/
def wazuhLevelThresholds : List (Int × String) := [(13, "critical"), (10, "high"), (7, "medium"), (0, "low")]

/-- `_FALCO_PRIORITY_MAP` -/
def falcoPriorityMap : Dict String :=
  [("emergency", "critical"), ("alert", "critical"), ("critical", "critical"), ("error", "high"), ("warning", "medium"),
    ("notice", "medium"), ("informational", "low"), ("debug", "low")]

/-- `_NORMALIZED_LEVELS` -/
def normalizedLevels : List String := ["low", "medium", "high", "critical"]

/-- `normalize_severity` of a text. -/
def normalizeSeverity (source severityNative : String) : String :=
  let value := String.ofList (PyText.lower (PyText.strip severityNative.toList))
  if value ∈ normalizedLevels then value
  else if source = "wazuh" then
    match PyText.int? severityNative with
    | none => "medium"
    | some level => ((wazuhLevelThresholds.find? (·.1 ≤ level)).map Prod.snd).getD "low"
  else if source = "falco" then (falcoPriorityMap.lookup value).getD "medium"
  else "medium"

/-- What a connector produces. Nothing keeps it from passing a native severity that is
not a text. -/
structure RawEvent where
  source : String
  nativeRef : String
  severityNative : Json
  assetId : Option String := none
  workloadId : Option String := none
  deriving DecidableEq

structure NormalizeResult where
  eventId : String
  payload : Json.Object
  deriving DecidableEq

/-- `RejectedEvent`, and what else a call can raise: a native severity without `strip`,
or schema files that cannot be read. -/
inductive ProcessError where
  | rejectedEvent (reason : String) (schemaErrors : List String)
  | attributeError
  | unreadableSchema (message : String)
  deriving DecidableEq

/-- A call of `process`. The answer of the schema is that of the files at the time of
the call: its errors, or the exception that reading them raises. -/
structure ProcessCall where
  raw : RawEvent
  validatePayload : Json.Object → Except String (List String)
  draw : Draw

structure Normalizer where
  context : EnvelopeContext
  seen : Finset (String × String) := ∅

def RawEvent.dedupKey (raw : RawEvent) : String × String := (raw.source, raw.nativeRef)

def RawEvent.payload (raw : RawEvent) (severityNormalized eventId : String) : Json.Object :=
  [("event_id", .str eventId),
    ("source", .str raw.source),
    ("severity_native", raw.severityNative),
    ("severity_normalized", .str severityNormalized)] ++
    ((raw.assetId.filter (· ≠ "")).toList.map fun assetId => ("asset_id", .str assetId)) ++
    ((raw.workloadId.filter (· ≠ "")).toList.map fun workloadId => ("workload_id", .str workloadId))

variable [Runtime]

/-- `build_envelope`, for a message with a native reference. -/
def buildEnvelopeWithRef (context : EnvelopeContext) (payload : Json.Object) (messageId nativeRef : String) (draw : Draw) :
    Json.Object :=
  buildEnvelope context payload messageId draw ++ if nativeRef = "" then [] else [("native_ref", .str nativeRef)]

def duplicateReason (dedupKey : String × String) : String :=
  "duplicado: ya se procesó (" ++ Runtime.reprStr dedupKey.1 ++ ", " ++ Runtime.reprStr dedupKey.2 ++ ")"

namespace Normalizer

def fullPayload (normalizer : Normalizer) (call : ProcessCall) (severityNormalized : String) : Json.Object :=
  let eventId := newIdPrefixed "evt" call.draw.uuid
  let payload := call.raw.payload severityNormalized eventId
  (buildEnvelopeWithRef normalizer.context payload eventId call.raw.nativeRef call.draw).setAll payload

/-- `process`. The key is remembered before anything that can fail, and forgotten only
when the schema finds errors. -/
def process (normalizer : Normalizer) (call : ProcessCall) : Except ProcessError NormalizeResult × Normalizer :=
  let dedupKey := call.raw.dedupKey
  if dedupKey ∈ normalizer.seen then (.error (.rejectedEvent (duplicateReason dedupKey) []), normalizer)
  else
    let reserved := { normalizer with seen := insert dedupKey normalizer.seen }
    match call.raw.severityNative with
    | .str severityNative =>
      let full := normalizer.fullPayload call (normalizeSeverity call.raw.source severityNative)
      match call.validatePayload full with
      | .error message => (.error (.unreadableSchema message), reserved)
      | .ok errors =>
        if errors ≠ [] then
          (.error (.rejectedEvent "schema inválido" errors), { reserved with seen := reserved.seen.erase dedupKey })
        else (.ok ⟨newIdPrefixed "evt" call.draw.uuid, full⟩, reserved)
    | _ => (.error .attributeError, reserved)

end Normalizer

end ArgosCore
