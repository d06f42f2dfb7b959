import ArgosCore.DmzDetector
import ArgosCore.EvidenceWriter
import ArgosCore.Foundations.Sealed

/-! The chain of services from a signal to an incident. The normalizer lets raw events in one
by one, and the correlator reads the documents that it returns. -/

namespace ArgosCore

def eventFields : List String :=
  ["id", "event_id", "observed_at", "source", "asset_id", "severity_normalized", "correlation"]

def countAt (dict : Json.Object) (key : String) : Option Nat :=
  match dict.lookup key with
  | some (.int (.ofNat count)) => some count
  | _ => none

def textsAt (dict : Json.Object) (key : String) : Option (List String) :=
  match dict.lookup key with
  | some (.arr items) => items.mapM fun
    | .str text => some text
    | _ => none
  | _ => none

def correlationFields : List String :=
  ["correlation_key", "occurrence_count", "first_seen", "last_seen", "related_event_refs"]

def Correlation.ofDict (correlation : Json.Object) : Correlation where
  correlationKey := textAt correlation "correlation_key"
  occurrenceCount := countAt correlation "occurrence_count"
  firstSeen := textAt correlation "first_seen"
  lastSeen := textAt correlation "last_seen"
  relatedEventRefs := textsAt correlation "related_event_refs"
  rest := correlation.opened correlationFields

/-- A document as the correlator reads it. The keys it needs are texts in every document of
the schema. -/
def SecurityEvent.ofDict (document : Json.Object) : Option SecurityEvent := do
  return {
    id := ← textAt document "id"
    eventId := ← textAt document "event_id"
    observedAt := ← textAt document "observed_at"
    source := ← textAt document "source"
    assetId := textAt document "asset_id"
    severityNormalized := textAt document "severity_normalized"
    correlation := match document.lookup "correlation" with
      | some (.obj correlation) => some (.ofDict correlation)
      | _ => none
    rest := document.opened eventFields }

/-- `event.get("native_ref", "")` -/
def SecurityEvent.nativeRef (event : SecurityEvent) : String := (textAt event.rest "native_ref").getD ""

variable [Runtime]

/-- The calls of a run that are let in, with what is returned. A caller goes on after a
rejection, as after any other exception. -/
def Normalizer.intake (normalizer : Normalizer) : List ProcessCall → List (ProcessCall × NormalizeResult)
  | [] => []
  | call :: calls =>
    match normalizer.process call with
    | (.ok result, after) => (call, result) :: after.intake calls
    | (.error _, after) => after.intake calls

end ArgosCore
