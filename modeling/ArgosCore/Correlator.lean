import ArgosCore.Foundations.ByKey
import ArgosCore.Foundations.IsoParse
import ArgosCore.Runtime

/-! From security events to incidents: events of one correlation key collapse to the
oldest one, events of one asset are grouped by the gaps between them, and a group
becomes an incident. -/

namespace ArgosCore
open IsoTime

/-- `correlation` of an event: what the collapse writes, and the rest of its members. -/
structure Correlation where
  correlationKey : Option String := none
  occurrenceCount : Option Nat := none
  firstSeen : Option String := none
  lastSeen : Option String := none
  relatedEventRefs : Option (List String) := none
  rest : Json.Object := []
  deriving DecidableEq

/-- An event as the correlator reads it; `rest` are the members it only carries along. -/
structure SecurityEvent where
  id : String
  eventId : String
  observedAt : String
  source : String
  assetId : Option String := none
  severityNormalized : Option String := none
  correlation : Option Correlation := none
  rest : Json.Object := []
  deriving DecidableEq, Inhabited

inductive CorrelatorError where
  | invalidTimestamp (text : String)
  | naiveAndAware
  | noMembers
  deriving DecidableEq

/-- `_parse` -/
def parse (observedAt : String) : Except CorrelatorError DateTime :=
  match fromisoformat observedAt with
  | none => .error (.invalidTimestamp observedAt)
  | some time => .ok time

/-- Where a datetime stands among those it can be compared with: aware ones by their
instants, naive ones by the wall clock. -/
def point (time : DateTime) : Int := time.wall - time.offset.getD 0

/-- The events in the order of their times. Comparing naive and aware datetimes is a
type error, which any sort of a list with both kinds runs into. -/
def orderBy (times : List DateTime) (events : List SecurityEvent) : Except CorrelatorError (List (Int × SecurityEvent)) :=
  if times.all (·.offset.isSome) || times.all (·.offset.isNone) then
    .ok (ByKey.sortedOn Prod.fst ((times.map point).zip events))
  else .error .naiveAndAware

/-- `sorted(events, key=lambda e: _parse(e["observed_at"]))`, each event with its time. -/
def sortByTime (events : List SecurityEvent) : Except CorrelatorError (List (Int × SecurityEvent)) := do
  orderBy (← events.mapM fun event => parse event.observedAt) events

def SecurityEvent.assetKey (event : SecurityEvent) : String := event.assetId.getD "unknown"

/-- `(event.get("correlation") or {}).get("correlation_key")`, when it is truthy. -/
def SecurityEvent.correlationKey (event : SecurityEvent) : Option String :=
  (event.correlation.bind Correlation.correlationKey).filter (· ≠ "")

/-- The loop over the events of one asset: a gap wider than the window closes the group. -/
def splitGaps (window : Int) : List (Int × SecurityEvent) → List SecurityEvent → Option Int → List (List SecurityEvent)
  | [], current, _ => if current = [] then [] else [current]
  | (time, event) :: later, current, last =>
    if last.any fun last => time - last > window then current :: splitGaps window later [event] (some time)
    else splitGaps window later (current ++ [event]) (some time)

def groupByAssetAndWindow (events : List SecurityEvent) (window : Int) :
    Except CorrelatorError (List (List SecurityEvent)) := do
  let groups ← (ByKey.groupBy (fun event => some event.assetKey) events).mapM fun asset => do
    let ordered ← sortByTime asset.2
    return splitGaps window ordered [] none
  return groups.flatten

/-- The event that stands for a key: its oldest one, with the summary of all. -/
def collapsed (key : String) (base : SecurityEvent) (others : List SecurityEvent) : SecurityEvent :=
  { base with
    correlation := some { base.correlation.getD {} with
      correlationKey := some key
      occurrenceCount := some (base :: others).length
      firstSeen := some base.observedAt
      lastSeen := some ((base :: others).getLast (List.cons_ne_nil _ _)).observedAt
      relatedEventRefs := some ((base :: others).map SecurityEvent.id) } }

def collapse (key : String) (group : List SecurityEvent) : Except CorrelatorError SecurityEvent := do
  let ordered ← sortByTime group
  match ordered.map Prod.snd with
  | [] => throw .noMembers
  | base :: others => return collapsed key base others

/-- The second loop of `dedupe_by_correlation_key`: the first event of a key stands for
the key, an event without one for itself. -/
def emit (grouped : Dict (List SecurityEvent)) :
    List SecurityEvent → List String → Except CorrelatorError (List SecurityEvent)
  | [], _ => return []
  | event :: events, emitted =>
    match event.correlationKey with
    | none => return event :: (← emit grouped events emitted)
    | some key =>
      if key ∈ emitted then emit grouped events emitted
      else do
        let representative ← collapse key ((grouped.lookup key).getD [])
        return representative :: (← emit grouped events (key :: emitted))

def dedupeByCorrelationKey (events : List SecurityEvent) : Except CorrelatorError (List SecurityEvent) :=
  emit (ByKey.groupBy SecurityEvent.correlationKey events) events []

/-- `_SEVERITY_ORDER.get(severity, 0)` -/
def severityRank : String → Nat
  | "medium" => 1
  | "high" => 2
  | "critical" => 3
  | _ => 0

def SecurityEvent.severity (event : SecurityEvent) : String := event.severityNormalized.getD "low"

structure EnvelopeContext where
  producer : String
  runId : String
  classification : String := "internal"
  traceId : Option String := none
  schemaVersion : String := "1.0.0"

variable [Runtime]

/-- `build_envelope`, for a message without a native reference. -/
def buildEnvelope (context : EnvelopeContext) (payload : Json.Object) (messageId : String) (draw : Draw) : Json.Object :=
  [("id", .str messageId),
    ("schema_version", .str context.schemaVersion),
    ("observed_at", .str draw.utcNowIso),
    ("producer", .str context.producer),
    ("classification", .str context.classification),
    ("run_id", .str context.runId),
    ("payload_hash", .str (hashJson (.obj payload)))] ++
    match context.traceId.filter (· ≠ "") with
    | none => []
    | some traceId => [("trace_id", .str traceId)]

inductive IncidentError where
  | noMembers
  | invalidIncident (errors : List String)
  deriving DecidableEq

def seenAssetIds (members : List SecurityEvent) : List String :=
  (members.filterMap fun event => event.assetId.filter (· ≠ "")).eraseDups

def incidentSeverity (members : List SecurityEvent) : Option String :=
  (members.map SecurityEvent.severity).argmax severityRank

def incidentPayload (members : List SecurityEvent) (severity : String) (attackTechniques : List String)
    (confidence : String) (incidentId : String) : Json.Object :=
  [("incident_id", .str incidentId),
    ("member_event_ids", .arr (members.map fun event => .str event.eventId)),
    ("timeline", .arr (members.map fun event => .obj [("timestamp", .str event.observedAt),
      ("description", .str (event.source ++ ": " ++ event.eventId))])),
    ("entities", .arr ((seenAssetIds members).map fun asset => .obj [("type", .str "asset"), ("id", .str asset)])),
    ("severity", .str severity),
    ("confidence", .str confidence),
    ("evidence_refs", .arr (members.map fun event => .str event.id))] ++
    if attackTechniques = [] then [] else [("attack_techniques", .arr (attackTechniques.map .str))]

/-- `build_incident_payload`. The errors of a document against the schema are given. -/
def buildIncidentPayload (validate : Json.Object → List String) (context : EnvelopeContext)
    (members : List SecurityEvent) (attackTechniques : List String) (confidence : String) (draw : Draw) :
    Except IncidentError Json.Object :=
  match incidentSeverity members with
  | none => .error .noMembers
  | some severity =>
    let incidentId := newIdPrefixed "inc" draw.uuid
    let payload := incidentPayload members severity attackTechniques confidence incidentId
    let full := (buildEnvelope context payload incidentId draw).setAll payload
    if validate full ≠ [] then .error (.invalidIncident (validate full)) else .ok full

end ArgosCore
