import ArgosCore.Foundations.IsoRoundTrip
import ArgosCore.Pipeline
import ArgosCore.Proofs.CorrelatorIncidents
import ArgosCore.Proofs.CorrelatorPartition
import ArgosCore.Proofs.MessageSeal
import ArgosCore.Proofs.NormalizerDedup

/-! From the normalizer to the incidents. What is let in can always be correlated, and every
event of it is in one incident, which is as severe and names its asset. -/

namespace ArgosCore.Proofs
open IsoTime

variable [Runtime]

def eventOf (context : EnvelopeContext) (call : ProcessCall) (severityNormalized : String) : SecurityEvent where
  id := newIdPrefixed "evt" call.draw.uuid
  eventId := newIdPrefixed "evt" call.draw.uuid
  observedAt := call.draw.utcNowIso
  source := call.raw.source
  assetId := call.raw.assetId.filter (· ≠ "")
  severityNormalized := some severityNormalized
  rest := (Normalizer.fullPayload { context } call severityNormalized).opened eventFields

omit [Runtime] in
private theorem lookup_optional (name : String) (value : Option String) (key : String) :
    ((value.filter (· ≠ "")).toList.map fun text => (name, Json.str text)).lookup key =
      if key = name then (value.filter (· ≠ "")).map .str else none := by
  cases value.filter (· ≠ "") with
  | none => simp
  | some text => by_cases same : key = name <;> simp [List.lookup_cons, same, beq_false_of_ne]

omit [Runtime] in
theorem lookup_rawPayload (raw : RawEvent) (severityNormalized eventId key : String) :
    (raw.payload severityNormalized eventId).lookup key =
      if key = "event_id" then some (.str eventId)
      else if key = "source" then some (.str raw.source)
      else if key = "severity_native" then some raw.severityNative
      else if key = "severity_normalized" then some (.str severityNormalized)
      else if key = "asset_id" then (raw.assetId.filter (· ≠ "")).map .str
      else if key = "workload_id" then (raw.workloadId.filter (· ≠ "")).map .str
      else none := by
  rw [RawEvent.payload, List.lookup_append, List.lookup_append, lookup_optional, lookup_optional]
  simp only [List.lookup_cons, List.lookup_nil]
  split_ifs <;> simp_all [beq_false_of_ne]

theorem lookup_fullPayload (normalizer : Normalizer) (call : ProcessCall) (severityNormalized key : String) :
    (normalizer.fullPayload call severityNormalized).lookup key =
      ((call.raw.payload severityNormalized (newIdPrefixed "evt" call.draw.uuid)).lookup key).or
        ((buildEnvelopeWithRef normalizer.context (call.raw.payload severityNormalized (newIdPrefixed "evt" call.draw.uuid))
          (newIdPrefixed "evt" call.draw.uuid) call.raw.nativeRef call.draw).lookup key) :=
  Dict.lookup_setAll_of_nodup _ (eventPayload_fits ..).distinct key

theorem lookup_fullPayload_own (normalizer : Normalizer) (call : ProcessCall) (severityNormalized : String) {key : String}
    (own : key ∉ envelopeFields) :
    (normalizer.fullPayload call severityNormalized).lookup key =
      (call.raw.payload severityNormalized (newIdPrefixed "evt" call.draw.uuid)).lookup key := by
  rw [lookup_fullPayload, (buildEnvelopeWithRef_heads ..).lookup_eq_none own, Option.or_none]

theorem ofDict_fullPayload (normalizer : Normalizer) (call : ProcessCall) (severityNormalized : String) :
    SecurityEvent.ofDict (normalizer.fullPayload call severityNormalized) =
      some (eventOf normalizer.context call severityNormalized) := by
  have id : (normalizer.fullPayload call severityNormalized).lookup "id" = some (.str (newIdPrefixed "evt" call.draw.uuid)) := by
    rw [lookup_fullPayload, lookup_rawPayload]
    rfl
  have observed : (normalizer.fullPayload call severityNormalized).lookup "observed_at" = some (.str call.draw.utcNowIso) := by
    rw [lookup_fullPayload, lookup_rawPayload]
    rfl
  have own (key : String) (apart : key ∉ envelopeFields) := lookup_fullPayload_own normalizer call severityNormalized apart
  have asset : textAt (normalizer.fullPayload call severityNormalized) "asset_id" = call.raw.assetId.filter (· ≠ "") := by
    rw [textAt, own "asset_id" (by decide), lookup_rawPayload]
    cases call.raw.assetId.filter (· ≠ "") <;> rfl
  rw [SecurityEvent.ofDict, asset]
  simp only [textAt, id, observed, own "event_id" (by decide), own "source" (by decide),
    own "severity_normalized" (by decide), own "correlation" (by decide), lookup_rawPayload]
  rfl

theorem nativeRef_eventOf (context : EnvelopeContext) (call : ProcessCall) (severityNormalized : String) :
    (eventOf context call severityNormalized).nativeRef = call.raw.nativeRef := by
  have held : (Normalizer.fullPayload { context } call severityNormalized).lookup "native_ref" =
      if call.raw.nativeRef = "" then none else some (.str call.raw.nativeRef) := by
    rw [lookup_fullPayload, lookup_rawPayload, buildEnvelopeWithRef, buildEnvelope]
    by_cases absent : call.raw.nativeRef = "" <;> cases context.traceId.filter (· ≠ "") <;> simp [absent, List.lookup_cons]
  rw [SecurityEvent.nativeRef, textAt, eventOf, Dict.lookup_opened, if_neg (by decide), held]
  by_cases absent : call.raw.nativeRef = "" <;> simp [absent]

theorem process_context (normalizer : Normalizer) (call : ProcessCall) :
    (normalizer.process call).2.context = normalizer.context := by
  have cases := process_spec normalizer call
  generalize normalizer.process call = outcome at cases
  cases cases <;> rfl

omit [Runtime] in
def severityOf (raw : RawEvent) : String :=
  match raw.severityNative with
  | .str severityNative => normalizeSeverity raw.source severityNative
  | _ => "medium"

theorem mem_intake {normalizer : Normalizer} {calls : List ProcessCall} {entry : ProcessCall × NormalizeResult}
    (inside : entry ∈ normalizer.intake calls) :
    entry.1 ∈ calls ∧
      SecurityEvent.ofDict entry.2.payload = some (eventOf normalizer.context entry.1 (severityOf entry.1.raw)) := by
  induction calls generalizing normalizer with
  | nil => cases inside
  | cons call calls ih =>
    have context := process_context normalizer call
    rw [Normalizer.intake] at inside
    split at inside
    next result after returned =>
      rw [returned] at context
      rcases List.mem_cons.mp inside with rfl | later
      · obtain ⟨severityNative, native, same⟩ := process_ok returned
        refine ⟨List.mem_cons_self, ?_⟩
        rw [same, ofDict_fullPayload, severityOf, native]
      · obtain ⟨member, read⟩ := ih later
        exact ⟨List.mem_cons_of_mem _ member, context ▸ read⟩
    next error after returned =>
      rw [returned] at context
      obtain ⟨member, read⟩ := ih inside
      exact ⟨List.mem_cons_of_mem _ member, context ▸ read⟩

def intakeEvents (normalizer : Normalizer) (calls : List ProcessCall) : List SecurityEvent :=
  (normalizer.intake calls).map fun entry => eventOf normalizer.context entry.1 (severityOf entry.1.raw)

theorem intake_readable (normalizer : Normalizer) (calls : List ProcessCall) :
    (normalizer.intake calls).map (fun entry => SecurityEvent.ofDict entry.2.payload) =
      (intakeEvents normalizer calls).map some := by
  rw [intakeEvents, List.map_map]
  exact List.map_congr_left fun entry inside => (mem_intake inside).2

/-- Events of this producer are dated in UTC and carry no correlation key. -/
theorem intakeEvents_comparable {normalizer : Normalizer} {calls : List ProcessCall}
    (dated : ∀ call ∈ calls, Representable call.draw.now) : Comparable (intakeEvents normalizer calls) := by
  have read : ∀ event ∈ intakeEvents normalizer calls, ∃ instant, fromisoformat event.observedAt = some ⟨instant, some 0⟩ := by
    intro event inside
    obtain ⟨entry, member, rfl⟩ := List.mem_map.mp inside
    exact ⟨_, fromisoformat_isoformat (dated _ (mem_intake member).1)⟩
  constructor
  · intro event inside
    obtain ⟨instant, same⟩ := read event inside
    exact Option.isSome_of_eq_some same
  · left
    intro event inside
    obtain ⟨instant, same⟩ := read event inside
    rw [isAware, same]
    rfl

omit [Runtime] in
theorem correlate_unkeyed {events : List SecurityEvent} (unkeyed : ∀ event ∈ events, event.correlationKey = none)
    (window : Int) : correlate events window = groupByAssetAndWindow events window := by
  have emitted (grouped : Dict (List SecurityEvent)) : emit grouped events [] = .ok events := by
    induction events with
    | nil => rfl
    | cons event events ih =>
      obtain ⟨first, rest⟩ := List.forall_mem_cons.mp unkeyed
      rw [emit, first]
      simp only [ih rest]
      rfl
  rw [correlate, dedupeByCorrelationKey, emitted]
  rfl

theorem intakeEvents_unkeyed (normalizer : Normalizer) (calls : List ProcessCall) :
    ∀ event ∈ intakeEvents normalizer calls, event.correlationKey = none := by
  intro event inside
  obtain ⟨entry, _, rfl⟩ := List.mem_map.mp inside
  rfl

theorem correlate_intake {normalizer : Normalizer} {calls : List ProcessCall}
    (dated : ∀ call ∈ calls, Representable call.draw.now) (window : Int) :
    ∃ groups, correlate (intakeEvents normalizer calls) window = .ok groups := by
  rw [correlate_unkeyed (intakeEvents_unkeyed _ _)]
  exact ⟨_, groupByAssetAndWindow_ok
    (fun asset => (intakeEvents_comparable dated).subset List.filter_sublist.subset) window⟩

theorem partition_of_correlate {normalizer : Normalizer} {calls : List ProcessCall} {window : Int}
    {groups : List (List SecurityEvent)} (correlated : correlate (intakeEvents normalizer calls) window = .ok groups) :
    GapPartition window (intakeEvents normalizer calls) groups := by
  rw [correlate_unkeyed (intakeEvents_unkeyed _ _)] at correlated
  rw [← (groupByAssetAndWindow_ok_iff.mp correlated).2]
  exact gapPartition_grouped ..

structure Represents (incident : Json.Object) (group : List SecurityEvent) : Prop where
  references : incident.lookup "evidence_refs" = some (.arr (group.map fun event => .str event.id))
  severity : ∃ worst ∈ group, incident.lookup "severity" = some (.str worst.severity) ∧
    ∀ event ∈ group, severityRank event.severity ≤ severityRank worst.severity
  assets : ∃ assets : List String, incident.lookup "entities" =
      some (.arr (assets.map fun asset => .obj [("type", .str "asset"), ("id", .str asset)])) ∧
    assets.Nodup ∧ ∀ asset, asset ∈ assets ↔ ∃ event ∈ group, namedAsset event = some asset

omit [Runtime] in
theorem nodup_seenAssetIds (group : List SecurityEvent) : (seenAssetIds group).Nodup := by
  have distinct := Buckets.nodup_keys id (group.filterMap namedAsset)
  rwa [Buckets.keys, List.map_id] at distinct

theorem incident_represents {validate : Json.Object → List String} {context : EnvelopeContext}
    {group : List SecurityEvent} {attackTechniques : List String} {confidence : String} {draw : Draw}
    {incident : Json.Object}
    (built : buildIncidentPayload validate context group attackTechniques confidence draw = .ok incident) :
    Represents incident group := by
  obtain ⟨severity, chosen, rated, listed⟩ := incident_built built
  obtain ⟨⟨worst, inside, rfl⟩, most⟩ := incidentSeverity_max chosen
  constructor
  · obtain ⟨_, _, _, rfl⟩ := incident_enveloped built
    rw [Dict.lookup_setAll_of_nodup _ (incidentPayload_fits ..).distinct]
    rfl
  · exact ⟨worst, inside, rated, most⟩
  · exact ⟨_, listed, nodup_seenAssetIds group, fun asset => mem_seenAssetIds⟩

/-- Whatever reaches the normalizer, what it lets in is correlated without an error, each event
into one of the groups, and the incident of a group represents it. -/
theorem intake_delivered (context : EnvelopeContext) {calls : List ProcessCall}
    (dated : ∀ call ∈ calls, Representable call.draw.now) (window : Int) :
    ∃ events groups, (Normalizer.intake { context } calls).map (fun entry => SecurityEvent.ofDict entry.2.payload) =
        events.map some ∧
      correlate events window = .ok groups ∧ GapPartition window events groups ∧
      ∀ group ∈ groups, ∀ (validate : Json.Object → List String) (producer : EnvelopeContext)
        (attackTechniques : List String) (confidence : String) (draw : Draw) (incident : Json.Object),
        buildIncidentPayload validate producer group attackTechniques confidence draw = .ok incident →
          Represents incident group := by
  obtain ⟨groups, correlated⟩ := correlate_intake dated window
  refine ⟨_, groups, intake_readable _ _, correlated, partition_of_correlate correlated, ?_⟩
  intro group _ validate producer attackTechniques confidence draw incident built
  exact incident_represents built

omit [Runtime] in
/-- One alert and its repetition: the second is refused, the first is in an incident of its own. -/
theorem intake_delivered_alert :
    letI := Runtime.transparent
    ∃ events groups,
      (Normalizer.intake { context := alertContext } [alertCall (.ok []), alertCall (.ok [])]).map
          (fun entry => SecurityEvent.ofDict entry.2.payload) = events.map some ∧
        correlate events 300000000 = .ok groups ∧ GapPartition 300000000 events groups ∧
        ∃ group ∈ groups, ∃ incident,
          buildIncidentPayload (fun _ => []) alertContext group [] "low" ⟨0, 0⟩ = .ok incident ∧ Represents incident group := by
  let _ := Runtime.transparent
  have dated : ∀ call ∈ [alertCall (.ok []), alertCall (.ok [])], Representable call.draw.now := by
    intro call inside
    obtain rfl : call = alertCall (.ok []) := by simpa using inside
    change Representable 0
    decide
  obtain ⟨events, groups, read, correlated, partition, represents⟩ := intake_delivered alertContext dated 300000000
  refine ⟨events, groups, read, correlated, partition, ?_⟩
  have one : (Normalizer.intake { context := alertContext } [alertCall (.ok []), alertCall (.ok [])]).length = 1 := rfl
  have count := congrArg List.length read
  rw [List.length_map, List.length_map, one] at count
  obtain ⟨event, arrived⟩ := List.exists_mem_of_length_pos (by omega : 0 < events.length)
  obtain ⟨group, found, inside⟩ := List.mem_flatten.mp (partition.whole.mem_iff.mpr arrived)
  obtain ⟨incident, built⟩ := exists_incident inside alertContext ⟨0, 0⟩
  exact ⟨group, found, incident, built, represents group found _ _ _ _ _ _ built⟩

end ArgosCore.Proofs
