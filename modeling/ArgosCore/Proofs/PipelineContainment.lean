import ArgosCore.Proofs.PipelineDelivery
import ArgosCore.Recommendation

/-! What becomes of an anomalous flow. The first one of its reference is let in, ends in exactly
one incident of at least its severity, and the runbook of that incident isolates the workload. -/

namespace ArgosCore.Proofs

def Anomalous (baseline : Baseline) (flow : FlowRecord) : Bool := anomalyReasons flow baseline ≠ []

def flowSeverity (flow : FlowRecord) : String := if flow.destinationIsExternal then "critical" else "high"

theorem severityOf_anomaly (flow : FlowRecord) : severityOf flow.anomaly.event = flowSeverity flow := by
  rw [severityOf, FlowRecord.anomaly, flowSeverity]
  cases flow.destinationIsExternal <;> rfl

theorem severe_cases {severity : String} (severe : 2 ≤ severityRank severity) : severity = "high" ∨ severity = "critical" := by
  unfold severityRank at severe
  split at severe
  · omega
  · exact .inl rfl
  · exact .inr rfl
  · omega

theorem flowSeverity_rank (flow : FlowRecord) : 2 ≤ severityRank (flowSeverity flow) := by
  rw [flowSeverity]
  cases flow.destinationIsExternal <;> decide

variable [Runtime]

theorem detectAnomalies_ok {baseline : Baseline} {flows : List FlowRecord} {anomalies : List DetectedAnomaly}
    (detected : detectAnomalies baseline flows = .ok anomalies) :
    anomalies = (flows.filter (Anomalous baseline)).map FlowRecord.anomaly := by
  induction flows generalizing anomalies with
  | nil =>
    cases detected
    rfl
  | cons flow flows ih =>
    rw [detectAnomalies] at detected
    split at detected
    · cases detected
    · split at detected
      next calm =>
        rw [ih detected, List.filter_cons_of_neg (by simp [Anomalous, calm])]
      next alarming =>
        cases rest : detectAnomalies baseline flows with
        | error message =>
          rw [rest] at detected
          cases detected
        | ok others =>
          rw [rest] at detected
          rw [← Except.ok.inj detected, ih rest, List.filter_cons_of_pos (by simp [Anomalous, alarming]), List.map_cons]

/-- A call that nothing but a taken key can stop. -/
structure Accepts (call : ProcessCall) : Prop where
  textual : ∃ severityNative, call.raw.severityNative = .str severityNative
  valid : ∀ document, call.validatePayload document = .ok []

theorem Accepts.process {call : ProcessCall} (accepts : Accepts call) {normalizer : Normalizer}
    (free : call.raw.dedupKey ∉ normalizer.seen) :
    ∃ result, normalizer.process call =
      (.ok result, { normalizer with seen := insert call.raw.dedupKey normalizer.seen }) := by
  obtain ⟨severityNative, textual⟩ := accepts.textual
  simp only [Normalizer.process, if_neg free, textual, accepts.valid]
  exact ⟨_, rfl⟩

theorem process_seen (normalizer : Normalizer) (call : ProcessCall) :
    (normalizer.process call).2.seen ⊆ insert call.raw.dedupKey normalizer.seen := by
  have cases := process_spec normalizer call
  generalize normalizer.process call = outcome at cases
  cases cases with
  | duplicate => exact Finset.subset_insert ..
  | accepted => exact Finset.Subset.refl _
  | invalid => exact Finset.subset_insert ..
  | raised => exact Finset.Subset.refl _

theorem mem_intake_first {normalizer : Normalizer} {before after : List ProcessCall} {call : ProcessCall}
    (accepts : Accepts call) (free : call.raw.dedupKey ∉ normalizer.seen)
    (first : ∀ earlier ∈ before, earlier.raw.dedupKey ≠ call.raw.dedupKey) :
    ∃ result, (call, result) ∈ normalizer.intake (before ++ call :: after) := by
  induction before generalizing normalizer with
  | nil =>
    obtain ⟨result, done⟩ := accepts.process free
    rw [List.nil_append, Normalizer.intake, done]
    exact ⟨result, List.mem_cons_self⟩
  | cons earlier before ih =>
    obtain ⟨other, others⟩ := List.forall_mem_cons.mp first
    have still : call.raw.dedupKey ∉ (normalizer.process earlier).2.seen := by
      intro taken
      rcases Finset.mem_insert.mp (process_seen normalizer earlier taken) with same | known
      · exact other same.symm
      · exact free known
    obtain ⟨result, inside⟩ := ih still others
    refine ⟨result, ?_⟩
    rw [List.cons_append, Normalizer.intake]
    split
    next done =>
      rw [done] at inside
      exact List.mem_cons_of_mem _ inside
    next done =>
      rw [done] at inside
      exact inside

theorem process_remembers {normalizer after : Normalizer} {call : ProcessCall} {result : NormalizeResult}
    (returned : normalizer.process call = (.ok result, after)) :
    call.raw.dedupKey ∉ normalizer.seen ∧ after.seen = insert call.raw.dedupKey normalizer.seen := by
  have cases := process_spec normalizer call
  rw [returned] at cases
  cases cases with
  | accepted free => exact ⟨free, rfl⟩

theorem seen_subset_process (normalizer : Normalizer) (call : ProcessCall) :
    normalizer.seen ⊆ (normalizer.process call).2.seen := by
  have cases := process_spec normalizer call
  generalize normalizer.process call = outcome at cases
  cases cases with
  | duplicate => exact Finset.Subset.refl _
  | accepted => exact Finset.subset_insert ..
  | invalid => exact Finset.Subset.refl _
  | raised => exact Finset.subset_insert ..

theorem intake_keys_nodup (normalizer : Normalizer) (calls : List ProcessCall) :
    ((normalizer.intake calls).map (·.1.raw.dedupKey)).Nodup ∧
      ∀ entry ∈ normalizer.intake calls, entry.1.raw.dedupKey ∉ normalizer.seen := by
  induction calls generalizing normalizer with
  | nil => exact ⟨List.nodup_nil, by simp [Normalizer.intake]⟩
  | cons call calls ih =>
    obtain ⟨nodup, fresh⟩ := ih (normalizer.process call).2
    have earlier (entry : ProcessCall × NormalizeResult) (inside : entry ∈ (normalizer.process call).2.intake calls) :
        entry.1.raw.dedupKey ∉ normalizer.seen :=
      fun known => fresh entry inside (seen_subset_process normalizer call known)
    rw [Normalizer.intake]
    split
    next result after returned =>
      obtain ⟨free, remembered⟩ := process_remembers returned
      rw [returned] at nodup fresh earlier
      refine ⟨List.nodup_cons.mpr ⟨?_, nodup⟩, List.forall_mem_cons.mpr ⟨free, earlier⟩⟩
      intro again
      obtain ⟨entry, inside, same⟩ := List.mem_map.mp again
      have unseen := fresh entry inside
      rw [remembered] at unseen
      exact unseen (Finset.mem_insert.mpr (.inl same))
    next error after returned =>
      rw [returned] at nodup earlier
      exact ⟨nodup, earlier⟩

theorem incident_identified {validate : Json.Object → List String} {context : EnvelopeContext}
    {group : List SecurityEvent} {attackTechniques : List String} {confidence : String} {draw : Draw}
    {incident : Json.Object}
    (built : buildIncidentPayload validate context group attackTechniques confidence draw = .ok incident) :
    ∃ incidentId, incident.lookup "incident_id" = some incidentId := by
  obtain ⟨severity, _, _, rfl⟩ := incident_enveloped built
  rw [Dict.lookup_setAll_of_nodup _ (incidentPayload_fits ..).distinct]
  exact ⟨_, rfl⟩

theorem severe_isolated {incident : Json.Object} {severity : String} {incidentId : Json}
    (rated : incident.lookup "severity" = some (.str severity)) (severe : 2 ≤ severityRank severity)
    (identified : incident.lookup "incident_id" = some incidentId) (validate : Json.Object → List String)
    (context : EnvelopeContext) (draw : Draw) :
    (∃ errors, generateRecommendation validate context incident draw = .error (.invalidRecommendation errors)) ∨
      ∃ recommendation, generateRecommendation validate context incident draw = .ok recommendation ∧
        recommendation.lookup "selected_action" = some (.str "isolate_kubernetes_workload") ∧
        recommendation.lookup "incident_id" = some incidentId := by
  have runbook : ∃ runbook, runbookFor (.str severity) = .ok runbook ∧ runbook.selected = isolateWorkload := by
    rcases severe_cases severe with rfl | rfl <;> exact ⟨_, rfl, rfl⟩
  obtain ⟨runbook, found, isolates⟩ := runbook
  obtain ⟨payload, built, action, subject⟩ : ∃ payload, recommendationPayload incident (newIdPrefixed "reco" draw.uuid) = .ok payload ∧
      payload.lookup "selected_action" = some (.str isolateWorkload.action) ∧
        payload.lookup "incident_id" = some incidentId := by
    simp only [recommendationPayload, Json.getOr, rated, Option.getD_some, found, Json.item, identified, isolates.symm]
    exact ⟨_, rfl, rfl, rfl⟩
  have held {key : String} {value : Json} (own : payload.lookup key = some value) :
      ((buildEnvelope context payload (newIdPrefixed "reco" draw.uuid) draw).setAll payload).lookup key = some value := by
    rw [Dict.lookup_setAll_of_nodup _ (recommendationPayload_fits built).distinct, own, Option.some_or]
  rw [generateRecommendation, built]
  simp only [bind, Except.bind]
  split
  next refused => exact .inl ⟨_, rfl⟩
  next => exact .inr ⟨_, rfl, held action, held subject⟩

/-- What becomes of a flow: one event of its reference is in the groups, with the severity and
the asset of the flow, the incident of its group represents it, and the recommendation for that
incident isolates the workload. -/
structure Contained (groups : List (List SecurityEvent)) (flow : FlowRecord) : Prop where
  once : groups.flatten.countP (fun event => event.nativeRef = flow.nativeRef) = 1
  grouped : ∃ group ∈ groups, ∃ event ∈ group, event.nativeRef = flow.nativeRef ∧
    event.severity = flowSeverity flow ∧ namedAsset event = (some flow.source).filter (· ≠ "") ∧
    ∀ (validate : Json.Object → List String) (producer : EnvelopeContext) (attackTechniques : List String)
      (confidence : String) (draw : Draw) (incident : Json.Object),
      buildIncidentPayload validate producer group attackTechniques confidence draw = .ok incident →
        Represents incident group ∧
          ∀ (answers : Json.Object → List String) (engine : EnvelopeContext) (later : Draw),
            (∃ errors, generateRecommendation answers engine incident later = .error (.invalidRecommendation errors)) ∨
              ∃ recommendation, generateRecommendation answers engine incident later = .ok recommendation ∧
                recommendation.lookup "selected_action" = some (.str "isolate_kubernetes_workload") ∧
                recommendation.lookup "incident_id" = incident.lookup "incident_id"

structure CallsFor (anomalies : List DetectedAnomaly) (calls : List ProcessCall) : Prop where
  raws : calls.map ProcessCall.raw = anomalies.map DetectedAnomaly.event
  valid : ∀ call ∈ calls, ∀ document, call.validatePayload document = .ok []
  dated : ∀ call ∈ calls, IsoTime.Representable call.draw.now

section
variable {baseline : Baseline} {flows : List FlowRecord} {anomalies : List DetectedAnomaly} {calls : List ProcessCall}

theorem CallsFor.raw_of_mem (callsFor : CallsFor anomalies calls) (detected : detectAnomalies baseline flows = .ok anomalies)
    {call : ProcessCall} (inside : call ∈ calls) : ∃ flow ∈ flows, Anomalous baseline flow = true ∧
      call.raw = flow.anomaly.event := by
  have among : call.raw ∈ anomalies.map DetectedAnomaly.event := callsFor.raws ▸ List.mem_map_of_mem inside
  rw [detectAnomalies_ok detected, List.map_map] at among
  obtain ⟨flow, member, same⟩ := List.mem_map.mp among
  exact ⟨flow, List.mem_of_mem_filter member, (List.mem_filter.mp member).2, same.symm⟩

theorem CallsFor.first_let_in (callsFor : CallsFor anomalies calls)
    (detected : detectAnomalies baseline flows = .ok anomalies) {flow : FlowRecord}
    (first : flows.find? (fun other => Anomalous baseline other && other.nativeRef = flow.nativeRef) = some flow)
    (context : EnvelopeContext) :
    ∃ entry ∈ Normalizer.intake { context } calls, entry.1.raw = flow.anomaly.event := by
  obtain ⟨found, before, after, rfl, none⟩ := List.find?_eq_some_iff_append.mp first
  have raws := callsFor.raws
  have alarming : Anomalous baseline flow = true := by
    simp only [Bool.and_eq_true] at found
    exact found.1
  rw [detectAnomalies_ok detected, List.map_map, List.filter_append, List.filter_cons_of_pos alarming, List.map_append,
    List.map_cons] at raws
  obtain ⟨earlier, rest, rfl, earlierRaws, restRaws⟩ := List.map_eq_append_iff.mp raws
  obtain ⟨call, later, rfl, same, _⟩ := List.map_eq_cons_iff.mp restRaws
  have accepts : Accepts call := {
    textual := by
      rw [same]
      exact ⟨_, rfl⟩
    valid := callsFor.valid call (List.mem_append_right _ List.mem_cons_self) }
  have new (other : ProcessCall) (member : other ∈ earlier) : other.raw.dedupKey ≠ call.raw.dedupKey := by
    have among : other.raw ∈ earlier.map ProcessCall.raw := List.mem_map_of_mem member
    rw [earlierRaws] at among
    obtain ⟨past, kept, identical⟩ := List.mem_map.mp among
    obtain ⟨held, anomalous⟩ := List.mem_filter.mp kept
    have different := none past held
    rw [← identical, same]
    intro keys
    simp only [anomalous, Bool.true_and, Bool.not_eq_true', decide_eq_false_iff_not] at different
    exact different (Prod.mk.inj keys).2
  have letIn : ∃ result, (call, result) ∈ Normalizer.intake { context } (earlier ++ call :: later) :=
    mem_intake_first accepts (by simp) new
  obtain ⟨result, inside⟩ := letIn
  exact ⟨_, inside, same⟩

theorem CallsFor.nativeRefs_nodup (callsFor : CallsFor anomalies calls)
    (detected : detectAnomalies baseline flows = .ok anomalies) (context : EnvelopeContext) :
    ((intakeEvents { context } calls).map SecurityEvent.nativeRef).Nodup := by
  have keys := (intake_keys_nodup { context } calls).1
  have refs : (intakeEvents { context } calls).map SecurityEvent.nativeRef =
      (Normalizer.intake { context } calls).map (·.1.raw.nativeRef) := by
    rw [intakeEvents, List.map_map]
    exact List.map_congr_left fun entry _ => nativeRef_eventOf ..
  have paired : (Normalizer.intake { context } calls).map (·.1.raw.dedupKey) =
      ((Normalizer.intake { context } calls).map (·.1.raw.nativeRef)).map fun ref => ("dmz-detector", ref) := by
    rw [List.map_map]
    refine List.map_congr_left fun entry inside => ?_
    obtain ⟨flow, _, _, same⟩ := callsFor.raw_of_mem detected (mem_intake inside).1
    rw [RawEvent.dedupKey, Function.comp_apply, same]
    rfl
  rw [paired] at keys
  rw [refs]
  exact keys.of_map

/-- The first anomalous flow of each reference ends in one incident of at least its severity, and
the answer to that incident is isolation. -/
theorem anomaly_contained (detected : detectAnomalies baseline flows = .ok anomalies) (callsFor : CallsFor anomalies calls)
    (context : EnvelopeContext) {window : Int} {events : List SecurityEvent} {groups : List (List SecurityEvent)}
    (read : (Normalizer.intake { context } calls).map (fun entry => SecurityEvent.ofDict entry.2.payload) = events.map some)
    (correlated : correlate events window = .ok groups) {flow : FlowRecord}
    (first : flows.find? (fun other => Anomalous baseline other && other.nativeRef = flow.nativeRef) = some flow) :
    Contained groups flow := by
  obtain rfl : events = intakeEvents { context } calls :=
    List.map_injective_iff.mpr (Option.some_injective _) (read.symm.trans (intake_readable ..))
  have partition := partition_of_correlate correlated
  obtain ⟨entry, inside, same⟩ := callsFor.first_let_in detected first context
  have member : eventOf context entry.1 (severityOf entry.1.raw) ∈ intakeEvents { context } calls :=
    List.mem_map_of_mem inside
  have ref : (eventOf context entry.1 (severityOf entry.1.raw)).nativeRef = flow.nativeRef := by
    rw [nativeRef_eventOf, same]
    rfl
  constructor
  · rw [partition.whole.countP_eq]
    have once := List.count_eq_one_of_mem (callsFor.nativeRefs_nodup detected context)
      (List.mem_map.mpr ⟨_, member, ref⟩)
    rw [List.count, List.countP_map] at once
    rw [← once]
    exact List.countP_congr fun event _ => by simp
  · obtain ⟨group, found, grouped⟩ := List.mem_flatten.mp (partition.whole.mem_iff.mpr member)
    refine ⟨group, found, _, grouped, ref, ?_, ?_, ?_⟩
    · rw [same, severityOf_anomaly]
      rfl
    · rw [namedAsset, eventOf, same, Option.filter_filter]
      simp [FlowRecord.anomaly]
    · intro validate producer attackTechniques confidence draw incident built
      have represents := incident_represents built
      refine ⟨represents, fun answers engine later => ?_⟩
      obtain ⟨worst, _, rated, most⟩ := represents.severity
      have severe : 2 ≤ severityRank worst.severity := by
        have own := flowSeverity_rank flow
        rw [← severityOf_anomaly, ← same] at own
        exact own.trans (most _ grouped)
      obtain ⟨incidentId, identified⟩ := incident_identified built
      rw [identified]
      exact severe_isolated rated severe identified answers engine later

end

/-- A flow out of the perimeter that no baseline explains. -/
private def leak : FlowRecord where
  nativeRef := "hubble://flow/1"
  source := "pod-1"
  destination := "203.0.113.7"
  destinationIsExternal := true
  port := 443
  protocol := "TCP"
  bytesTransferred := 5000000
  verdict := "DENIED"
  sourceMode := "EMULATED"

private def emptyBaseline : Baseline := { authorizedDestinations := ∅ }

private def leakCall : ProcessCall where
  raw := leak.anomaly.event
  validatePayload _ := .ok []
  draw := ⟨0, 0⟩

omit [Runtime] in
/-- Its second report is a duplicate. -/
theorem anomaly_contained_leak :
    letI := Runtime.transparent
    detectAnomalies emptyBaseline [leak, leak] = .ok [leak.anomaly, leak.anomaly] ∧
      ∃ groups, correlate (intakeEvents { context := alertContext } [leakCall, leakCall]) 300000000 = .ok groups ∧
        Contained groups leak := by
  let _ := Runtime.transparent
  have callsFor : CallsFor [leak.anomaly, leak.anomaly] [leakCall, leakCall] := by
    refine ⟨rfl, ?_, ?_⟩ <;> intro call inside <;> obtain rfl : call = leakCall := by simpa using inside
    · exact fun _ => rfl
    · change IsoTime.Representable 0
      decide
  have grouped : ∃ groups, correlate (intakeEvents { context := alertContext } [leakCall, leakCall]) 300000000 = .ok groups :=
    correlate_intake callsFor.dated 300000000
  obtain ⟨groups, correlated⟩ := grouped
  have detected : detectAnomalies emptyBaseline [leak, leak] = .ok [leak.anomaly, leak.anomaly] := rfl
  exact ⟨detected, groups, correlated,
    anomaly_contained detected callsFor alertContext (intake_readable ..) correlated rfl⟩

end ArgosCore.Proofs
