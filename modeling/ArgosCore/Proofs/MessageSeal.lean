import ArgosCore.Foundations.Sealed
import ArgosCore.EvidenceWriter
import ArgosCore.Investigator
import ArgosCore.Normalizer
import ArgosCore.PolicyAdapter
import ArgosCore.Proofs.AssetSnapshot
import ArgosCore.Proofs.HandoverRedaction
import ArgosCore.Recommendation
import ArgosCore.SafetyKernel
import ArgosCore.VulnerabilityAdapter

/-! The hash that every message carries. All producers take it over the payload before the
envelope is put around it, so a reader who drops the envelope can check it, and the hash says
nothing about the envelope itself. -/

namespace ArgosCore.Proofs
open Dict

def envelopeFields : List String :=
  ["id", "schema_version", "observed_at", "producer", "classification", "run_id", "payload_hash", "trace_id", "native_ref"]

/-- What a reader finds in a message beside its envelope. -/
def payloadPart (message : Json.Object) : Json.Object := message.opened envelopeFields

section
variable [Runtime]

def SealHolds (message : Json.Object) : Prop :=
  message.lookup "payload_hash" = some (.str (hashJson (.obj (payloadPart message))))

/-- The documents that the services put under an envelope and return. -/
inductive Emitted : Json.Object → Prop where
  | event {normalizer after : Normalizer} {call : ProcessCall} {result : NormalizeResult}
      (returned : normalizer.process call = (.ok result, after)) : Emitted result.payload
  | incident {validate : Json.Object → List String} {context : EnvelopeContext} {members : List SecurityEvent}
      {attackTechniques : List String} {confidence : String} {draw : Draw} {message : Json.Object}
      (returned : buildIncidentPayload validate context members attackTechniques confidence draw = .ok message) :
      Emitted message
  | recommendation {validate : Json.Object → List String} {context : EnvelopeContext} {incident : Json.Object}
      {draw : Draw} {message : Json.Object}
      (returned : generateRecommendation validate context incident draw = .ok message) : Emitted message
  | policyDecision {pdp : PolicyDecisionPoint} {request : PolicyRequest} {draw : Draw} {message : Json.Object}
      (returned : pdp.evaluate request draw = .ok message) : Emitted message
  /-- The envelope that the kernel would release. -/
  | safetyEnvelope (inp : SafetyCheckInput) (checks : List Check) (context : EnvelopeContext) (created enveloped : Draw) :
      Emitted (SafetyKernel.fullPayload inp checks context created enveloped)
  | handover {validate : Json.Object → List String} {context : EnvelopeContext} {request : HandoverRequest}
      {draw : Draw} {message : Json.Object}
      (returned : buildHandover validate context request draw = .ok message) : Emitted message
  | assetSnapshot {validate : Json.Object → List String} {context : EnvelopeContext} {assetId : String}
      {fragments : List AssetFragment} {authorityRanking : Option (Dict Int)} {draws : String → FieldDraws} {draw : Draw}
      {result : ReconcileResult}
      (returned : buildAssetSnapshotPayload validate context assetId fragments authorityRanking draws draw = .ok result) :
      Emitted result.payload
  | evidenceManifest {writer : EvidenceWriter} {request : WriteRequest} {draws : WriteDraws} {message : Json.Object}
      (returned : writer.writeBytes request draws = .ok message) : Emitted message
  | threatAssessment {validate : Json.Object → List String} {context : EnvelopeContext} {request : AssessmentRequest}
      {draw : Draw} {message : Json.Object}
      (returned : buildThreatAssessment validate context request draw = .ok message) : Emitted message
  /-- A finding without a score, whose members are all there is of it. -/
  | finding [Floats] {adapter after : VulnerabilityAdapter} {call : FindingCall} {finding : VulnerabilityFinding}
      (returned : adapter.normalizeTrivyFinding call = (.ok (some finding), after)) (unscored : finding.epss = none) :
      Emitted finding.members

theorem buildEnvelope_heads (context : EnvelopeContext) (payload : Json.Object) (messageId : String) (draw : Draw) :
    Heads envelopeFields (buildEnvelope context payload messageId draw) where
  distinct := buildEnvelope_nodup ..
  within key member := by
    rw [buildEnvelope, List.map_append, List.mem_append] at member
    rcases member with required | optional
    · simp only [List.map_cons, List.map_nil, List.mem_cons, List.not_mem_nil, or_false] at required
      rcases required with rfl | rfl | rfl | rfl | rfl | rfl | rfl <;> decide
    · split at optional
      · cases optional
      · obtain rfl : key = "trace_id" := List.mem_singleton.mp optional
        decide

theorem buildEnvelopeWithRef_heads (context : EnvelopeContext) (payload : Json.Object) (messageId nativeRef : String)
    (draw : Draw) : Heads envelopeFields (buildEnvelopeWithRef context payload messageId nativeRef draw) where
  distinct := by
    rw [buildEnvelopeWithRef, buildEnvelope]
    by_cases absent : nativeRef = "" <;> cases context.traceId.filter (· ≠ "") <;> simp [absent]
  within key member := by
    rw [buildEnvelopeWithRef, List.map_append, List.mem_append] at member
    rcases member with plain | native
    · exact (buildEnvelope_heads ..).within key plain
    · split at native
      · cases native
      · obtain rfl : key = "native_ref" := List.mem_singleton.mp native
        decide

theorem sealHolds_setAll {header payload : Json.Object} (heads : Heads envelopeFields header)
    (fits : Fits envelopeFields payload)
    (hashed : header.lookup "payload_hash" = some (.str (hashJson (.obj payload)))) : SealHolds (header.setAll payload) := by
  have held : "payload_hash" ∈ header.map Prod.fst := List.mem_map.mpr ⟨_, mem_of_lookup hashed, rfl⟩
  rw [SealHolds, payloadPart, heads.opened_setAll fits, heads.lookup_setAll fits held, hashed]

theorem sealHolds_enveloped (context : EnvelopeContext) (messageId : String) (draw : Draw) {payload : Json.Object}
    (fits : Fits envelopeFields payload) : SealHolds ((buildEnvelope context payload messageId draw).setAll payload) := by
  refine sealHolds_setAll (buildEnvelope_heads ..) fits ?_
  rw [lookup_buildEnvelope_hash, if_pos rfl]

end

private theorem optional_keys (name : String) (value : Option String) :
    (((value.filter (· ≠ "")).toList.map fun text => (name, Json.str text)).map Prod.fst).Sublist [name] := by
  cases value.filter (· ≠ "") <;> simp

theorem eventPayload_fits (raw : RawEvent) (severityNormalized eventId : String) :
    Fits envelopeFields (raw.payload severityNormalized eventId) := by
  apply Fits.of_sublist
    (["event_id", "source", "severity_native", "severity_normalized"] ++ ["asset_id"] ++ ["workload_id"])
  · rw [RawEvent.payload, List.map_append, List.map_append]
    exact ((List.Sublist.refl _).append (optional_keys ..)).append (optional_keys ..)
  · decide
  · decide

theorem incidentPayload_fits (members : List SecurityEvent) (severity : String) (attackTechniques : List String)
    (confidence incidentId : String) :
    Fits envelopeFields (incidentPayload members severity attackTechniques confidence incidentId) := by
  apply Fits.of_sublist ["incident_id", "member_event_ids", "timeline", "entities", "severity", "confidence",
    "evidence_refs", "attack_techniques"]
  · by_cases none : attackTechniques = [] <;> simp [incidentPayload, none]
  · decide
  · decide

theorem recommendationPayload_fits [Runtime] {incident payload : Json.Object} {recommendationId : String}
    (built : recommendationPayload incident recommendationId = .ok payload) : Fits envelopeFields payload := by
  simp only [recommendationPayload, Fallible.bind_ok_iff] at built
  obtain ⟨runbook, _, incidentId, _, returned⟩ := built
  obtain rfl := Except.ok.inj returned
  apply Fits.of_sublist ["recommendation_id", "incident_id", "alternatives", "selected_action", "rationale_refs", "impact",
    "uncertainty", "rollback_plan"]
  · exact List.Sublist.refl _
  · decide
  · decide

theorem policyPayload_fits (pdp : PolicyDecisionPoint) (request : PolicyRequest) (decisionId : String) :
    Fits envelopeFields (pdp.payload request decisionId) := by
  apply Fits.of_sublist
    ["decision_id", "policy_version", "subject", "tool", "action", "target", "result", "reason"]
  · exact List.Sublist.refl _
  · decide
  · decide

theorem buildEnvelopePayload_fits [Runtime] (inp : SafetyCheckInput) (checks : List Check) (draw : Draw) :
    Fits envelopeFields (SafetyKernel.buildEnvelopePayload inp checks draw) := by
  apply Fits.of_sublist ["envelope_id", "incident_ref", "evidence_root", "target_set", "allowed_actions",
    "forbidden_actions", "max_targets", "max_blast_radius", "max_duration", "execution_environment", "required_runbook",
    "verification_predicates", "rollback_ref", "runtime_trust_ref", "mission_bounds", "policy_ref", "residual_risk",
    "valid_until", "envelope_hash", "signature"]
  · exact List.Sublist.refl _
  · decide
  · decide

private theorem optionalField_keys (name : String) (value : Json) :
    ((optionalField name value).map Prod.fst).Sublist [name] := by
  rw [optionalField]
  split <;> simp

theorem payloadOf_fits (caseId summary : String) (assets : List Json) (request : HandoverRequest) :
    Fits envelopeFields (payloadOf caseId summary assets request) := by
  apply Fits.of_sublist (["case_id", "incident_summary", "timeline", "assets", "residual_risk", "evidence_manifest_ref",
    "tlp"] ++ (["attack_techniques"] ++ ["iocs"] ++ ["actions"]))
  · rw [payloadOf, reportedFields, List.map_append, List.map_append, List.map_append]
    refine List.Sublist.append (List.Sublist.refl _) ?_
    exact ((optionalField_keys ..).append (optionalField_keys ..)).append (optionalField_keys ..)
  · decide
  · decide

private theorem mergeableFields_apart : ∀ field ∈ mergeableFields, field ∉ envelopeFields := by decide

theorem snapshotPayload_fits {assetId : String} {merged : Dict Scalar}
    (mergeable : ∀ key ∈ merged.map Prod.fst, key ∈ mergeableFields) :
    Fits envelopeFields (snapshotPayload assetId merged) where
  distinct := snapshotPayload_nodup ..
  apart key member := by
    rcases mem_keys_claim member with rfl | member
    · decide
    rcases mem_keys_claim member with rfl | member
    · decide
    rcases (mem_keys_setAll ..).mp member with held | owner
    · rw [List.map_map] at held
      exact mergeableFields_apart key (mergeable key held)
    · obtain rfl : key = "asset_id" := List.mem_singleton.mp owner
      decide

theorem findingPayload_fits (raw : Json.Object) [Floats] (epss : Option Measure) (findingId : String) :
    Fits envelopeFields (RawFinding.payload ⟨raw, epss⟩ findingId) := by
  apply Fits.of_sublist ["finding_id", "asset_id", "cve_id", "package", "version", "fix_available", "source_ref", "purl",
    "cpe", "kev"]
  · cases kev : raw.lookup "kev" <;> by_cases purl : (Json.get raw "PURL").truthy <;>
      by_cases cpe : (Json.get raw "CPE").truthy <;> simp [RawFinding.payload, kev, purl, cpe]
  · decide
  · decide

theorem manifestPayload_fits [Runtime] (writer : EvidenceWriter) (request : WriteRequest) (created : Draw) :
    Fits envelopeFields (writer.payload request created) := by
  apply Fits.of_sublist ["artifact_id", "media_type", "object_ref", "sha256", "created_at", "retention"]
  · exact List.Sublist.refl _
  · decide
  · decide

private theorem listed_keys (name : String) (texts : Option (List String)) :
    ((AssessmentRequest.listed name texts).map Prod.fst).Sublist [name] := by
  rw [AssessmentRequest.listed]
  cases texts.getD [] <;> simp

theorem assessmentPayload_fits (request : AssessmentRequest) (assessmentId : String) :
    Fits envelopeFields (request.payload assessmentId) := by
  apply Fits.of_sublist (["assessment_id", "investigation_refs", "conclusion", "evidence_refs"] ++ ["attack_techniques"] ++
    ["affected_assets"] ++ ["affected_identities"] ++ ["mission_impact"] ++ ["hypotheses"] ++ ["unknowns"])
  · simp only [AssessmentRequest.payload, List.map_append]
    refine List.Sublist.append ?_ (listed_keys ..)
    refine List.Sublist.append ?_ (listed_keys ..)
    refine List.Sublist.append ?_ (List.Sublist.refl _)
    refine List.Sublist.append ?_ (listed_keys ..)
    refine List.Sublist.append ?_ (listed_keys ..)
    exact List.Sublist.append (List.Sublist.refl _) (listed_keys ..)
  · decide
  · decide

theorem distinct_opened {members : Json.Object} (distinct : (Json.obj members).Distinct) {names : List String} :
    (Json.obj (opened names members)).Distinct := by
  refine ⟨nodup_opened distinct.1 _, Json.distinctMembers_iff.mpr fun member inside => ?_⟩
  exact Json.distinctMembers_iff.mp distinct.2 member (List.mem_of_mem_filter inside)

theorem payloadPart_distinct {message : Json.Object} (distinct : (Json.obj message).Distinct) :
    (Json.obj (payloadPart message)).Distinct := distinct_opened distinct

variable [Runtime]

theorem process_ok {normalizer after : Normalizer} {call : ProcessCall} {result : NormalizeResult}
    (returned : normalizer.process call = (.ok result, after)) :
    ∃ severityNative, call.raw.severityNative = .str severityNative ∧
      result.payload = normalizer.fullPayload call (normalizeSeverity call.raw.source severityNative) := by
  simp only [Normalizer.process] at returned
  split at returned
  · cases returned
  cases native : call.raw.severityNative with
  | str severityNative =>
    simp only [native] at returned
    refine ⟨severityNative, rfl, ?_⟩
    split at returned
    · cases returned
    · split at returned
      · cases returned
      · rw [← Except.ok.inj (Prod.mk.inj returned).1]
  | _ => simp [native] at returned

theorem normalizeTrivyFinding_ok [Floats] {adapter after : VulnerabilityAdapter} {call : FindingCall}
    {finding : VulnerabilityFinding} (returned : adapter.normalizeTrivyFinding call = (.ok (some finding), after)) :
    ∃ context, call.raw.finding context call.draw = .ok finding := by
  refine ⟨adapter.context, ?_⟩
  rw [VulnerabilityAdapter.normalizeTrivyFinding] at returned
  split at returned
  · cases returned
  split at returned
  · cases returned
  split at returned
  · cases returned
  next built =>
    split at returned
    · cases returned
    · split at returned
      · cases returned
      · rw [built, ← Option.some.inj (Except.ok.inj (Prod.mk.inj returned).1)]

/-- The hash of a finding covers its score. -/
theorem finding_seal [Floats] {raw : RawFinding} {context : EnvelopeContext} {draw : Draw}
    {finding : VulnerabilityFinding} (built : raw.finding context draw = .ok finding) :
    finding.members.lookup "payload_hash" =
      some (.str (sha256OfPayload (payloadPart finding.members) finding.epss)) := by
  simp only [RawFinding.finding, Fallible.bind_ok_iff] at built
  obtain ⟨epss, _, returned⟩ := built
  obtain rfl := Except.ok.inj returned
  have heads := (buildEnvelope_heads context (raw.payload (newIdPrefixed "vf" draw.uuid)) (newIdPrefixed "vf" draw.uuid)
    draw).set (show "payload_hash" ∈ envelopeFields by decide)
      (.str (sha256OfPayload (raw.payload (newIdPrefixed "vf" draw.uuid)) epss))
  have fits := findingPayload_fits raw.members raw.epss (newIdPrefixed "vf" draw.uuid)
  rw [payloadPart, heads.opened_setAll fits, heads.lookup_setAll fits, lookup_set, if_pos rfl]
  exact (mem_keys_set ..).mpr (.inl rfl)

theorem incident_enveloped {validate : Json.Object → List String} {context : EnvelopeContext}
    {group : List SecurityEvent} {attackTechniques : List String} {confidence : String} {draw : Draw}
    {incident : Json.Object}
    (built : buildIncidentPayload validate context group attackTechniques confidence draw = .ok incident) :
    ∃ severity incidentId, incidentId = newIdPrefixed "inc" draw.uuid ∧
      incident = (buildEnvelope context (incidentPayload group severity attackTechniques confidence incidentId) incidentId
        draw).setAll (incidentPayload group severity attackTechniques confidence incidentId) := by
  rw [buildIncidentPayload] at built
  split at built
  · cases built
  · simp only at built
    split at built
    · cases built
    · exact ⟨_, _, rfl, (Except.ok.inj built).symm⟩

theorem Emitted.sealHolds {message : Json.Object} (emitted : Emitted message) : SealHolds message := by
  cases emitted with
  | event returned =>
    obtain ⟨severityNative, _, same⟩ := process_ok returned
    rw [same]
    refine sealHolds_setAll (buildEnvelopeWithRef_heads ..) (eventPayload_fits ..) ?_
    rw [buildEnvelopeWithRef, List.lookup_append, lookup_buildEnvelope_hash, if_pos rfl, Option.some_or]
  | incident returned =>
    obtain ⟨_, _, _, rfl⟩ := incident_enveloped returned
    exact sealHolds_enveloped _ _ _ (incidentPayload_fits ..)
  | recommendation returned =>
    simp only [generateRecommendation, Fallible.bind_ok_iff, Fallible.guarded_ok_iff] at returned
    obtain ⟨payload, built, _, rfl⟩ := returned
    exact sealHolds_enveloped _ _ _ (recommendationPayload_fits built)
  | policyDecision returned =>
    simp only [PolicyDecisionPoint.evaluate] at returned
    split at returned
    · cases returned
    · rw [← Except.ok.inj returned]
      exact sealHolds_enveloped _ _ _ (policyPayload_fits ..)
  | safetyEnvelope inp checks context created enveloped =>
    exact sealHolds_enveloped _ _ _ (buildEnvelopePayload_fits ..)
  | handover returned =>
    obtain ⟨incidentId, assets, _, _, rfl⟩ := buildHandover_ok returned
    exact sealHolds_enveloped _ _ _ (payloadOf_fits ..)
  | assetSnapshot returned =>
    simp only [buildAssetSnapshotPayload, Fallible.bind_ok_iff, Fallible.guarded_ok_iff] at returned
    obtain ⟨⟨merged, conflicts⟩, done, _, rfl⟩ := returned
    obtain ⟨owner, reconciled⟩ := reconcile_ok done
    refine sealHolds_enveloped _ _ _ (snapshotPayload_fits fun key held => ?_)
    by_contra other
    have absent := reconciled.lookup_merged key
    rw [if_neg other] at absent
    obtain ⟨member, inside, rfl⟩ := List.mem_map.mp held
    simpa using List.lookup_eq_none_iff.mp absent member inside
  | evidenceManifest returned =>
    simp only [EvidenceWriter.writeBytes] at returned
    split at returned
    · cases returned
    · rw [← Except.ok.inj returned]
      exact sealHolds_enveloped _ _ _ (manifestPayload_fits ..)
  | threatAssessment returned =>
    simp only [buildThreatAssessment] at returned
    split at returned
    · cases returned
    split at returned
    · cases returned
    split at returned
    · cases returned
    · rw [← Except.ok.inj returned]
      exact sealHolds_enveloped _ _ _ (assessmentPayload_fits ..)
  | @finding _ _ _ call _ returned unscored =>
    obtain ⟨context, built⟩ := normalizeTrivyFinding_ok returned
    rw [SealHolds, finding_seal built, unscored, sha256OfPayload]

theorem sealHolds_copy_iff (free : CollisionFree) {message copy : Json.Object} (sealed : SealHolds message)
    (distinct : (Json.obj message).Distinct) (copied : (Json.obj copy).Distinct)
    (kept : copy.lookup "payload_hash" = message.lookup "payload_hash") :
    SealHolds copy ↔ (Json.obj (payloadPart copy)).sortKeys = (Json.obj (payloadPart message)).sortKeys := by
  rw [SealHolds] at sealed
  rw [SealHolds, kept, sealed, Option.some.injEq, Json.str.injEq,
    free.hashJson_eq_iff (payloadPart_distinct distinct) (payloadPart_distinct copied), eq_comm]

/-- The hash is that of the payload, and a copy that keeps it passes exactly with that payload,
whatever its envelope says. -/
theorem message_seal {message : Json.Object} (emitted : Emitted message) (distinct : (Json.obj message).Distinct) :
    SealHolds message ∧
      (CollisionFree → ∀ copy : Json.Object, (Json.obj copy).Distinct →
        copy.lookup "payload_hash" = message.lookup "payload_hash" →
        (SealHolds copy ↔ (Json.obj (payloadPart copy)).sortKeys = (Json.obj (payloadPart message)).sortKeys)) := by
  have sealed : SealHolds message := emitted.sealHolds
  refine ⟨sealed, fun free copy copied kept => ?_⟩
  exact sealHolds_copy_iff free sealed distinct copied kept

theorem enveloped_distinct (context : EnvelopeContext) (messageId : String) (draw : Draw) {payload : Json.Object}
    (distinct : (Json.obj payload).Distinct) :
    (Json.obj ((buildEnvelope context payload messageId draw).setAll payload)).Distinct := by
  refine ⟨nodup_setAll (buildEnvelope_nodup ..) _, Json.distinctMembers_iff.mpr fun member inside => ?_⟩
  rcases mem_of_mem_setAll inside with own | head
  · exact Json.distinctMembers_iff.mp distinct.2 member own
  · rw [buildEnvelope] at head
    cases named : context.traceId.filter (· ≠ "") <;> simp only [named, List.append_nil, List.cons_append, List.nil_append,
      List.mem_cons, List.not_mem_nil, or_false] at head <;>
      obtain rfl | rfl | rfl | rfl | rfl | rfl | rfl | rfl := head <;> trivial

def rangePolicy : PolicyDecisionPoint where
  validate _ := []
  context := { producer := "policy-adapter", runId := "run-1" }
  targetAllowlist := {"deployment/web"}

def dryRun : PolicyRequest := ⟨"responder", "isolate", "dry-run", "deployment/web"⟩

omit [Runtime] in
/-- A decision passes, and so does its copy with another classification. -/
theorem message_seal_dry_run :
    letI := Runtime.transparent
    ∃ message, rangePolicy.evaluate dryRun ⟨0, 0⟩ = .ok message ∧ SealHolds message ∧
      SealHolds (Dict.set message "classification" (.str "public")) := by
  let _ := Runtime.transparent
  have plain : (Json.obj (rangePolicy.payload dryRun (newIdPrefixed "pol" 0))).Distinct := by
    simp [PolicyDecisionPoint.payload, Json.Distinct, Json.DistinctMembers]
  have distinct := enveloped_distinct rangePolicy.context (newIdPrefixed "pol" 0) ⟨0, 0⟩ plain
  have emitted : Emitted _ := .policyDecision (show rangePolicy.evaluate dryRun ⟨0, 0⟩ = .ok _ from rfl)
  obtain ⟨passes, copies⟩ := message_seal emitted distinct
  refine ⟨_, rfl, passes, (copies Runtime.transparent_collisionFree _ ?_ ?_).mpr ?_⟩
  · exact Json.distinct_set distinct _ _ trivial
  · rw [lookup_set, if_neg (by decide)]
  · rw [payloadPart, opened_set (by decide), payloadPart]

end ArgosCore.Proofs
