import ArgosCore.Federation.Evidence
import ArgosCore.MissionEvidence
import ArgosCore.Proofs.GraphSnapshot
import ArgosCore.Proofs.HonestReplay
import ArgosCore.Proofs.RootCommitment

/-! Anchored decisions. The evidence root of a record commits to the text of the record, and
the record of a decision about a mission to all that the decision was based on. -/

namespace ArgosCore.Proofs

section
variable [Runtime]

theorem anchorRecord_ok {producer subjectKey runId : String} {record : Json.Object} {writer : EvidenceWriter}
    {draws : AnchorDraws} {evidence : DecisionEvidence}
    (returned : anchorRecord producer subjectKey record writer runId draws = .ok evidence) :
    ∃ written : WrittenArtifact, written.writer = writer ∧ written.request = recordRequest record ∧
      written.draws = draws.written ∧ written.manifest = evidence.manifest ∧ evidence.record = record ∧
      evidence.evidenceRoot.artifactRefs = [written.ref] ∧
      evidence.evidenceRoot.rootHash = canonicalHash [written.ref] := by
  simp only [anchorRecord] at returned
  split at returned
  next => cases returned
  next manifest wrote =>
    have read := writeBytes_manifest wrote
    refine ⟨⟨writer, recordRequest record, draws.written, manifest, wrote⟩, rfl, rfl, rfl, ?_⟩
    simp only [buildEvidenceRoot, addManifests, addManifest, Option.filter_some, read, artifactRefFromManifest] at returned
    by_cases complete : Manifest.complete
        { artifactId := some (newIdPrefixed "art" draws.written.created.uuid)
          sha256 := some (Runtime.sha256 (recordRequest record).content)
          objectRef := some (writer.objectRef (recordRequest record)) } = true
    · rw [if_pos complete] at returned
      obtain rfl := Except.ok.inj returned
      exact ⟨rfl, rfl, rfl, rfl⟩
    · rw [if_neg complete] at returned
      cases returned

theorem anchorRecord_returns (producer subjectKey runId : String) (record : Json.Object) {writer : EvidenceWriter}
    (draws : AnchorDraws) (valid : ∀ manifest, writer.validate manifest = [])
    (digest : Runtime.sha256 (recordContent record) ≠ "") :
    ∃ evidence, anchorRecord producer subjectKey record writer runId draws = .ok evidence := by
  cases wrote : writer.writeBytes (recordRequest record) draws.written with
  | error error => simp [EvidenceWriter.writeBytes, valid] at wrote
  | ok manifest =>
    have complete : Manifest.complete
        { artifactId := some (newIdPrefixed "art" draws.written.created.uuid)
          sha256 := some (Runtime.sha256 (recordRequest record).content)
          objectRef := some (writer.objectRef (recordRequest record)) } = true := by
      simp [Manifest.complete, newIdPrefixed_ne_empty, recordRequest, digest]
    simp only [anchorRecord, wrote, buildEvidenceRoot, addManifests, addManifest, Option.filter_some,
      writeBytes_manifest wrote, if_pos complete]
    exact ⟨_, rfl⟩

omit [Runtime] in
theorem transparent_digest (record : Json.Object) (distinct : (Json.obj record).Distinct) :
    Runtime.transparent.sha256 (recordContent record) ≠ "" := by
  intro empty
  have content : recordContent record = "".toUTF8 := Runtime.transparent_collisionFree empty
  have text : Json.spaced false (.obj record) = "" := String.toByteArray_inj.mp content
  have read := Json.loads_spaced false distinct
  rw [text] at read
  cases read

omit [Runtime] in
theorem recordContent_eq_iff {record other : Json.Object} (distinct : (Json.obj record).Distinct)
    (otherDistinct : (Json.obj other).Distinct) :
    recordContent record = recordContent other ↔ (Json.obj record).sortKeys = (Json.obj other).sortKeys := by
  rw [recordContent, recordContent, String.toUTF8, String.toUTF8, String.toByteArray_inj]
  constructor
  · exact Json.spaced_injective distinct otherDistinct
  · intro same
    rw [Json.spaced, Json.spaced, same]

def evidencePlace (evidence : DecisionEvidence) : Option String × Option String :=
  (textAt evidence.manifest "artifact_id", textAt evidence.manifest "object_ref")

theorem evidencePlace_anchored {producer subjectKey runId : String} {record : Json.Object} {writer : EvidenceWriter}
    {draws : AnchorDraws} {evidence : DecisionEvidence}
    (returned : anchorRecord producer subjectKey record writer runId draws = .ok evidence) :
    evidencePlace evidence =
      (some (newIdPrefixed "art" draws.written.created.uuid), some (writer.objectRef (recordRequest record))) := by
  obtain ⟨written, rfl, request, drawn, manifest, _⟩ := anchorRecord_ok returned
  have read := writeBytes_manifest written.returned
  rw [← request, ← drawn, evidencePlace, ← manifest]
  exact Prod.ext (congrArg Manifest.artifactId read) (congrArg Manifest.objectRef read)

theorem evidencePlace_congr {producer subjectKey runId : String} {record other : Json.Object} {writer : EvidenceWriter}
    {draws : AnchorDraws} {left right : DecisionEvidence}
    (returned : anchorRecord producer subjectKey record writer runId draws = .ok left)
    (otherReturned : anchorRecord producer subjectKey other writer runId draws = .ok right)
    (content : recordContent record = recordContent other) : evidencePlace left = evidencePlace right := by
  rw [evidencePlace_anchored returned, evidencePlace_anchored otherReturned, recordRequest, recordRequest, content]

/-- Roots of records have one hash exactly for one record at one place. -/
theorem anchored_hash_iff (free : CollisionFree) {producer subjectKey runId otherProducer otherKey otherRun : String}
    {record other : Json.Object} {writer otherWriter : EvidenceWriter} {draws otherDraws : AnchorDraws}
    {left right : DecisionEvidence} (returned : anchorRecord producer subjectKey record writer runId draws = .ok left)
    (otherReturned : anchorRecord otherProducer otherKey other otherWriter otherRun otherDraws = .ok right)
    (distinct : (Json.obj record).Distinct) (otherDistinct : (Json.obj other).Distinct) :
    left.evidenceRoot.rootHash = right.evidenceRoot.rootHash ↔
      evidencePlace left = evidencePlace right ∧ (Json.obj record).sortKeys = (Json.obj other).sortKeys := by
  obtain ⟨written, _, request, _, manifest, _, _, hash⟩ := anchorRecord_ok returned
  obtain ⟨otherWritten, _, otherRequest, _, otherManifest, _, _, otherHash⟩ := anchorRecord_ok otherReturned
  have place (written : WrittenArtifact) : textAt written.manifest "artifact_id" = some written.ref.artifactId ∧
      textAt written.manifest "object_ref" = some written.ref.objectRef := by
    have read := writeBytes_manifest written.returned
    exact ⟨congrArg Manifest.artifactId read, congrArg Manifest.objectRef read⟩
  have digest : written.ref.sha256 = otherWritten.ref.sha256 ↔
      (Json.obj record).sortKeys = (Json.obj other).sortKeys := by
    rw [WrittenArtifact.ref, WrittenArtifact.ref, free.eq_iff, request, otherRequest]
    exact recordContent_eq_iff distinct otherDistinct
  have single : ([otherWritten.ref].map ArtifactRef.artifactId).Nodup := List.nodup_singleton _
  rw [hash, otherHash, canonicalHash_eq_iff_perm free single, List.singleton_perm_singleton,
    evidencePlace, evidencePlace, ← manifest, ← otherManifest, (place written).1, (place written).2,
    (place otherWritten).1, (place otherWritten).2, ← digest]
  cases written.ref
  cases otherWritten.ref
  simp only [ArtifactRef.mk.injEq, Prod.mk.injEq, Option.some.injEq]
  tauto

end

def asReported (conflict : SemanticConflict) : SemanticConflict :=
  { conflict with claims := [], evidenceRefs := [], resolvedAt := "" }

def unidentified (context : MissionContext) : MissionContext := { context with missionContextId := "", observedAt := "" }

structure SameBasis (left right : MissionDecision) : Prop where
  entityId : left.entityId = right.entityId
  semanticGraph : SameGraph left.semanticGraph right.semanticGraph
  missionContext : left.missionContext.map unidentified = right.missionContext.map unidentified
  temporalQueryTime : left.temporalQueryTime = right.temporalQueryTime
  conflicts : left.conflicts.map asReported = right.conflicts.map asReported
  unknowns : left.unknowns = right.unknowns
  blastRadius : left.blastRadius = right.blastRadius
  safetyKernelState : left.safetyKernelState = right.safetyKernelState
  safetyKernelReason : left.safetyKernelReason = right.safetyKernelReason

private theorem classification_text_injective : Function.Injective ConflictClassification.text := by
  intro left right same
  cases left <;> cases right <;> first | rfl | exact absurd same (by decide)

private theorem state_text_injective : Function.Injective ConflictState.text := by
  intro left right same
  cases left <;> cases right <;> first | rfl | exact absurd same (by decide)

private theorem level_text_injective : Function.Injective MissionImpactLevel.text := by
  intro left right same
  cases left <;> cases right <;> first | rfl | exact absurd same (by decide)

private theorem optionalBool_injective : Function.Injective optionalBool := by
  intro left right same
  cases left <;> cases right <;> simp_all [optionalBool]

private theorem optionalInt_injective : Function.Injective optionalInt := by
  intro left right same
  cases left <;> cases right <;> simp_all [optionalInt]

private theorem sortKeys_optionalBool (value : Option Bool) : (optionalBool value).sortKeys = optionalBool value := by
  cases value <;> rfl

private theorem sortKeys_optionalInt (value : Option Int) : (optionalInt value).sortKeys = optionalInt value := by
  cases value <;> rfl

private theorem strings_injective : Function.Injective (List.map Json.str) :=
  List.map_injective_iff.mpr fun _ _ => Json.str.inj

private theorem sortItems_strings (texts : List String) : Json.sortItems (texts.map .str) = texts.map .str := by
  have sorted := sortKeys_strings texts
  rwa [Json.sortKeys, Json.arr.injEq] at sorted

theorem conflict_toDict_eq_iff {left right : SemanticConflict} :
    (Json.obj left.toDict).sortKeys = (Json.obj right.toDict).sortKeys ↔ asReported left = asReported right := by
  rw [Json.sortKeys_eq_iff_values (by rfl) (by simp [SemanticConflict.toDict])]
  simp [SemanticConflict.toDict, asReported, sortKeys_optionalStr, sortItems_strings, Json.sortKeys, optionalStr_injective.eq_iff,
    strings_injective.eq_iff, classification_text_injective.eq_iff, state_text_injective.eq_iff]

theorem conflicts_eq_iff {left right : List SemanticConflict} :
    (Json.arr (left.map fun conflict => .obj conflict.toDict)).sortKeys =
        (Json.arr (right.map fun conflict => .obj conflict.toDict)).sortKeys ↔
      left.map asReported = right.map asReported := by
  rw [Json.sortKeys, Json.sortKeys, Json.arr.injEq, Json.sortItems_eq_map, Json.sortItems_eq_map, List.map_map, List.map_map]
  exact ByKey.map_eq_iff_of_eq_iff fun _ _ => conflict_toDict_eq_iff

theorem blastRadius_toDict_eq_iff {left right : BlastRadiusAssessment} :
    (Json.obj left.toDict).sortKeys = (Json.obj right.toDict).sortKeys ↔ left = right := by
  rw [Json.sortKeys_eq_iff_values (by rfl) (by simp [BlastRadiusAssessment.toDict])]
  cases left
  cases right
  simp [BlastRadiusAssessment.toDict, sortKeys_optionalInt, sortItems_strings, Json.sortKeys, optionalInt_injective.eq_iff,
    strings_injective.eq_iff, level_text_injective.eq_iff]

private theorem contentOf_context (context : MissionContext) :
    context.asDict.filter (fun member => member.1 ∉ ["observed_at", "mission_context_id"]) = [
      ("entity_id", .str context.entityId), ("criticality", optionalStr context.criticality),
      ("crown_jewel", optionalBool context.crownJewel),
      ("acceptable_degradation", optionalStr context.acceptableDegradation),
      ("maximum_outage", optionalStr context.maximumOutage),
      ("recovery_priority", optionalInt context.recoveryPriority),
      ("dependencies", .arr (context.dependencies.map .str)), ("source_id", .str context.sourceId),
      ("valid_from", .str context.validFrom), ("valid_until", optionalStr context.validUntil)] := by
  simp [MissionContext.asDict]

private theorem strings_distinct (texts : List String) : Json.DistinctItems (texts.map .str) := by
  rw [Json.distinctItems_iff]
  intro item inside
  obtain ⟨text, _, rfl⟩ := List.mem_map.mp inside
  trivial

private theorem optionalBool_distinct (value : Option Bool) : (optionalBool value).Distinct := by
  cases value <;> trivial

private theorem optionalInt_distinct (value : Option Int) : (optionalInt value).Distinct := by
  cases value <;> trivial

private theorem entityRefs_subset {left right : SemanticGraph} (indexed : Indexed left) (same : SameGraph left right) {ref : String}
    (inside : ref ∈ left.entities.filterMap fun member => member.2.evidenceRef.filter (· ≠ "")) :
    ref ∈ right.entities.filterMap fun member => member.2.evidenceRef.filter (· ≠ "") := by
  obtain ⟨⟨entityId, entity⟩, member, refers⟩ := List.mem_filterMap.mp inside
  have held := (Dict.lookup_eq_some_iff indexed.distinct).mpr member
  have related := same.entities entityId
  rw [held] at related
  cases found : right.entities.lookup entityId with
  | none =>
    rw [found] at related
    cases related
  | some other =>
    rw [found] at related
    cases related with
    | some alike =>
      refine List.mem_filterMap.mpr ⟨(entityId, other), Dict.mem_of_lookup found, ?_⟩
      rw [← refers, alike.evidenceRef]

theorem SameGraph.symm {left right : SemanticGraph} (same : SameGraph left right) : SameGraph right left := by
  refine ⟨fun entityId => ?_, same.relations.symm⟩
  have related := same.entities entityId
  cases found : left.entities.lookup entityId <;> cases other : right.entities.lookup entityId <;>
    rw [found, other] at related <;> cases related
  · exact .none
  · next alike => exact .some ⟨alike.entityId.symm, alike.entityType.symm, alike.attributes.symm, alike.sourceId.symm,
      alike.sourceType.symm, alike.sourceVersion.symm, alike.validFrom.symm, alike.validUntil.symm, alike.evidenceRef.symm,
      alike.authority.symm⟩

theorem SameGraph.sourceRefs {left right : SemanticGraph} (first : Indexed left) (second : Indexed right)
    (same : SameGraph left right) : left.sourceRefs = right.sourceRefs := by
  have observed (graph : SemanticGraph) :
      graph.relations.filterMap (fun relation => relation.evidenceRef.filter (· ≠ "")) =
        (graph.relations.map unobserved).filterMap fun relation => relation.evidenceRef.filter (· ≠ "") := by
    rw [List.filterMap_map]
    rfl
  have relations := same.relations.filterMap fun relation => relation.evidenceRef.filter (· ≠ "")
  rw [← observed, ← observed] at relations
  have perm : left.sourceRefs.Perm right.sourceRefs := by
    refine (List.mergeSort_perm _ _).trans (.trans ?_ (List.mergeSort_perm _ _).symm)
    refine (List.perm_ext_iff_of_nodup (List.nodup_dedup _) (List.nodup_dedup _)).mpr fun ref => ?_
    rw [List.mem_dedup, List.mem_dedup, List.mem_append, List.mem_append, relations.mem_iff]
    exact or_congr_left ⟨entityRefs_subset first same, entityRefs_subset second same.symm⟩
  exact perm.eq_of_pairwise' (List.pairwise_mergeSort' (· ≤ ·) _) (List.pairwise_mergeSort' (· ≤ ·) _)

section
variable [Runtime]

theorem missionContextHash_eq_iff (free : CollisionFree) {left right : Option MissionContext} :
    missionContextHash left = missionContextHash right ↔ left.map unidentified = right.map unidentified := by
  have distinct (context : MissionContext) :
      (Json.obj (context.asDict.filter fun member => member.1 ∉ ["observed_at", "mission_context_id"])).Distinct := by
    rw [contentOf_context]
    simp [Json.Distinct, Json.DistinctMembers, optionalStr_distinct, optionalBool_distinct, optionalInt_distinct,
      strings_distinct]
  cases left with
  | none => cases right <;> simp [missionContextHash]
  | some context =>
    cases right with
    | none => simp [missionContextHash]
    | some other =>
      simp only [missionContextHash, Option.map_some, Option.some.injEq]
      rw [free.hashJson_eq_iff (distinct context) (distinct other), contentOf_context, contentOf_context,
        Json.sortKeys_eq_iff_values (by rfl) (by simp)]
      simp [unidentified, sortKeys_optionalStr, sortKeys_optionalBool, sortKeys_optionalInt, sortItems_strings, Json.sortKeys,
        optionalStr_injective.eq_iff, optionalBool_injective.eq_iff, optionalInt_injective.eq_iff, strings_injective.eq_iff]

theorem record_distinct (decision : MissionDecision) (draw : Draw) :
    (Json.obj (buildMissionDecisionRecord decision draw)).Distinct := by
  have conflicts (list : List SemanticConflict) :
      Json.DistinctItems (list.map fun conflict => Json.obj conflict.toDict) := by
    rw [Json.distinctItems_iff]
    intro item inside
    obtain ⟨conflict, _, rfl⟩ := List.mem_map.mp inside
    simp [SemanticConflict.toDict, Json.Distinct, Json.DistinctMembers, optionalStr_distinct, strings_distinct]
  simp [buildMissionDecisionRecord, BlastRadiusAssessment.toDict, Json.Distinct, Json.DistinctMembers, optionalStr_distinct,
    optionalInt_distinct, strings_distinct, conflicts]

theorem record_eq_iff (free : CollisionFree) {left right : MissionDecision} {draw otherDraw : Draw}
    (first : Indexed left.semanticGraph) (second : Indexed right.semanticGraph) :
    (Json.obj (buildMissionDecisionRecord left draw)).sortKeys =
        (Json.obj (buildMissionDecisionRecord right otherDraw)).sortKeys ↔
      newIdPrefixed "msndec" draw.uuid = newIdPrefixed "msndec" otherDraw.uuid ∧
        draw.utcNowIso = otherDraw.utcNowIso ∧ SameBasis left right := by
  rw [Json.sortKeys_eq_iff_values (by simp only [buildMissionDecisionRecord, List.map_cons, List.map_nil])
    (by simp [buildMissionDecisionRecord])]
  have authority (list : List SemanticConflict) :
      (list.filter (·.state = .conflict)).map asReported = (list.map asReported).filter (·.state = .conflict) := by
    rw [List.filter_map]
    rfl
  simp only [buildMissionDecisionRecord, List.map_cons, List.map_nil, List.cons.injEq, Option.some.injEq, and_true,
    conflicts_eq_iff, blastRadius_toDict_eq_iff, sortKeys_optionalStr, sortKeys_strings, optionalStr_injective.eq_iff,
    missionContextHash_eq_iff free, authority]
  simp only [Json.sortKeys, Json.str.injEq, Json.arr.injEq, strings_injective.eq_iff, snapshotHash_eq_iff free,
    entityHashes_eq_iff free first second, relationHashes_eq_iff free]
  constructor
  · rintro ⟨recordId, entityId, ⟨entities, relations⟩, context, time, _, _, conflicts, unknowns, radius, state, reason, created⟩
    exact ⟨recordId, created, ⟨entityId, ⟨entities, relations⟩, context, time, conflicts, unknowns, radius, state, reason⟩⟩
  · rintro ⟨recordId, created, basis⟩
    exact ⟨recordId, basis.entityId, ⟨basis.semanticGraph.entities, basis.semanticGraph.relations⟩, basis.missionContext,
      basis.temporalQueryTime, basis.semanticGraph.sourceRefs first second, by rw [basis.conflicts], basis.conflicts,
      basis.unknowns, basis.blastRadius, basis.safetyKernelState, basis.safetyKernelReason, created⟩

/-- The root hash of a recorded decision commits to the record and to its place, and so to the whole
basis of the decision: the graph, the mission context, the conflicts and the assessments. -/
theorem mission_decision_commits (free : CollisionFree) {left right : MissionDecision} {calls otherCalls : List GraphCall}
    (graph : left.semanticGraph = graphOf calls) (otherGraph : right.semanticGraph = graphOf otherCalls)
    {draw otherDraw : Draw} {writer otherWriter : EvidenceWriter} {runId otherRun : String} {draws otherDraws : AnchorDraws}
    {evidence other : DecisionEvidence}
    (returned : recordMissionDecisionEvidence (buildMissionDecisionRecord left draw) writer runId draws = .ok evidence)
    (otherReturned : recordMissionDecisionEvidence (buildMissionDecisionRecord right otherDraw) otherWriter otherRun otherDraws =
      .ok other) :
    evidence.evidenceRoot.rootHash = other.evidenceRoot.rootHash ↔
      evidencePlace evidence = evidencePlace other ∧
        newIdPrefixed "msndec" draw.uuid = newIdPrefixed "msndec" otherDraw.uuid ∧
        draw.utcNowIso = otherDraw.utcNowIso ∧ SameBasis left right := by
  have first : Indexed left.semanticGraph := graph ▸ graphOf_indexed calls
  have second : Indexed right.semanticGraph := otherGraph ▸ graphOf_indexed otherCalls
  rw [anchored_hash_iff free returned otherReturned (record_distinct left draw) (record_distinct right otherDraw),
    record_eq_iff free first second]

end

private def assetContext (crownJewel : Bool) (observedAt : String) : MissionContext where
  missionContextId := "msnctx-" ++ observedAt
  entityId := "asset-x"
  criticality := some "high"
  crownJewel := some crownJewel
  acceptableDegradation := none
  maximumOutage := none
  recoveryPriority := some 1
  dependencies := ["asset-y"]
  sourceId := "cmdb"
  observedAt
  validFrom := "2026-08-18T10:00:00+00:00"
  validUntil := none

private def assetDecision [Runtime] (context : MissionContext) : MissionDecision where
  entityId := "asset-x"
  semanticGraph := graphOf []
  missionContext := some context
  temporalQueryTime := "2026-08-18T10:00:00+00:00"
  conflicts := []
  blastRadius := assessBlastRadius (some context) (some 1) []
  safetyKernelState := "BLOCKED"
  safetyKernelReason := "rollback"
  unknowns := ["rollback"]

private def assetWriter : EvidenceWriter where
  validate _ := []
  context := { producer := "mission_context", runId := "run-1" }

private def assetEvidence [Runtime] (context : MissionContext) : Except DecisionEvidenceError DecisionEvidence :=
  recordMissionDecisionEvidence (buildMissionDecisionRecord (assetDecision context) ⟨0, 0⟩) assetWriter "run-1"
    ⟨⟨⟨0, 1⟩, ⟨0, 2⟩⟩, ⟨0, 3⟩⟩

private theorem assetEvidence_returns (context : MissionContext) :
    letI := Runtime.transparent
    ∃ evidence, assetEvidence context = .ok evidence := by
  let _ := Runtime.transparent
  have digest := transparent_digest _ (record_distinct (assetDecision context) ⟨0, 0⟩)
  rw [assetEvidence, recordMissionDecisionEvidence]
  exact anchorRecord_returns _ _ _ _ _ (fun _ => rfl) digest

private theorem assetDecision_again [Runtime] :
    SameBasis (assetDecision (assetContext true "10:00")) (assetDecision (assetContext true "11:00")) :=
  ⟨rfl, ⟨fun _ => .none, .refl _⟩, rfl, rfl, rfl, rfl, rfl, rfl, rfl⟩

private theorem assetEvidence_place [Runtime] (free : CollisionFree) {first again : DecisionEvidence}
    (returned : assetEvidence (assetContext true "10:00") = .ok first)
    (againReturned : assetEvidence (assetContext true "11:00") = .ok again) : evidencePlace first = evidencePlace again := by
  have content := (recordContent_eq_iff (record_distinct _ ⟨0, 0⟩) (record_distinct _ ⟨0, 0⟩)).mpr
    ((record_eq_iff free (graphOf_indexed []) (graphOf_indexed [])).mpr ⟨rfl, rfl, assetDecision_again⟩)
  rw [assetEvidence, recordMissionDecisionEvidence] at returned againReturned
  exact evidencePlace_congr returned againReturned content

/-- A context that was only observed again gives the same hash, one that was assessed anew another. -/
theorem mission_decision_commits_context :
    letI := Runtime.transparent
    ∃ first again revised : DecisionEvidence,
      assetEvidence (assetContext true "10:00") = .ok first ∧ assetEvidence (assetContext true "11:00") = .ok again ∧
      assetEvidence (assetContext false "11:00") = .ok revised ∧
      first.evidenceRoot.rootHash = again.evidenceRoot.rootHash ∧
      first.evidenceRoot.rootHash ≠ revised.evidenceRoot.rootHash := by
  let _ := Runtime.transparent
  have free : CollisionFree := Runtime.transparent_collisionFree
  obtain ⟨first, firstReturned⟩ := assetEvidence_returns (assetContext true "10:00")
  obtain ⟨again, againReturned⟩ := assetEvidence_returns (assetContext true "11:00")
  obtain ⟨revised, revisedReturned⟩ := assetEvidence_returns (assetContext false "11:00")
  have empty (context : MissionContext) : (assetDecision context).semanticGraph = graphOf [] := rfl
  refine ⟨first, again, revised, firstReturned, againReturned, revisedReturned, ?_, fun same => ?_⟩
  · have place := assetEvidence_place free firstReturned againReturned
    exact (mission_decision_commits free (empty _) (empty _) firstReturned againReturned).mpr
      ⟨place, rfl, rfl, assetDecision_again⟩
  · have basis := ((mission_decision_commits free (empty _) (empty _) firstReturned revisedReturned).mp same).2.2.2
    exact absurd basis.missionContext (by decide)

end ArgosCore.Proofs
