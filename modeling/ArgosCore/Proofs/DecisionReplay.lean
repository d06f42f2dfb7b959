import ArgosCore.Proofs.DecisionCommitment

/-! Replays of recorded decisions. The evidence of one record replays with the text of that
record and with no other, on any log that holds the required events of its run. -/

namespace ArgosCore.Proofs

section
variable [Runtime]

theorem Session.step_sees_iff {operation : Operation} {runId eventType : String} {session : Session} :
    eventType ∈ eventTypesSeen (session.step operation).log runId ↔
      eventType ∈ eventTypesSeen session.log runId ∨
        ∃ call draw write, operation = .append call draw write ∧ call.runId = runId ∧ call.eventType = eventType ∧
          eventType ∈ validEventTypes := by
  cases operation with
  | append call draw write =>
    rw [show (session.step (.append call draw write)).log = (session.log.append session.disk call draw write).2.1 from rfl,
      mem_eventTypesSeen, mem_eventTypesSeen]
    rcases append_cases session.log session.disk call draw write with ⟨unknown, _, same⟩ | ⟨known, extended⟩
    · rw [same]
      refine ⟨.inl, fun seen => seen.resolve_right ?_⟩
      rintro ⟨_, _, _, same, _, rfl, valid⟩
      cases same
      exact unknown valid
    · rw [extended]
      constructor
      · rintro ⟨entry, inside, ran, typed⟩
        rcases List.mem_append.mp inside with held | new
        · exact .inl ⟨entry, held, ran, typed⟩
        · obtain rfl := List.mem_singleton.mp new
          exact .inr ⟨call, draw, write, rfl, ran, typed, typed ▸ known⟩
      · rintro (⟨entry, inside, ran, typed⟩ | ⟨_, _, _, same, ran, typed, _⟩)
        · exact ⟨entry, List.mem_append_left _ inside, ran, typed⟩
        · cases same
          exact ⟨_, List.mem_append_right _ List.mem_cons_self, ran, typed⟩
  | issueReceipt objectId draw =>
    have same : (session.step (.issueReceipt objectId draw)).log = session.log := by
      simp only [Session.step]
      split <;> rfl
    rw [same]
    simp

theorem Session.run_sees_iff {operations : List Operation} {runId eventType : String} {session : Session} :
    eventType ∈ eventTypesSeen (session.run operations).log runId ↔
      eventType ∈ eventTypesSeen session.log runId ∨
        ∃ call draw write, .append call draw write ∈ operations ∧ call.runId = runId ∧ call.eventType = eventType ∧
          eventType ∈ validEventTypes := by
  induction operations generalizing session with
  | nil => simp [Session.run]
  | cons operation operations ih =>
    change eventType ∈ eventTypesSeen ((session.step operation).run operations).log runId ↔ _
    rw [ih, Session.step_sees_iff, or_assoc]
    refine or_congr_right ⟨?_, ?_⟩
    · rintro (⟨call, draw, write, rfl, appended⟩ | ⟨call, draw, write, later, appended⟩)
      · exact ⟨call, draw, write, List.mem_cons_self, appended⟩
      · exact ⟨call, draw, write, List.mem_cons_of_mem _ later, appended⟩
    · rintro ⟨call, draw, write, inside, appended⟩
      rcases List.mem_cons.mp inside with here | later
      · exact .inl ⟨call, draw, write, here.symm, appended⟩
      · exact .inr ⟨call, draw, write, later, appended⟩

theorem sessionAfter_sees_iff {operations : List EvidenceOperation} {runId eventType : String} {persistPath : Option String}
    {disk : Disk} :
    eventType ∈ eventTypesSeen (sessionAfter persistPath disk operations).log runId ↔
      Appended operations runId eventType := by
  rw [sessionAfter_toSession, Session.run_sees_iff]
  have onLog (operation : Operation) : operation ∈ operations.filterMap EvidenceOperation.onLog ↔ .log operation ∈ operations := by
    rw [List.mem_filterMap]
    constructor
    · rintro ⟨other, inside, seen⟩
      cases other with
      | write writer request draws => cases seen
      | log other =>
        cases seen
        exact inside
    · exact fun inside => ⟨_, inside, rfl⟩
  have fresh : eventType ∉ eventTypesSeen { persistPath } runId := by simp [eventTypesSeen]
  simp only [onLog, Appended, fresh, false_or]

theorem declaresContent_single_iff (free : CollisionFree) (written : WrittenArtifact) {item : String × ByteArray} :
    DeclaresContent (itemsOf [written]) item ↔ item = (written.artifactId, written.request.content) := by
  have unique : ([written].map WrittenArtifact.artifactId).Nodup := List.nodup_singleton _
  constructor
  · rintro ⟨manifest, held, digest⟩
    have member := Dict.mem_of_lookup held
    rw [itemsOf, List.map_singleton, List.mem_singleton, Prod.mk.injEq] at member
    obtain ⟨named, rfl⟩ := member
    rw [writeBytes_manifest written.returned, Option.some.injEq] at digest
    exact Prod.ext named (free digest.symm)
  · rintro rfl
    exact declaresContent_of_mem unique List.mem_cons_self

/-- The evidence of a record replays as verified exactly when what is supplied is the text of that
record, and the required events were appended for its run, whatever else the log was used for. -/
theorem anchored_replay_iff (free : CollisionFree) {producer subjectKey runId : String} {record : Json.Object}
    {writer : EvidenceWriter} {draws : AnchorDraws} {evidence : DecisionEvidence}
    (returned : anchorRecord producer subjectKey record writer runId draws = .ok evidence) (persistPath : Option String)
    (disk : Disk) (operations : List EvidenceOperation) (replayedRun : String) (requiredEventTypes : Finset String)
    (artifactBytesById : List (String × ByteArray)) :
    ReplayInput.Verified
        { runId := replayedRun
          manifests := [some (Manifest.ofDict evidence.manifest)]
          root := evidence.evidenceRoot
          log := (sessionAfter persistPath disk operations).log
          artifactBytesById
          requiredEventTypes } ↔
      (∀ item ∈ artifactBytesById,
        (evidencePlace evidence).1 = some item.1 ∧ item.2 = recordContent record) ∧
      ∀ eventType ∈ requiredEventTypes, Appended operations replayedRun eventType := by
  have place := congrArg Prod.fst (evidencePlace_anchored returned)
  obtain ⟨written, _, request, drawn, manifest, _, refs, hash⟩ := anchorRecord_ok returned
  have named : (evidencePlace evidence).1 = some written.artifactId := by rw [place, WrittenArtifact.artifactId, drawn]
  have content : written.request.content = recordContent record := by rw [request, recordRequest]
  have consistent : verifyEvidenceRoot evidence.evidenceRoot = true := by
    rw [verifyEvidenceRoot, decide_eq_true_eq, recomputeRootHash, refs, hash]
  have unique : ([written].map WrittenArtifact.artifactId).Nodup := List.nodup_singleton _
  have represented : ((itemsOf [written]).map Prod.fst).toFinset = evidence.evidenceRoot.artifactIds := by
    rw [itemsOf_keys, EvidenceRoot.artifactIds, refs]
    rfl
  have item (item : String × ByteArray) : DeclaresContent (itemsOf [written]) item ↔
      (evidencePlace evidence).1 = some item.1 ∧ item.2 = recordContent record := by
    rw [declaresContent_single_iff free, named, content, Option.some.injEq, Prod.ext_iff, eq_comm]
  have events : requiredEventTypes ⊆ eventTypesSeen (sessionAfter persistPath disk operations).log replayedRun ↔
      ∀ eventType ∈ requiredEventTypes, Appended operations replayedRun eventType := by
    simp only [Finset.subset_iff, sessionAfter_sees_iff]
  rw [replay_verified_iff, ← manifest]
  constructor
  · rintro ⟨_, _, ⟨byId, read, _, contents⟩, seen⟩
    obtain rfl := Except.ok.inj ((manifestById_manifestsOf unique).symm.trans read)
    exact ⟨fun supplied inside => (item supplied).mp (contents supplied inside), events.mp seen⟩
  · rintro ⟨contents, appended⟩
    exact ⟨sessionAfter_verifies persistPath disk operations, consistent,
      ⟨itemsOf [written], manifestById_manifestsOf unique, represented,
        fun supplied inside => (item supplied).mpr (contents supplied inside)⟩, events.mpr appended⟩

end

private def peerRecord (decision : String) : Json.Object :=
  [("record_id", .str "feddec-1"), ("artifact_ref", .str "fedart-1"), ("decision", .str decision)]

private theorem peerRecord_distinct (decision : String) : (Json.obj (peerRecord decision)).Distinct := by
  simp [peerRecord, Json.Distinct, Json.DistinctMembers]

private def peerWriter : EvidenceWriter where
  validate _ := []
  context := { producer := "federation", runId := "run-1" }

/-- The text of the decision verifies, that of the opposite decision does not. -/
theorem anchored_replay_iff_peer :
    letI := Runtime.transparent
    ∃ evidence, recordFederationEvidence (peerRecord "REJECT") peerWriter "run-1" ⟨⟨⟨0, 1⟩, ⟨0, 2⟩⟩, ⟨0, 3⟩⟩ = .ok evidence ∧
      ∀ decision, ReplayInput.Verified
          { runId := "run-1"
            manifests := [some (Manifest.ofDict evidence.manifest)]
            root := evidence.evidenceRoot
            log := (sessionAfter none (fun _ => none)
              [.log (.append (sampleCall "EVIDENCE_ROOT_CREATED" evidence.evidenceRoot.rootId) ⟨0, 0⟩ .written)]).log
            artifactBytesById := [(newIdPrefixed "art" 1, recordContent (peerRecord decision))]
            requiredEventTypes := defaultRequiredEventTypes } ↔ decision = "REJECT" := by
  let _ := Runtime.transparent
  have digest := transparent_digest _ (peerRecord_distinct "REJECT")
  obtain ⟨evidence, returned⟩ : ∃ evidence, recordFederationEvidence (peerRecord "REJECT") peerWriter "run-1"
      ⟨⟨⟨0, 1⟩, ⟨0, 2⟩⟩, ⟨0, 3⟩⟩ = .ok evidence := anchorRecord_returns _ _ _ _ _ (fun _ => rfl) digest
  refine ⟨evidence, returned, fun decision => ?_⟩
  have place : (evidencePlace evidence).1 = some (newIdPrefixed "art" 1) :=
    congrArg Prod.fst (evidencePlace_anchored returned)
  have appended : ∀ eventType ∈ defaultRequiredEventTypes, Appended
      [.log (.append (sampleCall "EVIDENCE_ROOT_CREATED" evidence.evidenceRoot.rootId) ⟨0, 0⟩ .written)] "run-1" eventType := by
    intro eventType required
    rw [Finset.mem_singleton.mp required]
    exact ⟨_, _, _, List.mem_cons_self, rfl, rfl, by decide⟩
  rw [anchored_replay_iff Runtime.transparent_collisionFree returned]
  simp only [List.mem_singleton, forall_eq, place, true_and,
    recordContent_eq_iff (peerRecord_distinct decision) (peerRecord_distinct "REJECT")]
  rw [and_iff_left appended, Json.sortKeys_eq_iff_values (by rfl) (by simp [peerRecord])]
  simp [peerRecord, Json.sortKeys]

end ArgosCore.Proofs
