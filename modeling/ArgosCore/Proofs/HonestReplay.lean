import ArgosCore.EvidenceWriter
import ArgosCore.Proofs.ReplayBinding

/-! Replays of honest runs. Any number of runs write artifacts and append to one log, in
any interleaving; whoever seals all that a run wrote gets a root whose replay verifies. -/

namespace ArgosCore.Proofs

theorem mem_eventTypesSeen {log : TransparencyLog} {runId eventType : String} :
    eventType ∈ eventTypesSeen log runId ↔ ∃ entry ∈ log.entries, entry.runId = runId ∧ entry.eventType = eventType := by
  simp [eventTypesSeen, and_assoc]

theorem newIdPrefixed_ne_empty (domain : String) (uuid : BitVec 128) : newIdPrefixed domain uuid ≠ "" := by
  intro empty
  have length := congrArg String.length empty
  simp [newIdPrefixed] at length

section
variable [Runtime]

theorem writeBytes_manifest {writer : EvidenceWriter} {request : WriteRequest} {draws : WriteDraws} {manifest : Json.Object}
    (returned : writer.writeBytes request draws = .ok manifest) :
    Manifest.ofDict manifest =
      { artifactId := some (newIdPrefixed "art" draws.created.uuid)
        sha256 := some (Runtime.sha256 request.content)
        objectRef := some (writer.objectRef request) } := by
  have distinct : ((writer.payload request draws.created).map Prod.fst).Nodup := by simp [EvidenceWriter.payload]
  simp only [EvidenceWriter.writeBytes] at returned
  split at returned
  next => cases returned
  next =>
    cases returned
    simp only [Manifest.ofDict, textAt, Dict.lookup_setAll_of_nodup _ distinct]
    rfl

structure WrittenArtifact where
  writer : EvidenceWriter
  request : WriteRequest
  draws : WriteDraws
  manifest : Json.Object
  returned : writer.writeBytes request draws = .ok manifest

namespace WrittenArtifact

def artifactId (written : WrittenArtifact) : String := newIdPrefixed "art" written.draws.created.uuid

def ref (written : WrittenArtifact) : ArtifactRef where
  artifactId := written.artifactId
  sha256 := Runtime.sha256 written.request.content
  objectRef := written.writer.objectRef written.request

end WrittenArtifact

inductive EvidenceOperation where
  | write (writer : EvidenceWriter) (request : WriteRequest) (draws : WriteDraws)
  | log (operation : Operation)

structure EvidenceSession extends Session where
  written : List WrittenArtifact := []

def EvidenceSession.step (session : EvidenceSession) : EvidenceOperation → EvidenceSession
  | .write writer request draws =>
    match returned : writer.writeBytes request draws with
    | .error _ => session
    | .ok manifest => { session with written := session.written ++ [{ writer, request, draws, manifest, returned }] }
  | .log operation => { session with toSession := session.toSession.step operation }

def EvidenceSession.run (session : EvidenceSession) (operations : List EvidenceOperation) : EvidenceSession :=
  operations.foldl EvidenceSession.step session

def EvidenceOperation.onLog : EvidenceOperation → Option Operation
  | .write .. => none
  | .log operation => some operation

theorem EvidenceSession.step_write_toSession (session : EvidenceSession) (writer : EvidenceWriter) (request : WriteRequest)
    (draws : WriteDraws) : (session.step (.write writer request draws)).toSession = session.toSession := by
  simp only [EvidenceSession.step]
  split <;> rfl

theorem EvidenceSession.run_toSession (session : EvidenceSession) (operations : List EvidenceOperation) :
    (session.run operations).toSession = session.toSession.run (operations.filterMap EvidenceOperation.onLog) := by
  induction operations generalizing session with
  | nil => rfl
  | cons operation operations ih =>
    change ((session.step operation).run operations).toSession = _
    rw [ih]
    cases operation with
    | write writer request draws =>
      rw [session.step_write_toSession]
      rfl
    | log operation => rfl

theorem Session.step_entries (session : Session) (operation : Operation) :
    session.log.entries <+: (session.step operation).log.entries := by
  cases operation with
  | append call draw write =>
    change session.log.entries <+: (session.log.append session.disk call draw write).2.1.entries
    rcases append_cases session.log session.disk call draw write with ⟨_, _, same⟩ | ⟨_, extended⟩
    · rw [same]
    · rw [extended]
      apply List.prefix_append
  | issueReceipt objectId draw =>
    simp only [Session.step]
    split <;> exact List.prefix_refl _

theorem Session.run_entries (session : Session) (operations : List Operation) :
    session.log.entries <+: (session.run operations).log.entries := by
  induction operations generalizing session with
  | nil => exact List.prefix_refl _
  | cons operation operations ih => exact (session.step_entries operation).trans (ih _)

theorem Session.mem_entries_append (session : Session) {call : AppendCall} (known : call.eventType ∈ validEventTypes)
    (draw : Draw) (write : WriteOutcome) :
    session.log.nextEntry call draw ∈ (session.step (.append call draw write)).log.entries := by
  change _ ∈ (session.log.append session.disk call draw write).2.1.entries
  rcases append_cases session.log session.disk call draw write with ⟨unknown, _⟩ | ⟨_, extended⟩
  · exact absurd known unknown
  · rw [extended]
    exact List.mem_append_right _ List.mem_cons_self

theorem Session.run_sees {operations : List Operation} {call : AppendCall} {draw : Draw} {write : WriteOutcome}
    (appended : .append call draw write ∈ operations) (known : call.eventType ∈ validEventTypes) (session : Session) :
    call.eventType ∈ eventTypesSeen (session.run operations).log call.runId := by
  induction operations generalizing session with
  | nil => cases appended
  | cons operation operations ih =>
    rcases List.mem_cons.mp appended with rfl | later
    · have entered := session.mem_entries_append known draw write
      have kept := (session.step (.append call draw write)).run_entries operations
      exact mem_eventTypesSeen.mpr ⟨session.log.nextEntry call draw, kept.subset entered, rfl, rfl⟩
    · exact ih later (session.step operation)

def manifestsOf (artifacts : List WrittenArtifact) : List (Option Manifest) :=
  artifacts.map fun written => some (Manifest.ofDict written.manifest)

theorem declared_written (digests : FullDigests) (written : WrittenArtifact) :
    declared (some (Manifest.ofDict written.manifest)) = some written.ref := by
  have digest : Runtime.sha256 written.request.content ≠ "" := by
    intro empty
    have length := digests written.request.content
    rw [empty] at length
    cases length
  have complete : (Manifest.ofDict written.manifest).complete = true := by
    simp [writeBytes_manifest written.returned, Manifest.complete, newIdPrefixed_ne_empty, digest]
  rw [declared, Option.filter_some, if_pos complete, writeBytes_manifest written.returned]
  rfl

theorem filterMap_declared (digests : FullDigests) (artifacts : List WrittenArtifact) :
    (manifestsOf artifacts).filterMap declared = artifacts.map WrittenArtifact.ref := by
  rw [manifestsOf, List.filterMap_map, ← List.filterMap_eq_map]
  exact List.filterMap_congr fun written _ => declared_written digests written

def itemsOf (artifacts : List WrittenArtifact) : Dict Manifest :=
  artifacts.map fun written => (written.artifactId, Manifest.ofDict written.manifest)

theorem itemsOf_keys (artifacts : List WrittenArtifact) :
    (itemsOf artifacts).map Prod.fst = artifacts.map WrittenArtifact.artifactId := by
  rw [itemsOf, List.map_map]
  rfl

theorem manifestItems_manifestsOf (artifacts : List WrittenArtifact) :
    manifestItems (manifestsOf artifacts) = .ok (itemsOf artifacts) := by
  induction artifacts with
  | nil => rfl
  | cons written artifacts ih =>
    have named : (Manifest.ofDict written.manifest).artifactId = some written.artifactId :=
      congrArg Manifest.artifactId (writeBytes_manifest written.returned)
    change manifestItems (some (Manifest.ofDict written.manifest) :: manifestsOf artifacts) = _
    rw [manifestItems, named, ih]
    rfl

section
variable {artifacts : List WrittenArtifact} (unique : (artifacts.map WrittenArtifact.artifactId).Nodup)
include unique

theorem manifestById_manifestsOf : manifestById (manifestsOf artifacts) = .ok (itemsOf artifacts) := by
  rw [manifestById, manifestItems_manifestsOf]
  have distinct : (([] ++ itemsOf artifacts).map Prod.fst).Nodup := by
    rw [List.nil_append, itemsOf_keys]
    exact unique
  exact congrArg Except.ok (Dict.setAll_of_nodup distinct)

theorem declaresContent_of_mem {written : WrittenArtifact} (member : written ∈ artifacts) :
    DeclaresContent (itemsOf artifacts) (written.artifactId, written.request.content) := by
  refine ⟨Manifest.ofDict written.manifest, ?_, ?_⟩
  · rw [Dict.lookup_eq_some_iff (by rwa [itemsOf_keys])]
    exact List.mem_map.mpr ⟨written, member, rfl⟩
  · rw [writeBytes_manifest written.returned]

theorem accepted_manifestsOf (digests : FullDigests) (critical : Bool) : Accepted critical (manifestsOf artifacts) := by
  constructor
  · intro manifest member
    obtain ⟨written, _, rfl⟩ := List.mem_map.mp member
    exact .inl (by rw [declared_written digests]; rfl)
  · rw [filterMap_declared digests]
    intro left first right second same
    obtain ⟨one, oneMember, rfl⟩ := List.mem_map.mp first
    obtain ⟨other, otherMember, rfl⟩ := List.mem_map.mp second
    rw [List.inj_on_of_nodup_map unique oneMember otherMember same]

theorem collected_manifestsOf (digests : FullDigests) :
    collected (manifestsOf artifacts) = artifacts.map WrittenArtifact.ref := by
  rw [collected, filterMap_declared digests, byArtifactId, Dict.setAll_of_nodup]
  · simp
  · simpa [Function.comp_def, WrittenArtifact.ref] using unique

theorem buildEvidenceRoot_written (digests : FullDigests) (runId producer : String) (incidentId releaseRef : Option String)
    (critical : Bool) (draw : Draw) :
    ∃ root, buildEvidenceRoot (manifestsOf artifacts) runId producer incidentId releaseRef critical draw = .ok root ∧
      verifyEvidenceRoot root = true ∧ root.artifactIds = (artifacts.map WrittenArtifact.artifactId).toFinset := by
  obtain ⟨root, built, refs, hash, _⟩ := buildEvidenceRoot_accepted (accepted_manifestsOf unique digests critical) runId
    producer incidentId releaseRef draw
  rw [collected_manifestsOf unique digests] at refs hash
  refine ⟨root, built, ?_, ?_⟩
  · rw [verifyEvidenceRoot, decide_eq_true_eq, recomputeRootHash, refs, hash, canonicalHash, canonicalHash,
      sortedRefs_idempotent]
  · ext artifactId
    simp [EvidenceRoot.artifactIds, refs, mem_sortedRefs, WrittenArtifact.ref]

end

/-- Among the operations is an append of the event for the run, and the log knows the event. -/
def Appended (operations : List EvidenceOperation) (runId eventType : String) : Prop :=
  ∃ call draw write, .log (.append call draw write) ∈ operations ∧ call.runId = runId ∧ call.eventType = eventType ∧
    eventType ∈ validEventTypes

def sessionAfter (persistPath : Option String) (disk : Disk) (operations : List EvidenceOperation) : EvidenceSession :=
  EvidenceSession.run { log := { persistPath }, disk } operations

theorem sessionAfter_toSession (persistPath : Option String) (disk : Disk) (operations : List EvidenceOperation) :
    (sessionAfter persistPath disk operations).toSession =
      Session.run { log := { persistPath }, disk } (operations.filterMap EvidenceOperation.onLog) :=
  EvidenceSession.run_toSession _ operations

theorem sessionAfter_verifies (persistPath : Option String) (disk : Disk) (operations : List EvidenceOperation) :
    (sessionAfter persistPath disk operations).log.verifyChain.ok = true := by
  have start : Session.Valid { log := { persistPath }, disk } := ⟨.initial persistPath, by simp⟩
  rw [sessionAfter_toSession]
  exact verifyChain_ok_iff.mpr (start.run _).honest.sound

theorem sessionAfter_sees {operations : List EvidenceOperation} {runId eventType : String}
    (appended : Appended operations runId eventType) (persistPath : Option String) (disk : Disk) :
    eventType ∈ eventTypesSeen (sessionAfter persistPath disk operations).log runId := by
  obtain ⟨call, draw, write, inside, rfl, rfl, known⟩ := appended
  rw [sessionAfter_toSession]
  exact Session.run_sees (List.mem_filterMap.mpr ⟨_, inside, rfl⟩) known _

def EvidenceSession.writtenBy (session : EvidenceSession) (runId : String) : List WrittenArtifact :=
  session.written.filter fun written => written.writer.context.runId = runId

/-- An honest run replays as verified, whatever the other runs write and append: its
manifests are sealed in any order, listed in any order, and come with any of their bytes. -/
theorem honest_replay_verifies (digests : FullDigests) (persistPath : Option String) (disk : Disk)
    (operations : List EvidenceOperation) (runId : String)
    (unique : (((sessionAfter persistPath disk operations).writtenBy runId).map WrittenArtifact.artifactId).Nodup)
    {requiredEventTypes : Finset String} (appended : ∀ eventType ∈ requiredEventTypes, Appended operations runId eventType)
    {artifacts listed : List WrittenArtifact}
    (sealing : artifacts.Perm ((sessionAfter persistPath disk operations).writtenBy runId))
    (listing : listed.Perm ((sessionAfter persistPath disk operations).writtenBy runId))
    {artifactBytesById : List (String × ByteArray)}
    (supplied : ∀ item ∈ artifactBytesById, ∃ written ∈ (sessionAfter persistPath disk operations).writtenBy runId,
      item = (written.artifactId, written.request.content))
    (producer : String) (incidentId releaseRef : Option String) (critical : Bool) (draw : Draw) :
    ∃ root, buildEvidenceRoot (manifestsOf artifacts) runId producer incidentId releaseRef critical draw = .ok root ∧
      ReplayInput.Verified
        { runId
          manifests := manifestsOf listed
          root
          log := (sessionAfter persistPath disk operations).log
          artifactBytesById
          requiredEventTypes } := by
  have uniqueArtifacts := (sealing.map WrittenArtifact.artifactId).nodup_iff.mpr unique
  have uniqueListed := (listing.map WrittenArtifact.artifactId).nodup_iff.mpr unique
  obtain ⟨root, built, consistent, named⟩ := buildEvidenceRoot_written uniqueArtifacts digests runId producer incidentId
    releaseRef critical draw
  have contents : ∃ byId, manifestById (manifestsOf listed) = .ok byId ∧
      (byId.map Prod.fst).toFinset = root.artifactIds ∧ ∀ item ∈ artifactBytesById, DeclaresContent byId item := by
    refine ⟨itemsOf listed, manifestById_manifestsOf uniqueListed, ?_, ?_⟩
    · rw [itemsOf_keys, named]
      exact List.toFinset_eq_of_perm _ _ ((listing.trans sealing.symm).map _)
    · intro item member
      obtain ⟨written, inside, rfl⟩ := supplied item member
      exact declaresContent_of_mem uniqueListed (listing.mem_iff.mpr inside)
  have events : requiredEventTypes ⊆ eventTypesSeen (sessionAfter persistPath disk operations).log runId := by
    intro eventType required
    exact sessionAfter_sees (appended eventType required) persistPath disk
  exact ⟨root, built, replay_verified_iff.mpr
    ⟨sessionAfter_verifies persistPath disk operations, consistent, contents, events⟩⟩

end

private def sampleWrite (runId content : String) (uuid : BitVec 128) : EvidenceOperation :=
  .write { validate := fun _ => [], context := { producer := "evidence_writer", runId } }
    { content := content.toUTF8, mediaType := "text/plain", retention := { policy := "standard" } } ⟨⟨0, uuid⟩, ⟨0, uuid⟩⟩

/-- Two runs that take turns; the second one also appends an event that the log refuses. -/
private def twoRuns : List EvidenceOperation := [
  sampleWrite "run-1" "report" 0,
  .log (.append { sampleCall "ACTION_FORGOTTEN" "plan-2" with runId := "run-2" } ⟨0, 0⟩ .written),
  sampleWrite "run-2" "other report" 1,
  .log (.append (sampleCall "EVIDENCE_ROOT_CREATED" "root-1") ⟨0, 0⟩ .written),
  .log (.append { sampleCall "EVIDENCE_ROOT_CREATED" "root-2" with runId := "run-2" } ⟨0, 0⟩ .written),
  sampleWrite "run-1" "log file" 2]

theorem honest_replay_verifies_two_runs :
    letI := Runtime.standard
    let session := sessionAfter none (fun _ => none) twoRuns
    ∃ root, buildEvidenceRoot (manifestsOf (session.writtenBy "run-1")) "run-1" "evidence_root" none none true ⟨0, 0⟩ =
        .ok root ∧
      ReplayInput.Verified
        { runId := "run-1"
          manifests := manifestsOf (session.writtenBy "run-1").reverse
          root
          log := session.log
          artifactBytesById := [(newIdPrefixed "art" 0, "report".toUTF8)]
          requiredEventTypes := defaultRequiredEventTypes } := by
  let _ := Runtime.standard
  apply honest_replay_verifies Runtime.standard_fullDigests none (fun _ => none) twoRuns "run-1"
  case unique => decide
  case appended =>
    intro eventType required
    rw [Finset.mem_singleton.mp required]
    exact ⟨sampleCall "EVIDENCE_ROOT_CREATED" "root-1", ⟨0, 0⟩, .written, by simp [twoRuns], rfl, rfl, by decide⟩
  case sealing => exact .refl _
  case listing => exact List.reverse_perm _
  case supplied =>
    intro item member
    rw [List.mem_singleton.mp member]
    exact ⟨_, List.mem_cons_self, rfl⟩

end ArgosCore.Proofs
