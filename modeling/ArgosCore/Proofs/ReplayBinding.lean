import ArgosCore.Proofs.EvidenceRootOrder
import ArgosCore.Proofs.TransparencyChain
import ArgosCore.Replay

/-! What a verified replay says about the sealed root. Manifests and root are
compared by identifier, the contents with the manifests, and the log only by the
types of its events. -/

namespace ArgosCore.Proofs

def Supplied (manifests : List (Option Manifest)) (artifactId : String) (manifest : Manifest) : Prop :=
  some manifest ∈ manifests ∧ manifest.artifactId = some artifactId

theorem mem_manifestItems {manifests : List (Option Manifest)} {items : List (String × Manifest)}
    (read : manifestItems manifests = .ok items) (artifactId : String) (manifest : Manifest) :
    (artifactId, manifest) ∈ items ↔ Supplied manifests artifactId manifest := by
  induction manifests generalizing items with
  | nil =>
    cases read
    simp [Supplied]
  | cons first manifests ih =>
    cases first with
    | none => simpa [Supplied] using ih read
    | some first =>
      rw [manifestItems] at read
      cases found : first.artifactId with
      | none => rw [found] at read; cases read
      | some name =>
        rw [found] at read
        cases others : manifestItems manifests with
        | error error => rw [others] at read; cases read
        | ok rest =>
          rw [others] at read
          cases read
          rw [List.mem_cons, ih others]
          simp only [Supplied, List.mem_cons, Option.some.injEq, Prod.mk.injEq]
          constructor
          · rintro (⟨rfl, rfl⟩ | ⟨member, same⟩)
            · exact ⟨.inl rfl, found⟩
            · exact ⟨.inr member, same⟩
          · rintro ⟨rfl | member, same⟩
            · exact .inl ⟨by rw [found] at same; exact (Option.some.inj same).symm, rfl⟩
            · exact .inr ⟨member, same⟩

private theorem manifestById_ok {manifests : List (Option Manifest)} {byId : Dict Manifest}
    (read : manifestById manifests = .ok byId) : ∃ items, manifestItems manifests = .ok items ∧ byId = Dict.setAll [] items := by
  rw [manifestById] at read
  generalize manifestItems manifests = items at read ⊢
  cases items with
  | error error => cases read
  | ok items =>
    cases read
    exact ⟨items, rfl, rfl⟩

theorem supplied_of_lookup {manifests : List (Option Manifest)} {byId : Dict Manifest}
    (read : manifestById manifests = .ok byId) {artifactId : String} {manifest : Manifest}
    (found : byId.lookup artifactId = some manifest) : Supplied manifests artifactId manifest := by
  obtain ⟨items, listed, rfl⟩ := manifestById_ok read
  have distinct : ((Dict.setAll [] items).map Prod.fst).Nodup := Dict.nodup_setAll (by simp) items
  have member := (Dict.lookup_eq_some_iff distinct).mp found
  rw [← mem_manifestItems listed]
  exact (Dict.mem_of_mem_setAll member).resolve_right (by simp)

theorem mem_manifestById_keys {manifests : List (Option Manifest)} {byId : Dict Manifest}
    (read : manifestById manifests = .ok byId) (artifactId : String) :
    artifactId ∈ byId.map Prod.fst ↔ ∃ manifest, Supplied manifests artifactId manifest := by
  obtain ⟨items, listed, rfl⟩ := manifestById_ok read
  rw [Dict.mem_keys_setAll]
  simp [← mem_manifestItems listed]

variable [Runtime]

def DeclaresContent (byId : Dict Manifest) (item : String × ByteArray) : Prop :=
  ∃ manifest, byId.lookup item.1 = some manifest ∧ manifest.sha256 = some (Runtime.sha256 item.2)

theorem checkArtifactBytes_none_iff {byId : Dict Manifest} {items : List (String × ByteArray)} :
    checkArtifactBytes byId items = .ok none ↔ ∀ item ∈ items, DeclaresContent byId item := by
  induction items with
  | nil => simp [checkArtifactBytes]
  | cons item items ih =>
    rw [List.forall_mem_cons, ← ih, checkArtifactBytes, DeclaresContent]
    cases byId.lookup item.1 with
    | none => simp
    | some manifest =>
      cases declared : manifest.sha256 with
      | none => simp [declared]
      | some hash =>
        by_cases same : Runtime.sha256 item.2 = hash
        · simp [declared, same]
        · simp [declared, same, Ne.symm same]

theorem checkArtifactBytes_not_ok {byId : Dict Manifest} {items : List (String × ByteArray)} {result : ReplayResult}
    (failed : checkArtifactBytes byId items = .ok (some result)) : result.ok = false := by
  induction items with
  | nil => cases failed
  | cons item items ih =>
    rw [checkArtifactBytes] at failed
    split at failed
    next => cases failed; rfl
    next =>
      split at failed
      next => cases failed
      next hash _ =>
        by_cases same : Runtime.sha256 item.2 = hash
        · exact ih (by simpa [same] using failed)
        · rw [if_pos same] at failed
          cases failed
          rfl

structure ReplayInput where
  runId : String
  manifests : List (Option Manifest)
  root : EvidenceRoot
  log : TransparencyLog
  artifactBytesById : List (String × ByteArray)
  requiredEventTypes : Finset String

def ReplayInput.Verified (input : ReplayInput) : Prop :=
  ∃ result, replayAndVerify input.runId input.manifests input.root input.log input.artifactBytesById
    input.requiredEventTypes = .ok result ∧ result.ok = true

structure ReplayInput.Passes (input : ReplayInput) : Prop where
  chain : input.log.verifyChain.ok = true
  root : verifyEvidenceRoot input.root = true
  contents : ∃ byId, manifestById input.manifests = .ok byId ∧ (byId.map Prod.fst).toFinset = input.root.artifactIds ∧
    ∀ item ∈ input.artifactBytesById, DeclaresContent byId item
  events : input.requiredEventTypes ⊆ eventTypesSeen input.log input.runId

theorem replay_verified_iff {input : ReplayInput} : input.Verified ↔ input.Passes := by
  constructor
  · intro ⟨result, returned, ok⟩
    unfold replayAndVerify at returned
    by_cases chain : input.log.verifyChain.ok = true
    case neg => rw [if_pos chain] at returned; cases returned; cases ok
    by_cases root : verifyEvidenceRoot input.root = true
    case neg => rw [if_neg (not_not.mpr chain), if_pos root] at returned; cases returned; cases ok
    rw [if_neg (not_not.mpr chain), if_neg (not_not.mpr root)] at returned
    cases read : manifestById input.manifests with
    | error error => rw [read] at returned; cases returned
    | ok byId =>
      rw [read] at returned
      dsimp only at returned
      split at returned
      next => cases returned; cases ok
      next foreign =>
        split at returned
        next => cases returned; cases ok
        next absent =>
          split at returned
          next => cases returned
          next failed =>
            cases returned
            rw [checkArtifactBytes_not_ok failed] at ok
            cases ok
          next passed =>
            split at returned
            next => cases returned; cases ok
            next missing =>
              rw [Finset.not_nonempty_iff_eq_empty, Finset.sdiff_eq_empty_iff_subset] at foreign absent missing
              exact ⟨chain, root, ⟨byId, read, foreign.antisymm absent, checkArtifactBytes_none_iff.mp passed⟩, missing⟩
  · intro ⟨chain, root, ⟨byId, read, same, contents⟩, events⟩
    have foreign : ¬ ((byId.map Prod.fst).toFinset \ input.root.artifactIds).Nonempty := by simp [same]
    have absent : ¬ (input.root.artifactIds \ (byId.map Prod.fst).toFinset).Nonempty := by simp [same]
    have missing : ¬ (input.requiredEventTypes \ eventTypesSeen input.log input.runId).Nonempty := by
      simpa [Finset.not_nonempty_iff_eq_empty, Finset.sdiff_eq_empty_iff_subset] using events
    rw [ReplayInput.Verified, replayAndVerify, if_neg (not_not.mpr chain), if_neg (not_not.mpr root), read]
    dsimp only
    rw [if_neg foreign, if_neg absent, checkArtifactBytes_none_iff.mpr contents]
    dsimp only
    rw [if_neg missing]
    exact ⟨_, rfl, rfl⟩

def ReplayInput.ManifestsSealed (input : ReplayInput) : Prop :=
  ∀ ref ∈ input.root.artifactRefs, ∀ manifest, Supplied input.manifests ref.artifactId manifest →
    manifest.sha256 = some ref.sha256

structure ReplayInput.Bound (input : ReplayInput) : Prop where
  supplied : ∀ ref ∈ input.root.artifactRefs, ∃ manifest, Supplied input.manifests ref.artifactId manifest
  manifests : input.ManifestsSealed
  contents : ∀ item ∈ input.artifactBytesById, (∃ ref ∈ input.root.artifactRefs, ref.artifactId = item.1) ∧
    ∀ ref ∈ input.root.artifactRefs, ref.artifactId = item.1 → Runtime.sha256 item.2 = ref.sha256

private theorem ReplayInput.Passes.bound {input : ReplayInput} (passes : input.Passes) (declares : input.ManifestsSealed) :
    input.Bound := by
  obtain ⟨byId, read, same, contents⟩ := passes.contents
  have ids (artifactId : String) : artifactId ∈ byId.map Prod.fst ↔ ∃ ref ∈ input.root.artifactRefs, ref.artifactId = artifactId := by
    rw [← List.mem_toFinset, same, EvidenceRoot.artifactIds, List.mem_toFinset, List.mem_map]
  refine ⟨?_, declares, ?_⟩
  · intro ref member
    exact (mem_manifestById_keys read _).mp ((ids _).mpr ⟨ref, member, rfl⟩)
  · intro item inside
    obtain ⟨manifest, found, declared⟩ := contents item inside
    have supplied := supplied_of_lookup read found
    refine ⟨(ids _).mp ((mem_manifestById_keys read _).mpr ⟨manifest, supplied⟩), ?_⟩
    intro ref member identifier
    have hash := declares ref member manifest (identifier ▸ supplied)
    rw [declared] at hash
    exact Option.some.inj hash

/-- A verified replay is bound to its root exactly when a comparison of the replay
fails or the manifests declare the sealed hashes, which it never compares. -/
theorem replay_binds_iff (input : ReplayInput) :
    (input.Verified → input.Bound) ↔ ¬ input.Passes ∨ input.ManifestsSealed := by
  rw [replay_verified_iff]
  constructor
  · intro bound
    by_cases passes : input.Passes
    · exact .inr (bound passes).manifests
    · exact .inl passes
  · intro condition passes
    exact passes.bound (condition.resolve_left (not_not.mpr passes))

def sealedRoot (runId : String) (refs : List ArtifactRef) : EvidenceRoot where
  rootId := newIdPrefixed "root" 0
  runId
  incidentId := none
  algorithm := evidenceRootAlgorithm
  canonicalization := evidenceRootCanonicalization
  artifactCount := refs.length
  artifactRefs := refs
  rootHash := canonicalHash refs
  createdAt := sampleDraw.utcNowIso
  producer := "evidence_root"
  releaseRef := none

private theorem sealedRoot_verifies (runId : String) (refs : List ArtifactRef) :
    verifyEvidenceRoot (sealedRoot runId refs) = true := decide_eq_true rfl

def recordedLog (rootHash : String) : TransparencyLog :=
  (TransparencyLog.append {} (fun _ => none)
    { sampleCall "EVIDENCE_ROOT_CREATED" "root-1" with objectHash := rootHash } sampleDraw .written).2.1

private theorem recordedLog_verifies (rootHash : String) : (recordedLog rootHash).verifyChain.ok = true :=
  verifyChain_ok_iff.mpr ((Reachable.initial none).append _ _ _ _).honest.sound

private theorem recordedLog_events (rootHash : String) :
    defaultRequiredEventTypes ⊆ eventTypesSeen (recordedLog rootHash) "run-1" := by
  intro eventType required
  rw [Finset.mem_singleton.mp required, eventTypesSeen, List.mem_toFinset]
  exact List.mem_map.mpr ⟨_, List.mem_filter.mpr ⟨List.mem_cons_self, decide_eq_true rfl⟩, rfl⟩

/-- A replay of one artifact whose content and manifest were both replaced. -/
def substitutedReplay : ReplayInput :=
  let content := "tampered".toUTF8
  let root := sealedRoot "run-1" [{ artifactId := "artifact-1", sha256 := "00", objectRef := "store/1" }]
  { runId := "run-1"
    manifests := [some { artifactId := some "artifact-1", sha256 := some (Runtime.sha256 content), objectRef := some "store/1" }]
    root
    log := recordedLog root.rootHash
    artifactBytesById := [("artifact-1", content)]
    requiredEventTypes := defaultRequiredEventTypes }

omit [Runtime] in
theorem replay_of_substituted_content :
    letI := Runtime.transparent
    substitutedReplay.Verified ∧ ¬ substitutedReplay.Bound := by
  let _ := Runtime.transparent
  constructor
  · rw [replay_verified_iff]
    refine ⟨recordedLog_verifies _, sealedRoot_verifies _ _, ⟨_, rfl, rfl, ?_⟩, recordedLog_events _⟩
    intro item member
    rw [List.mem_singleton.mp member]
    exact ⟨_, rfl, rfl⟩
  · intro bound
    have hash := bound.manifests _ List.mem_cons_self _ ⟨List.mem_cons_self, rfl⟩
    exact absurd hash (by decide)

def Anchored (runId : String) (log : TransparencyLog) (root : EvidenceRoot) : Prop :=
  (∃ entry ∈ log.entries, entry.eventType = "EVIDENCE_ROOT_CREATED" ∧ entry.runId = runId ∧
    entry.objectHash = root.rootHash) ∧ root.runId = runId

/-- A verified replay is anchored exactly when a comparison fails or the log happens
to record the root: nothing ties the two. So over all roots the log protects a run
only when its replay cannot verify at all. -/
theorem replay_anchors_iff :
    (∀ input : ReplayInput, (input.Verified → Anchored input.runId input.log input.root) ↔
      ¬ input.Passes ∨ Anchored input.runId input.log input.root) ∧
    ∀ (runId : String) (log : TransparencyLog) (requiredEventTypes : Finset String),
      (∀ manifests root artifactBytesById,
        ReplayInput.Verified { runId, manifests, root, log, artifactBytesById, requiredEventTypes } →
          Anchored runId log root) ↔
        ¬ (log.verifyChain.ok = true ∧ requiredEventTypes ⊆ eventTypesSeen log runId) := by
  refine ⟨fun input => ?_, fun runId log requiredEventTypes => ⟨?_, ?_⟩⟩
  · rw [replay_verified_iff, imp_iff_not_or]
  · intro anchored ⟨chain, events⟩
    -- An empty root of another run passes for every run.
    have passes : ReplayInput.Passes
        { runId, manifests := [], root := sealedRoot (runId ++ "'") [], log, artifactBytesById := [], requiredEventTypes } :=
      ⟨chain, sealedRoot_verifies _ _, ⟨[], rfl, rfl, by simp⟩, events⟩
    have same := congrArg String.length (anchored _ _ _ (replay_verified_iff.mpr passes)).2
    simp [sealedRoot] at same
  · intro unverifiable manifests root artifactBytesById verified
    have passes := replay_verified_iff.mp verified
    exact absurd ⟨passes.chain, passes.events⟩ unverifiable

/-- A replay of a root that was rebuilt after the log had recorded an empty one. -/
def rebuiltReplay : ReplayInput :=
  { runId := "run-1"
    manifests := [some { artifactId := some "artifact-1", sha256 := some "00", objectRef := some "store/1" }]
    root := sealedRoot "run-1" [{ artifactId := "artifact-1", sha256 := "00", objectRef := "store/1" }]
    log := recordedLog (sealedRoot "run-1" []).rootHash
    artifactBytesById := []
    requiredEventTypes := defaultRequiredEventTypes }

omit [Runtime] in
theorem replay_of_rebuilt_root :
    letI := Runtime.transparent
    rebuiltReplay.Verified ∧ ¬ Anchored rebuiltReplay.runId rebuiltReplay.log rebuiltReplay.root := by
  let _ := Runtime.transparent
  constructor
  · rw [replay_verified_iff]
    exact ⟨recordedLog_verifies _, sealedRoot_verifies _ _, ⟨_, rfl, rfl, by simp [rebuiltReplay]⟩, recordedLog_events _⟩
  · rintro ⟨⟨entry, member, _, _, recorded⟩, _⟩
    rw [List.mem_singleton.mp member] at recorded
    exact absurd (canonicalHash_injective Runtime.transparent_collisionFree recorded) (by decide)

end ArgosCore.Proofs
