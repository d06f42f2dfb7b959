import ArgosCore.Proofs.FederationRuns

/-! What the stores guarantee over runs: which rejected artifacts leave a trace,
what two accepted artifacts of one identity share, and that revocation is final. -/

namespace ArgosCore.Proofs

section
variable [Runtime]

/-- The artifact comes from an unknown instance, from a domain that is not federated,
or with a hash that is not its payload's. -/
def RefusedAtOrigin (call : FederationCall) : Prop :=
  call.artifact.originInstance ∉ call.knownSourceInstances ∨
    call.remoteDomain.domainId ∉ call.localDomain.allowedFederation ∨
    verifyContentHash call.artifact = false

theorem refused_rejected {call : FederationCall} (refused : RefusedAtOrigin call) (state : FederationState) (draw : Draw) :
    (state.evaluate call draw).decision = .reject := by
  rcases refused with unknown | foreign | forged
  · apply reject_of_verdict "source_known"
    simp [expectedVerdicts, unknown]
  · have denied : (federationAllowed call.localDomain call.remoteDomain.domainId).1 = false := by
      rw [← Bool.not_eq_true, federationAllowed_iff]
      exact foreign
    apply reject_of_verdict "source_allowed"
    simp [expectedVerdicts, denied]
  · apply reject_of_verdict "hash_valid"
    simp [expectedVerdicts, forged]

/-- The id was in the ledger already, the later artifact has another one, or the
recorded hash answers for the later artifact as the first honest one would have. -/
def LeavesNoTrace (state : FederationState) (refused : FederationCall) (between : List FederationOp)
    (later : FederationCall) : Prop :=
  (state.ledger.seen.lookup refused.artifact.artifactId).isSome ∨
    later.artifact.artifactId ≠ refused.artifact.artifactId ∨
    ∀ first, (presented between ++ [(later.artifact.artifactId, later.artifact.contentHash)]).lookup
        refused.artifact.artifactId = some first →
      (later.artifact.contentHash = refused.artifact.contentHash ↔ later.artifact.contentHash = first)

theorem run_step_isRevoked (state : FederationState) (call : FederationCall) (draw : Draw) (ops : List FederationOp)
    (artifactId : String) :
    ((state.step (.evaluate call draw)).run ops).registry.isRevoked artifactId =
      (state.run ops).registry.isRevoked artifactId := by
  rw [Bool.eq_iff_iff, run_isRevoked, run_isRevoked]
  rfl

/-- A refused artifact has already claimed its id; the exact condition under which a
later decision does not notice. -/
theorem refused_leaves_no_trace_iff (state : FederationState) (refused later : FederationCall) (first second : Draw)
    (between : List FederationOp) (atOrigin : RefusedAtOrigin refused) :
    (state.evaluate refused first).decision = .reject ∧
      (((state.step (.evaluate refused first)).run between).evaluate later second =
          (state.run between).evaluate later second ↔
        LeavesNoTrace state refused between later) := by
  refine ⟨refused_rejected atOrigin state first, ?_⟩
  rw [evaluate_eq_iff second (run_step_isRevoked state refused first between _), run_seen, run_seen, step_evaluate_seen]
  exact Dict.conflicts_claim_iff state.ledger.seen refused.artifact.artifactId later.artifact.artifactId
    refused.artifact.contentHash later.artifact.contentHash (presented between)

end

/-! The inputs of the runs that show what goes wrong. -/

def homeDomain : SecurityDomain where
  tenantId := "tenant"
  domainId := "home"
  classification := "restricted"
  allowedFederation := {"peer"}
  allowedDestinations := ∅
  real := by decide

def peerDomain : SecurityDomain where
  tenantId := "tenant"
  domainId := "peer"
  classification := "restricted"
  allowedFederation := ∅
  allowedDestinations := {"home"}
  real := by decide

def peerArtifact [Runtime] : FederatedArtifact where
  artifactId := "fedart-1"
  artifactType := "IOC"
  originInstance := "peer-instance"
  originDomain := "peer"
  originTenant := "tenant"
  originClassification := "restricted"
  originTrust := "EXTERNAL"
  sourceRefs := ["alert-1"]
  payload := [("indicator", .str "198.51.100.7")]
  contentHash := contentHashOf [("indicator", .str "198.51.100.7")]
  schemaVersion := "1.0.0"
  createdAt := "2026-01-01T00:00:00+00:00"
  validFrom := "2026-01-01T00:00:00+00:00"
  validUntil := some "2026-02-01T00:00:00+00:00"
  handling := "standard"
  exportability := "restricted"
  provenance := []
  evidenceRef := none
  parentArtifact := none

def peerCall [Runtime] : FederationCall where
  artifact := peerArtifact
  localDomain := homeDomain
  remoteDomain := peerDomain
  knownSourceInstances := {"peer-instance"}
  evidenceResolvable := some true
  now := some "2026-01-15T00:00:00+00:00"

/-- The same id from an instance nobody knows, with a hash of its own. -/
def hostileCall [Runtime] : FederationCall :=
  { peerCall with artifact := { peerArtifact with originInstance := "stranger", contentHash := "forged" } }

def someDraw : Draw := { now := 0, uuid := 0 }

theorem peerCall_acceptable [Runtime] : Acceptable peerCall "2026-01-15T00:00:00+00:00" where
  hash := decide_eq_true rfl
  provenance := .inr (by simp [peerCall, peerArtifact])
  source := by simp [peerCall, peerArtifact]
  federated := by simp [peerCall, peerDomain, homeDomain]
  classification := by simp [peerCall, peerArtifact, classificationLevels]
  transfer := by simp [peerCall, peerDomain, homeDomain]
  fresh := by
    have inTime : ¬ "2026-02-01T00:00:00+00:00" < "2026-01-15T00:00:00+00:00" := by
      rw [String.lt_iff_toList_lt]
      decide
    exact decide_eq_false inTime
  trust := by simp [peerCall, peerArtifact]
  evidence := rfl
  settled := .inr rfl

theorem hostileCall_refused [Runtime] : RefusedAtOrigin hostileCall := by
  left
  simp [hostileCall, peerCall]

theorem refused_leaves_no_trace_peer :
    letI := Runtime.transparent
    RefusedAtOrigin hostileCall ∧
      ((FederationState.evaluate {} hostileCall someDraw).decision = .reject ∧
        (((FederationState.step {} (.evaluate hostileCall someDraw)).run []).evaluate peerCall someDraw =
            (FederationState.run {} []).evaluate peerCall someDraw ↔
          LeavesNoTrace {} hostileCall [] peerCall)) :=
  letI := Runtime.transparent
  ⟨hostileCall_refused, refused_leaves_no_trace_iff {} hostileCall peerCall someDraw someDraw [] hostileCall_refused⟩

/-- A hostile artifact occupies the id: the honest one that owns it is then rejected. -/
theorem hostile_artifact_poisons :
    letI := Runtime.transparent
    RefusedAtOrigin hostileCall ∧ (FederationState.evaluate {} hostileCall someDraw).decision = .reject ∧
      (FederationState.evaluate {} peerCall someDraw).decision = .accept ∧
      ((FederationState.step {} (.evaluate hostileCall someDraw)).evaluate peerCall someDraw).decision = .reject := by
  let _ := Runtime.transparent
  refine ⟨hostileCall_refused, refused_rejected hostileCall_refused _ _, ?_, ?_⟩
  · rw [accept_iff]
    exact ⟨peerCall_acceptable, rfl, by simp [Dict.Conflicts]⟩
  · apply reject_of_conflict
    rw [step_evaluate_seen]
    refine ⟨"forged", rfl, ?_⟩
    intro same
    have letters := congrArg String.toList same
    simp [peerCall, peerArtifact, contentHashOf, hashJson, hashText] at letters

section
variable [Runtime]

theorem conflicts_after_accept {state : FederationState} {accepted later : FederationCall} {draw : Draw}
    (decided : (state.evaluate accepted draw).decision = .accept)
    (same : later.artifact.artifactId = accepted.artifact.artifactId) (between : List FederationOp) :
    ((state.step (.evaluate accepted draw)).run between).ledger.seen.Conflicts
        later.artifact.artifactId later.artifact.contentHash ↔
      later.artifact.contentHash ≠ accepted.artifact.contentHash := by
  have agrees := ((accept_iff state accepted draw).mp decided).2.2
  rw [Dict.conflicts_iff_claim, not_not] at agrees
  have recorded := Dict.claims_keeps agrees (presented between)
  rw [run_seen, step_evaluate_seen, same, Dict.Conflicts, recorded]
  simp [eq_comm]

/-- Equal but for the identifier and the time that every decision gets anew. -/
def SameDecision (left right : FederationDecision) : Prop :=
  { left with decisionId := right.decisionId, decisionTime := right.decisionTime } = right

theorem evaluate_again {state : FederationState} {call : FederationCall} {first second : Draw}
    {between : List FederationOp}
    (unrevoked : ∀ revokedAt reason, FederationOp.revoke call.artifact.artifactId revokedAt reason ∉ between)
    (sameSide : expired call.artifact (call.effectiveNow first) = expired call.artifact (call.effectiveNow second)) :
    SameDecision (state.evaluate call first)
      (((state.step (.evaluate call first)).run between).evaluate call second) := by
  have revoked : ((state.step (.evaluate call first)).run between).registry.isRevoked call.artifact.artifactId =
      state.registry.isRevoked call.artifact.artifactId := by
    rw [run_step_isRevoked, Bool.eq_iff_iff, run_isRevoked]
    constructor
    · intro found
      apply found.resolve_right
      intro ⟨revokedAt, reason, inside⟩
      exact unrevoked revokedAt reason inside
    · exact .inl
  have conflicting := Dict.conflicts_claims_claim state.ledger.seen call.artifact.artifactId
    call.artifact.contentHash (presented between)
  obtain ⟨left, leftVerdicts, leftDecision⟩ := evaluate_eq state call first
  obtain ⟨right, rightVerdicts, rightDecision⟩ :=
    evaluate_eq ((state.step (.evaluate call first)).run between) call second
  have verdictsAgree : verdicts left = verdicts right := by
    rw [leftVerdicts, rightVerdicts, revoked]
    simp only [run_seen, step_evaluate_seen, conflicting, expectedVerdicts, sameSide]
  rw [leftDecision, rightDecision, concludeFederation_congr verdictsAgree]
  rfl

omit [Runtime] in
theorem effectiveNow_given {call : FederationCall} {now : String} (given : call.now = some now) (real : now ≠ "")
    (draw : Draw) : call.effectiveNow draw = now := by
  rw [FederationCall.effectiveNow, orDefault, given, Option.filter_some, if_pos (by simpa using real), Option.getD_some]

theorem federation_run_safety (state : FederationState) :
    (∀ (first second : FederationCall) (one other : Draw) (between : List FederationOp),
        first.artifact.artifactId = second.artifact.artifactId →
        (state.evaluate first one).decision = .accept →
        (((state.step (.evaluate first one)).run between).evaluate second other).decision = .accept →
        first.artifact.contentHash = second.artifact.contentHash ∧
          (CollisionFree → (Json.obj first.artifact.payload).Distinct → (Json.obj second.artifact.payload).Distinct →
            (Json.obj first.artifact.payload).sortKeys = (Json.obj second.artifact.payload).sortKeys)) ∧
      (∀ (call : FederationCall) (draw : Draw) (revokedAt reason : String) (between : List FederationOp),
        (((state.step (.revoke call.artifact.artifactId revokedAt reason)).run between).evaluate call draw).decision ≠
          .accept) ∧
      (∀ (call : FederationCall) (first second : Draw) (between : List FederationOp),
        (∀ revokedAt reason, FederationOp.revoke call.artifact.artifactId revokedAt reason ∉ between) →
        (∃ now, call.now = some now ∧ now ≠ "") ∨
            expired call.artifact (call.effectiveNow first) = expired call.artifact (call.effectiveNow second) →
        SameDecision (state.evaluate call first)
          (((state.step (.evaluate call first)).run between).evaluate call second)) := by
  refine ⟨?_, ?_, ?_⟩
  · intro first second one other between same firstAccepted secondAccepted
    have secondConditions := (accept_iff _ second other).mp secondAccepted
    have hashes : second.artifact.contentHash = first.artifact.contentHash := by
      have agrees := secondConditions.2.2
      rwa [conflicts_after_accept firstAccepted same.symm, not_not] at agrees
    refine ⟨hashes.symm, ?_⟩
    intro free firstDistinct secondDistinct
    have firstHash := of_decide_eq_true ((accept_iff _ first one).mp firstAccepted).1.hash
    have secondHash := of_decide_eq_true secondConditions.1.hash
    exact free.hashJson firstDistinct secondDistinct (firstHash.trans (hashes.symm.trans secondHash.symm))
  · intro call draw revokedAt reason between accepted
    have clean := ((accept_iff _ call draw).mp accepted).2.1
    have revoked := (run_isRevoked (state.step (.revoke call.artifact.artifactId revokedAt reason)) between
      call.artifact.artifactId).mpr (.inl (by simp [FederationState.step]))
    rw [clean] at revoked
    exact Bool.false_ne_true revoked
  · intro call first second between unrevoked times
    apply evaluate_again unrevoked
    rcases times with ⟨now, given, real⟩ | sameSide
    · rw [effectiveNow_given given real, effectiveNow_given given real]
    · exact sameSide

end

/-- No time is given and the artifact expires at the clock reading of `someDraw`. -/
def clockCall [Runtime] : FederationCall :=
  { peerCall with
    artifact := { peerArtifact with validUntil := some someDraw.utcNowIso }
    now := none }

/-- Without a given time the clock decides: the same call passes its expiry between two evaluations. -/
theorem repeated_evaluation_expires :
    letI := Runtime.transparent
    let later : Draw := { someDraw with now := 1000000 }
    (FederationState.evaluate {} clockCall someDraw).decision = .accept ∧
      ((FederationState.step {} (.evaluate clockCall someDraw)).evaluate clockCall later).decision = .reject := by
  let _ := Runtime.transparent
  intro later
  constructor
  · have inTime : ¬ someDraw.utcNowIso < someDraw.utcNowIso := lt_irrefl _
    rw [accept_iff]
    exact ⟨{ peerCall_acceptable with fresh := decide_eq_false inTime }, rfl, by simp [Dict.Conflicts]⟩
  · have passed : someDraw.utcNowIso < later.utcNowIso := by
      rw [String.lt_iff_toList_lt]
      decide
    have stale : expired clockCall.artifact (clockCall.effectiveNow later) = true := by
      change (some someDraw.utcNowIso).any (· < later.utcNowIso) = true
      rw [Option.any_some, decide_eq_true passed]
    apply reject_of_verdict "fresh_enough"
    simp [expectedVerdicts, stale]

section
variable [Runtime]

/-- The ledger binds the content of an identity, and only the content: after an
accepted artifact, another one of its id is judged by its own labels. -/
theorem accepted_identity_binds_content (state : FederationState) (known : FederationCall) (draw : Draw)
    (between : List FederationOp) (accepted : (state.evaluate known draw).decision = .accept) :
    ∀ (again : FederationCall) (other : Draw), again.artifact.artifactId = known.artifact.artifactId →
      let later := (state.step (.evaluate known draw)).run between
      ((later.evaluate again other).decision = .accept ↔
          again.artifact.contentHash = known.artifact.contentHash ∧
            Acceptable again (again.effectiveNow other) ∧
            later.registry.isRevoked again.artifact.artifactId = false) ∧
        ((later.evaluate again other).decision = .accept → CollisionFree →
          (Json.obj known.artifact.payload).Distinct → (Json.obj again.artifact.payload).Distinct →
          (Json.obj known.artifact.payload).sortKeys = (Json.obj again.artifact.payload).sortKeys) := by
  intro again other same later
  have decided : (later.evaluate again other).decision = .accept ↔
      again.artifact.contentHash = known.artifact.contentHash ∧
        Acceptable again (again.effectiveNow other) ∧
        later.registry.isRevoked again.artifact.artifactId = false := by
    rw [accept_iff, conflicts_after_accept accepted same, not_not]
    tauto
  refine ⟨decided, ?_⟩
  intro againAccepted free knownDistinct againDistinct
  obtain ⟨hashes, conditions, _⟩ := decided.mp againAccepted
  have knownHash := of_decide_eq_true ((accept_iff _ known draw).mp accepted).1.hash
  have againHash := of_decide_eq_true conditions.hash
  exact free.hashJson knownDistinct againDistinct (knownHash.trans (hashes.symm.trans againHash.symm))

end

def relabelledCall [Runtime] : FederationCall :=
  { peerCall with
    artifact := { peerArtifact with
      originDomain := "elsewhere"
      originClassification := "internal"
      originTrust := "TRUSTED"
      validUntil := some "2099-01-01T00:00:00+00:00" } }

theorem relabelledCall_acceptable [Runtime] : Acceptable relabelledCall "2026-01-15T00:00:00+00:00" :=
  { peerCall_acceptable with
    classification := by simp [relabelledCall, classificationLevels]
    fresh := by
      have inTime : ¬ "2099-01-01T00:00:00+00:00" < "2026-01-15T00:00:00+00:00" := by
        rw [String.lt_iff_toList_lt]
        decide
      exact decide_eq_false inTime
    trust := by simp [relabelledCall] }

theorem peerCall_accepted [Runtime] : (FederationState.evaluate {} peerCall someDraw).decision = .accept := by
  rw [accept_iff]
  exact ⟨peerCall_acceptable, rfl, by simp [Dict.Conflicts]⟩

theorem accepted_identity_binds_content_peer :
    letI := Runtime.transparent
    (FederationState.evaluate {} peerCall someDraw).decision = .accept ∧
      ∀ (again : FederationCall) (other : Draw), again.artifact.artifactId = peerCall.artifact.artifactId →
        let later := (FederationState.step {} (.evaluate peerCall someDraw)).run []
        ((later.evaluate again other).decision = .accept ↔
            again.artifact.contentHash = peerCall.artifact.contentHash ∧
              Acceptable again (again.effectiveNow other) ∧
              later.registry.isRevoked again.artifact.artifactId = false) ∧
          ((later.evaluate again other).decision = .accept → CollisionFree →
            (Json.obj peerCall.artifact.payload).Distinct → (Json.obj again.artifact.payload).Distinct →
            (Json.obj peerCall.artifact.payload).sortKeys = (Json.obj again.artifact.payload).sortKeys) :=
  letI := Runtime.transparent
  ⟨peerCall_accepted, accepted_identity_binds_content {} peerCall someDraw [] peerCall_accepted⟩

/-- Both presentations are accepted, though origin, classification, trust and expiry differ. -/
theorem relabelled_artifact_accepted :
    letI := Runtime.transparent
    relabelledCall.artifact.artifactId = peerCall.artifact.artifactId ∧
      (FederationState.evaluate {} peerCall someDraw).decision = .accept ∧
      ((FederationState.step {} (.evaluate peerCall someDraw)).evaluate relabelledCall someDraw).decision = .accept ∧
      relabelledCall.artifact.originDomain ≠ peerCall.artifact.originDomain ∧
      relabelledCall.artifact.originClassification ≠ peerCall.artifact.originClassification ∧
      relabelledCall.artifact.originTrust ≠ peerCall.artifact.originTrust ∧
      relabelledCall.artifact.validUntil ≠ peerCall.artifact.validUntil := by
  let _ := Runtime.transparent
  refine ⟨rfl, peerCall_accepted, ?_, by simp [relabelledCall, peerCall, peerArtifact],
    by simp [relabelledCall, peerCall, peerArtifact], by simp [relabelledCall, peerCall, peerArtifact],
    by simp [relabelledCall, peerCall, peerArtifact]⟩
  rw [accept_iff, step_evaluate_seen]
  refine ⟨relabelledCall_acceptable, rfl, ?_⟩
  rw [Dict.conflicts_iff_claim, not_not]
  rfl

end ArgosCore.Proofs
