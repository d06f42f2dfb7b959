import ArgosCore.Federation.Decision

/-! Runs over a shared ledger and a shared registry. A decision reads two answers of
the stores, the ledger is a write-once dictionary, and the registry only grows. -/

namespace ArgosCore.Proofs

section
variable [Runtime]

def verdicts (dimensions : List TrustDimension) : List (String × Option Bool) :=
  dimensions.map fun dimension => (dimension.name, dimension.passed)

omit [Runtime] in
theorem violated_eq_verdicts (dimensions : List TrustDimension) :
    violated dimensions = ((verdicts dimensions).filter fun verdict => verdict.2 = some false).map Prod.fst := by
  simp [violated, verdicts, List.filter_map, Function.comp_def]

omit [Runtime] in
theorem notEvaluated_eq_verdicts (dimensions : List TrustDimension) :
    notEvaluated dimensions = ((verdicts dimensions).filter fun verdict => verdict.2 = none).map Prod.fst := by
  simp [notEvaluated, verdicts, List.filter_map, Function.comp_def]

omit [Runtime] in
theorem dimensionPassed_eq_verdicts (dimensions : List TrustDimension) (name : String) :
    dimensionPassed dimensions name =
      (verdicts dimensions).any fun verdict => verdict.1 = name && verdict.2 = some true := by
  simp [dimensionPassed, verdicts, List.any_map, Function.comp_def]

omit [Runtime] in
theorem concludeFederation_congr {left right : List TrustDimension} (same : verdicts left = verdicts right)
    (call : FederationCall) (draw : Draw) :
    concludeFederation call draw left = concludeFederation call draw right := by
  simp only [concludeFederation, violated_eq_verdicts, notEvaluated_eq_verdicts, dimensionPassed_eq_verdicts, same]

theorem checkAndRecord_error_iff (ledger : FederationLedger) (artifactId contentHash : String) :
    (∃ conflict, ledger.checkAndRecord artifactId contentHash = .error conflict) ↔
      ledger.seen.Conflicts artifactId contentHash := by
  rw [FederationLedger.checkAndRecord, Dict.Conflicts]
  cases ledger.seen.lookup artifactId with
  | none => simp
  | some existing => by_cases same : existing = contentHash <;> simp [same]

theorem checkAndRecord_ok {ledger recorded : FederationLedger} {artifactId contentHash : String}
    (checked : ledger.checkAndRecord artifactId contentHash = .ok recorded) :
    recorded.seen = ledger.seen.claim artifactId contentHash := by
  rw [FederationLedger.checkAndRecord] at checked
  rw [Dict.claim]
  cases found : ledger.seen.lookup artifactId with
  | none =>
    simp only [found, Except.ok.injEq] at checked
    simp [← checked]
  | some existing =>
    simp only [found] at checked
    split_ifs at checked
    simp [Except.ok.inj checked]

/-- The verdicts of the twelve dimensions, of which two come from the stores. -/
def expectedVerdicts (call : FederationCall) (now : String) (revoked conflicting : Bool) : List (String × Option Bool) :=
  let artifact := call.artifact
  [("schema_valid", some true),
    ("hash_valid", some (verifyContentHash artifact)),
    ("provenance_present", some (!artifact.provenance.isEmpty || !artifact.sourceRefs.isEmpty)),
    ("source_known", some (decide (artifact.originInstance ∈ call.knownSourceInstances))),
    ("source_allowed", some (federationAllowed call.localDomain call.remoteDomain.domainId).1),
    ("classification_compatible",
      some (["internal", "confidential", "restricted"].contains artifact.originClassification)),
    ("domain_transfer_allowed", some (transferAllowed call.remoteDomain call.localDomain).1),
    ("fresh_enough", some (!expired artifact now)),
    ("not_revoked", some (!revoked)),
    ("not_authoritative_by_default", some (decide (artifact.originTrust ≠ "AUTHORITATIVE"))),
    ("no_replay_conflict", some (!conflicting)),
    ("evidence_resolvable", call.evidenceResolvable)]

theorem evaluateDimensions_spec (call : FederationCall) (registry : RevocationRegistry) (ledger : FederationLedger)
    (now : String) :
    verdicts (evaluateDimensions call registry ledger now).1 =
        expectedVerdicts call now (registry.isRevoked call.artifact.artifactId)
          (decide (ledger.seen.Conflicts call.artifact.artifactId call.artifact.contentHash)) ∧
      (evaluateDimensions call registry ledger now).2.seen =
        ledger.seen.claim call.artifact.artifactId call.artifact.contentHash := by
  have conflicting := checkAndRecord_error_iff ledger call.artifact.artifactId call.artifact.contentHash
  rw [evaluateDimensions]
  cases checked : ledger.checkAndRecord call.artifact.artifactId call.artifact.contentHash with
  | ok recorded =>
    have agrees : ¬ ledger.seen.Conflicts call.artifact.artifactId call.artifact.contentHash := by
      rw [← conflicting, checked]
      simp
    exact ⟨by simp [verdicts, expectedVerdicts, agrees], checkAndRecord_ok checked⟩
  | error conflict =>
    have clash := conflicting.mp ⟨conflict, checked⟩
    refine ⟨by simp [verdicts, expectedVerdicts, clash], ?_⟩
    obtain ⟨existing, found, _⟩ := clash
    simp [Dict.claim, found]

theorem evaluate_eq (state : FederationState) (call : FederationCall) (draw : Draw) :
    ∃ dimensions,
      verdicts dimensions = expectedVerdicts call (call.effectiveNow draw)
          (state.registry.isRevoked call.artifact.artifactId)
          (state.ledger.seen.Conflicts call.artifact.artifactId call.artifact.contentHash) ∧
        state.evaluate call draw = concludeFederation call draw dimensions :=
  ⟨_, (evaluateDimensions_spec call state.registry state.ledger _).1, rfl⟩

theorem evaluate_congr {left right : FederationState} {call : FederationCall} (draw : Draw)
    (revoked : left.registry.isRevoked call.artifact.artifactId = right.registry.isRevoked call.artifact.artifactId)
    (conflicting : left.ledger.seen.Conflicts call.artifact.artifactId call.artifact.contentHash ↔
      right.ledger.seen.Conflicts call.artifact.artifactId call.artifact.contentHash) :
    left.evaluate call draw = right.evaluate call draw := by
  obtain ⟨first, firstVerdicts, firstDecision⟩ := evaluate_eq left call draw
  obtain ⟨second, secondVerdicts, secondDecision⟩ := evaluate_eq right call draw
  rw [firstDecision, secondDecision]
  apply concludeFederation_congr
  rw [firstVerdicts, secondVerdicts, revoked]
  simp only [conflicting]

/-- The conditions under which an artifact is accepted whatever the stores hold. -/
structure Acceptable (call : FederationCall) (now : String) : Prop where
  hash : verifyContentHash call.artifact = true
  provenance : call.artifact.provenance ≠ [] ∨ call.artifact.sourceRefs ≠ []
  source : call.artifact.originInstance ∈ call.knownSourceInstances
  federated : call.remoteDomain.domainId ∈ call.localDomain.allowedFederation
  classification : call.artifact.originClassification ∈ classificationLevels
  transfer : (transferAllowed call.remoteDomain call.localDomain).1 = true
  fresh : expired call.artifact now = false
  trust : call.artifact.originTrust ≠ "AUTHORITATIVE"
  evidence : call.evidenceResolvable = some true
  settled : call.conflictState = .consistent ∨ call.conflictState = .unknown

omit [Runtime] in
theorem concludeFederation_accept_iff (call : FederationCall) (draw : Draw) (dimensions : List TrustDimension) :
    (concludeFederation call draw dimensions).decision = .accept ↔
      (∀ verdict ∈ verdicts dimensions, verdict.2 = some true) ∧
        (call.conflictState = .consistent ∨ call.conflictState = .unknown) := by
  have passed : (∀ verdict ∈ verdicts dimensions, verdict.2 = some true) ↔
      ∀ dimension ∈ dimensions, dimension.passed = some true := by
    simp [verdicts]
  rw [passed, ← all_passed_iff, concludeFederation]
  cases call.conflictState <;> simp <;> split_ifs <;> simp [*]

omit [Runtime] in
theorem concludeFederation_reject_iff (call : FederationCall) (draw : Draw) (dimensions : List TrustDimension) :
    (concludeFederation call draw dimensions).decision = .reject ↔ violated dimensions ≠ [] := by
  change (if violated dimensions ≠ [] then FederationOutcome.reject else _) = .reject ↔ _
  split_ifs <;> simp [*]

theorem reject_of_verdict (name : String) {state : FederationState} {call : FederationCall} {draw : Draw}
    (failed : (name, some false) ∈ expectedVerdicts call (call.effectiveNow draw)
      (state.registry.isRevoked call.artifact.artifactId)
      (state.ledger.seen.Conflicts call.artifact.artifactId call.artifact.contentHash)) :
    (state.evaluate call draw).decision = .reject := by
  obtain ⟨dimensions, expected, decided⟩ := evaluate_eq state call draw
  rw [decided, concludeFederation_reject_iff, violated_eq_verdicts, expected]
  exact List.ne_nil_of_mem (List.mem_map_of_mem (List.mem_filter.mpr ⟨failed, rfl⟩))

theorem reject_of_conflict {state : FederationState} {call : FederationCall} (draw : Draw)
    (clash : state.ledger.seen.Conflicts call.artifact.artifactId call.artifact.contentHash) :
    (state.evaluate call draw).decision = .reject := by
  apply reject_of_verdict "no_replay_conflict"
  simp [expectedVerdicts, clash]

/-- A conflict is one more violation, whatever the others are. -/
theorem violated_conflict {call : FederationCall} {now : String} {revoked : Bool} {first second : List TrustDimension}
    (clash : verdicts first = expectedVerdicts call now revoked true)
    (agrees : verdicts second = expectedVerdicts call now revoked false) :
    (violated first).length = (violated second).length + 1 := by
  obtain ⟨front, back, split⟩ : ∃ front back, ∀ conflicting, expectedVerdicts call now revoked conflicting =
      front ++ ("no_replay_conflict", some (!conflicting)) :: back :=
    ⟨(expectedVerdicts call now revoked false).take 10, (expectedVerdicts call now revoked false).drop 11, fun _ => rfl⟩
  rw [violated_eq_verdicts, violated_eq_verdicts, clash, agrees, split, split, List.length_map, List.length_map,
    List.filter_append, List.filter_append, List.filter_cons_of_pos (by simp), List.filter_cons_of_neg (by simp),
    List.length_append, List.length_append, List.length_cons]
  omega

theorem evaluate_eq_iff {left right : FederationState} {call : FederationCall} (draw : Draw)
    (revoked : left.registry.isRevoked call.artifact.artifactId = right.registry.isRevoked call.artifact.artifactId) :
    left.evaluate call draw = right.evaluate call draw ↔
      (left.ledger.seen.Conflicts call.artifact.artifactId call.artifact.contentHash ↔
        right.ledger.seen.Conflicts call.artifact.artifactId call.artifact.contentHash) := by
  refine ⟨?_, evaluate_congr draw revoked⟩
  have impossible {one other : FederationState}
      (same : one.registry.isRevoked call.artifact.artifactId = other.registry.isRevoked call.artifact.artifactId)
      (decided : one.evaluate call draw = other.evaluate call draw)
      (clash : one.ledger.seen.Conflicts call.artifact.artifactId call.artifact.contentHash)
      (agrees : ¬ other.ledger.seen.Conflicts call.artifact.artifactId call.artifact.contentHash) : False := by
    have rejected := reject_of_conflict draw clash
    obtain ⟨first, firstVerdicts, firstDecision⟩ := evaluate_eq one call draw
    obtain ⟨second, secondVerdicts, secondDecision⟩ := evaluate_eq other call draw
    simp only [clash, decide_true] at firstVerdicts
    simp only [agrees, decide_false, ← same] at secondVerdicts
    have longer := violated_conflict firstVerdicts secondVerdicts
    rw [firstDecision, secondDecision] at decided
    rw [firstDecision] at rejected
    have firstViolated := (concludeFederation_reject_iff call draw first).mp rejected
    have secondViolated := (concludeFederation_reject_iff call draw second).mp (decided ▸ rejected)
    have codes := congrArg (fun decision => decision.reasonCodes.length) decided
    simp [concludeFederation, firstViolated, secondViolated] at codes
    omega
  intro decided
  constructor
  · intro clash
    by_contra agrees
    exact impossible revoked decided clash agrees
  · intro clash
    by_contra agrees
    exact impossible revoked.symm decided.symm clash agrees

/-- The specification of a decision: its own conditions, no revocation, no conflict. -/
theorem accept_iff (state : FederationState) (call : FederationCall) (draw : Draw) :
    (state.evaluate call draw).decision = .accept ↔
      Acceptable call (call.effectiveNow draw) ∧
        state.registry.isRevoked call.artifact.artifactId = false ∧
        ¬ state.ledger.seen.Conflicts call.artifact.artifactId call.artifact.contentHash := by
  obtain ⟨dimensions, expected, decided⟩ := evaluate_eq state call draw
  rw [decided, concludeFederation_accept_iff, expected]
  simp only [expectedVerdicts, List.forall_mem_cons, Option.some.injEq]
  constructor
  · intro ⟨⟨_, hash, provenance, source, federated, classification, transfer, fresh, revoked, trust, clash, evidence, _⟩,
      settled⟩
    refine ⟨?_, by simpa using revoked, by simpa using clash⟩
    exact {
      hash
      provenance := by simpa using provenance
      source := of_decide_eq_true source
      federated := (federationAllowed_iff _ _).mp federated
      classification := by simpa [classificationLevels] using classification
      transfer
      fresh := by simpa using fresh
      trust := of_decide_eq_true trust
      evidence
      settled }
  · intro ⟨acceptable, revoked, clash⟩
    have provenance : (!call.artifact.provenance.isEmpty || !call.artifact.sourceRefs.isEmpty) = true := by
      simpa using acceptable.provenance
    have federated := (federationAllowed_iff call.localDomain call.remoteDomain.domainId).mpr acceptable.federated
    have classification : ["internal", "confidential", "restricted"].contains call.artifact.originClassification = true := by
      simpa [classificationLevels] using acceptable.classification
    refine ⟨⟨trivial, acceptable.hash, provenance, decide_eq_true acceptable.source, federated, classification,
      acceptable.transfer, ?_, ?_, decide_eq_true acceptable.trust, ?_, acceptable.evidence, by simp⟩, acceptable.settled⟩
    · simp [acceptable.fresh]
    · simp [revoked]
    · simp [clash]

def presented : List FederationOp → List (String × String)
  | [] => []
  | .evaluate call _ :: ops => (call.artifact.artifactId, call.artifact.contentHash) :: presented ops
  | .revoke _ _ _ :: ops => presented ops

theorem step_evaluate_seen (state : FederationState) (call : FederationCall) (draw : Draw) :
    (state.step (.evaluate call draw)).ledger.seen =
      state.ledger.seen.claim call.artifact.artifactId call.artifact.contentHash :=
  (evaluateDimensions_spec call state.registry state.ledger (call.effectiveNow draw)).2

theorem run_seen (state : FederationState) (ops : List FederationOp) :
    (state.run ops).ledger.seen = state.ledger.seen.claims (presented ops) := by
  induction ops generalizing state with
  | nil => rfl
  | cons op ops ih =>
    change ((state.step op).run ops).ledger.seen = _
    rw [ih]
    cases op with
    | evaluate call draw => rw [step_evaluate_seen, presented, Dict.claims_cons]
    | revoke artifactId revokedAt reason => rfl

theorem run_isRevoked (state : FederationState) (ops : List FederationOp) (artifactId : String) :
    (state.run ops).registry.isRevoked artifactId = true ↔
      state.registry.isRevoked artifactId = true ∨
        ∃ revokedAt reason, FederationOp.revoke artifactId revokedAt reason ∈ ops := by
  induction ops generalizing state with
  | nil => simp [FederationState.run]
  | cons op ops ih =>
    change ((state.step op).run ops).registry.isRevoked artifactId = true ↔ _
    rw [ih]
    cases op with
    | evaluate call draw => simp [FederationState.step]
    | revoke other revokedAt reason =>
      by_cases same : artifactId = other
      · subst same
        simp only [FederationState.step, RevocationRegistry.isRevoked_revoke, decide_true, Bool.true_or, true_or, true_iff]
        exact .inr ⟨revokedAt, reason, List.mem_cons_self⟩
      · simp [FederationState.step, same]

end

end ArgosCore.Proofs
