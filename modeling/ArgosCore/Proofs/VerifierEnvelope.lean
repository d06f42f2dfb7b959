import ArgosCore.Proofs.VerifierFacts
import ArgosCore.SafetyKernel

/-! Which envelopes the verifier can accept. It reads eight fields of an envelope,
and neither its hash nor its end of validity is among them. -/

namespace ArgosCore.Proofs
open IndependentVerifier SafetyKernel

def verifierFields : List String :=
  ["incident_ref", "rollback_ref", "required_runbook", "evidence_root", "target_set", "verification_predicates",
    "max_blast_radius", "mission_bounds"]

structure Verifiable (envelope : Json.Object) : Prop where
  tool : ∃ toolName, Json.get envelope "rollback_ref" = .str ("rollback/" ++ toolName) ∧
    Json.get envelope "required_runbook" = .str ("runbooks/" ++ toolName ++ ".md")
  target : ∃ target, (Json.getOr envelope "target_set" (.arr [])).contains? target = some true
  predicates : (Json.get envelope "verification_predicates").truthy = true ∧
    ∃ count, (Json.getOr envelope "verification_predicates" (.arr [])).length? = some count
  limit : ∃ limit, (Json.get envelope "max_blast_radius").number? = some limit
  mission : ∃ bounds, Json.get envelope "mission_bounds" = .obj bounds

def NeverVerified [Runtime] (envelope : Json.Object) : Prop :=
  ∀ inp : VerificationCheckInput, inp.envelope = envelope → ¬ Verified inp

theorem referencesResolve_iff {inp : VerificationCheckInput} :
    referencesResolve inp = true ↔
      (Json.get inp.envelope "incident_ref").equals (Json.get inp.incident "incident_id") = true ∧
        Json.get inp.envelope "rollback_ref" = .str ("rollback/" ++ inp.toolName) ∧
        Json.get inp.envelope "required_runbook" = .str ("runbooks/" ++ inp.toolName ++ ".md") := by
  rw [referencesResolve, Bool.and_eq_true, Bool.and_eq_true, Json.equals_str, Json.equals_str, and_assoc]

def favourable (envelope : Json.Object) (toolName target : String) (limit : Int) : VerificationCheckInput where
  envelope
  incident := [("incident_id", Json.get envelope "incident_ref"), ("evidence_refs", .arr [.str "alert-1"])]
  toolName
  target
  targetAllowlist := {target}
  targetConfirmedLive := some true
  runbookExists := some true
  rollbackDryRunOk := some true
  observedBlastRadiusCount := some limit
  freshMissionBlastRadius := some "NONE"
  unresolvedSemanticConflicts := some false

variable [Runtime]

theorem verifiable_iff {envelope : Json.Object} :
    Verifiable envelope ↔ ∃ inp : VerificationCheckInput, inp.envelope = envelope ∧ Verified inp := by
  constructor
  · intro verifiable
    obtain ⟨toolName, rollback, runbook⟩ := verifiable.tool
    obtain ⟨target, named⟩ := verifiable.target
    obtain ⟨limit, declared⟩ := verifiable.limit
    refine ⟨favourable envelope toolName target limit, rfl, verified_iff.mpr ⟨?_, fun fresh supplied => by cases supplied⟩⟩
    exact {
      references := referencesResolve_iff.mpr ⟨Json.equals_refl _, rollback, runbook⟩
      facts := rfl
      evidence := ⟨1, rfl⟩
      live := rfl
      runbook := rfl
      preconditions := ⟨Finset.mem_singleton_self _, named⟩
      predicates := verifiable.predicates
      rollback := rfl
      blastRadius := ⟨limit, limit, rfl, declared, le_refl _⟩
      mission := ⟨verifiable.mission, ⟨"NONE", rfl, by decide, by decide⟩, rfl⟩ }
  · rintro ⟨inp, rfl, verified⟩
    have confirmed := (verified_iff.mp verified).1
    obtain ⟨_, limit, _, declared, _⟩ := confirmed.blastRadius
    exact {
      tool := ⟨inp.toolName, (referencesResolve_iff.mp confirmed.references).2⟩
      target := ⟨inp.target, confirmed.preconditions.2⟩
      predicates := confirmed.predicates
      limit := ⟨limit, declared⟩
      mission := confirmed.mission.1 }

theorem neverVerified_iff {envelope : Json.Object} : NeverVerified envelope ↔ ¬ Verifiable envelope := by
  rw [verifiable_iff, NeverVerified]
  simp

omit [Runtime] in
theorem Verifiable.congr {envelope other : Json.Object} (verifiable : Verifiable envelope)
    (same : ∀ key ∈ verifierFields, other.lookup key = envelope.lookup key) : Verifiable other := by
  simp only [verifierFields, List.forall_mem_cons] at same
  obtain ⟨_, rollback, runbook, _, targets, predicates, limit, mission, _⟩ := same
  constructor
  · simpa only [Json.get, Json.getOr, rollback, runbook] using verifiable.tool
  · simpa only [Json.getOr, targets] using verifiable.target
  · simpa only [Json.get, Json.getOr, predicates] using verifiable.predicates
  · simpa only [Json.get, Json.getOr, limit] using verifiable.limit
  · simpa only [Json.get, Json.getOr, mission] using verifiable.mission

omit [Runtime] in
theorem decideState_safe_iff {checks : List Check} :
    (SafetyKernel.decideState checks).1 = .safeToEvaluate ↔ ∀ check ∈ checks, check.passed = some true := by
  apply decideOver_accept_iff
  · intro names blocked
    cases blocked
  · intro names inconclusive
    cases inconclusive

/-- Signed runbooks do not exist yet, so the kernel's own decision never releases
an envelope. What follows is about the envelopes it can build. -/
theorem runChecks_not_safe {inp : SafetyCheckInput} {incidentErrors : List String} {checks : List Check}
    (ran : SafetyKernel.runChecks inp incidentErrors = some checks) :
    (SafetyKernel.decideState checks).1 ≠ .safeToEvaluate := by
  intro safe
  have passed := decideState_safe_iff.mp safe
  obtain ⟨_, _, made⟩ := Option.bind_eq_some_iff.mp ran
  cases made
  simp only [List.forall_mem_cons, reduceCtorEq, false_and, and_false] at passed

theorem buildEnvelopePayload_verifiable (inp : SafetyCheckInput) (checks : List Check) (draw : Draw)
    {bounds : Json.Object} (evaluated : missionBounds inp = .obj bounds) :
    Verifiable (buildEnvelopePayload inp checks draw) where
  tool := ⟨inp.toolName, rfl, rfl⟩
  target := by
    refine ⟨inp.target, ?_⟩
    change (Json.arr [.str inp.target]).contains? inp.target = some true
    simp [Json.contains?]
  predicates := ⟨rfl, _, rfl⟩
  limit := ⟨maxBlastRadius, rfl⟩
  mission := ⟨bounds, evaluated⟩

def hashedFields (envelope : Json.Object) : List String :=
  (envelope.map Prod.fst).filter (· ∉ ["envelope_hash", "signature"])

/-- Another content of some hashed field under the same hash and signature. -/
structure Altered (original envelope : Json.Object) : Prop where
  hash : envelope.lookup "envelope_hash" = original.lookup "envelope_hash"
  signature : envelope.lookup "signature" = original.lookup "signature"
  field : ∃ key ∈ hashedFields original, (envelope.lookup key).map Json.sortKeys ≠ (original.lookup key).map Json.sortKeys

def Expired (readInstant : String → Option IsoTime.Instant) (envelope : Json.Object) (time : IsoTime.Instant) : Prop :=
  ∃ text instant, Json.get envelope "valid_until" = .str text ∧ readInstant text = some instant ∧ instant < time

/-- Altered and expired envelopes are never accepted exactly when they are not
verifiable anyway, however timestamps are read. -/
theorem only_sealed_envelopes_iff (inp : SafetyCheckInput) (checks : List Check) (draw : Draw) (envelope : Json.Object)
    (readInstant : String → Option IsoTime.Instant) (time : IsoTime.Instant) :
    ((Altered (buildEnvelopePayload inp checks draw) envelope → NeverVerified envelope) ∧
      (Expired readInstant envelope time → NeverVerified envelope)) ↔
      (Altered (buildEnvelopePayload inp checks draw) envelope ∨ Expired readInstant envelope time →
        ¬ Verifiable envelope) := by
  rw [neverVerified_iff, or_imp]

def sampleAction : SafetyCheckInput where
  incident := [("incident_id", .str "incident-1"), ("evidence_refs", .arr [.str "alert-1"])]
  recommendation := []
  target := "deployment/web"
  toolName := "isolate"
  toolModes := ["dry-run"]
  sideEffectClass := "REVERSIBLE_WRITE"
  rollbackSupported := true
  toolTimeoutSeconds := 30
  toolKnown := true
  targetAllowlist := {"deployment/web"}
  missionBlastRadius := some "LOW"
  missionContextHash := some "sha256:00"

def sampleEnvelope : Json.Object :=
  buildEnvelopePayload sampleAction ((runChecks sampleAction []).getD []) { now := 0, uuid := 0 }

private theorem sampleEnvelope_verifiable : Verifiable sampleEnvelope :=
  buildEnvelopePayload_verifiable _ _ _ rfl

omit [Runtime] in
/-- Another action put under the sealed hash is accepted, and so is the sealed
envelope itself after its fifteen minutes. -/
theorem altered_or_expired_envelope_verifies :
    letI := Runtime.transparent
    (Altered sampleEnvelope (Dict.set sampleEnvelope "allowed_actions" (.arr [.str "execute"])) ∧
      ¬ NeverVerified (Dict.set sampleEnvelope "allowed_actions" (.arr [.str "execute"]))) ∧
    (Expired (fun text => if text = IsoTime.isoformat (IsoTime.minutes 15) then some (IsoTime.minutes 15) else none)
        sampleEnvelope (IsoTime.minutes 16) ∧
      ¬ NeverVerified sampleEnvelope) := by
  let _ := Runtime.transparent
  have kept : ∀ key ≠ "allowed_actions",
      (Dict.set sampleEnvelope "allowed_actions" (.arr [.str "execute"])).lookup key = sampleEnvelope.lookup key := by
    intro key other
    rw [Dict.lookup_set, if_neg other]
  refine ⟨⟨?_, ?_⟩, ?_, ?_⟩
  · constructor
    · exact kept _ (by decide)
    · exact kept _ (by decide)
    · refine ⟨"allowed_actions", ?_, ?_⟩
      · exact List.mem_filter.mpr ⟨by simp [sampleEnvelope, buildEnvelopePayload, unsealedPayload], by decide⟩
      · rw [Dict.lookup_set, if_pos rfl]
        change some (Json.arr [.str "execute"]) ≠ some (Json.arr [.str "dry-run"])
        decide
  · rw [neverVerified_iff, not_not]
    apply sampleEnvelope_verifiable.congr
    intro key read
    apply kept
    rintro rfl
    exact absurd read (by decide)
  · exact ⟨_, IsoTime.minutes 15, rfl, if_pos rfl, by decide⟩
  · rw [neverVerified_iff, not_not]
    exact sampleEnvelope_verifiable

end ArgosCore.Proofs
