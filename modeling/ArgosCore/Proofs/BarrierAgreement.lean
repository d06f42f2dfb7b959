import ArgosCore.Proofs.VerifierEnvelope

/-! Where the two barriers agree. On facts that did not change the verifier finds one
violation that the kernel does not: evidence which only the recommendation names. -/

namespace ArgosCore.Proofs
open Fallible IndependentVerifier

def unchangedFacts (inp : SafetyCheckInput) (envelope : Json.Object) : VerificationCheckInput where
  envelope
  incident := inp.incident
  toolName := inp.toolName
  target := inp.target
  targetAllowlist := inp.targetAllowlist
  targetConfirmedLive := some true
  runbookExists := some true
  rollbackDryRunOk := some true
  observedBlastRadiusCount := inp.observedBlastRadiusCount
  freshMissionContextHash := inp.missionContextHash
  freshMissionBlastRadius := inp.missionBlastRadius
  unresolvedSemanticConflicts := some false

theorem decideState_rejected_iff {checks : List Check} :
    (IndependentVerifier.decideState checks).1 = .rejected ↔ ∃ check ∈ checks, check.passed = some false := by
  have known : violated checks ≠ [] ↔ ∃ check ∈ checks, check.passed = some false := by
    simp [violated]
  rw [← known, IndependentVerifier.decideState, decideOver]
  split_ifs with some_violated unevaluated
  · simp [some_violated]
  · simp [some_violated]
  · simp [some_violated]

variable [Runtime]

structure NothingViolated (inp : SafetyCheckInput) : Prop where
  inScope : inp.target ∈ inp.targetAllowlist
  bounded : ∀ count ∈ inp.observedBlastRadiusCount, count ≤ maxBlastRadius
  mission : ∀ radius ∈ inp.missionBlastRadius, radius ≠ "CRITICAL"
  evidence : (Json.get inp.incident "evidence_refs").truthy = true →
    ((Json.get inp.incident "evidence_refs").length?).isSome

theorem nothingViolated {inp : SafetyCheckInput} {incidentErrors : List String} {checks : List Check}
    (ran : SafetyKernel.runChecks inp incidentErrors = some checks)
    (unviolated : ∀ check ∈ checks, check.passed ≠ some false) : NothingViolated inp := by
  obtain ⟨count, counted, made⟩ := Option.bind_eq_some_iff.mp ran
  cases made
  simp only [List.forall_mem_cons] at unviolated
  obtain ⟨_, _, _, inScope, _, _, _, _, _, bounded, mission, _⟩ := unviolated
  constructor
  · simpa using inScope
  · intro count observed
    rw [SafetyKernel.blastRadiusBounded, observed] at bounded
    simpa using bounded
  · rintro radius assessed rfl
    rw [SafetyKernel.missionImpactBounded, assessed] at mission
    simp [Option.filter] at mission
  · intro named
    rw [SafetyKernel.orElse, SafetyKernel.orElse, if_pos named, if_pos named] at counted
    rw [counted]
    rfl

omit [Runtime] in
theorem missionBounds_cases (inp : SafetyCheckInput) :
    SafetyKernel.missionBounds inp = .null ∨
      ∃ radius, inp.missionBlastRadius = some radius ∧ radius ≠ "INSUFFICIENT_CONTEXT" ∧
        SafetyKernel.missionBounds inp =
          .obj [("mission_blast_radius", .str radius), ("mission_context_hash", optionalStr inp.missionContextHash)] := by
  rw [SafetyKernel.missionBounds]
  cases inp.missionBlastRadius with
  | none => exact .inl rfl
  | some radius =>
    by_cases insufficient : radius = "INSUFFICIENT_CONTEXT"
    · exact .inl (if_pos insufficient)
    · exact .inr ⟨radius, rfl, insufficient, if_neg insufficient⟩

section
variable (inp : SafetyCheckInput) (checks : List Check) (draw : Draw)

private abbrev asSealed : VerificationCheckInput :=
  unchangedFacts inp (SafetyKernel.buildEnvelopePayload inp checks draw)

private theorem sealed_references (identified : (inp.incident.lookup "incident_id").isSome) :
    referencesResolve (asSealed inp checks draw) = true := by
  obtain ⟨incidentId, named⟩ := Option.isSome_iff_exists.mp identified
  apply referencesResolve_iff.mpr
  refine ⟨?_, rfl, rfl⟩
  change (Json.getOr inp.incident "incident_id" (.str "")).equals (Json.getOr inp.incident "incident_id" .null) = true
  rw [Json.getOr, Json.getOr, named]
  exact Json.equals_refl incidentId

private theorem sealed_preconditions (unviolated : NothingViolated inp) :
    preconditionsHold (asSealed inp checks draw) = .ok true := by
  refine preconditionsHold_iff.mpr ⟨unviolated.inScope, ?_⟩
  change (Json.arr [.str inp.target]).contains? inp.target = some true
  simp [Json.contains?]

private theorem sealed_blastRadius (unviolated : NothingViolated inp) :
    ∃ check, blastRadiusBounded (asSealed inp checks draw) = .ok check ∧ check.passed ≠ some false := by
  cases observed : inp.observedBlastRadiusCount with
  | none =>
    rw [blastRadiusBounded, asSealed, unchangedFacts, observed]
    exact ⟨_, rfl, by simp⟩
  | some count =>
    obtain ⟨check, bounded, passed⟩ := blastRadiusBounded_iff.mpr
      (⟨count, maxBlastRadius, observed, rfl, unviolated.bounded count observed⟩ :
        ∃ count limit, (asSealed inp checks draw).observedBlastRadiusCount = some count ∧
          (Json.get (asSealed inp checks draw).envelope "max_blast_radius").number? = some limit ∧ count ≤ limit)
    exact ⟨check, bounded, by simp [passed]⟩

private theorem sealed_mission (unviolated : NothingViolated inp) :
    ∃ mission, checkMissionConstraints (asSealed inp checks draw).envelope (asSealed inp checks draw) = .ok mission ∧
      mission.1 ≠ some false := by
  have sealedBounds : Json.get (asSealed inp checks draw).envelope "mission_bounds" = SafetyKernel.missionBounds inp := rfl
  rcases missionBounds_cases inp with absent | ⟨radius, assessed, sufficient, bounds⟩
  · rw [checkMissionConstraints, sealedBounds, absent]
    exact ⟨_, rfl, by simp⟩
  · have reassessed : MissionReassessed (asSealed inp checks draw) := by
      refine ⟨⟨_, sealedBounds.trans bounds⟩, ⟨radius, assessed, sufficient, ?_⟩, rfl⟩
      exact unviolated.mission radius assessed
    have same : HashNotRefuted (asSealed inp checks draw) := by
      intro fresh supplied
      change inp.missionContextHash = some fresh at supplied
      right
      rw [sealedHash, sealedBounds, bounds, supplied]
      rfl
    obtain ⟨mission, respected, passed⟩ := checkMissionConstraints_iff.mpr ⟨reassessed, same⟩
    exact ⟨mission, respected, by simp [passed]⟩

private theorem sealed_facts :
    factsExist (asSealed inp checks draw) = true ↔
      (Json.get inp.incident "evidence_refs").truthy = true ∨ inp.evidenceManifestId ≠ none := by
  have root : Json.get (asSealed inp checks draw).envelope "evidence_root" = optionalStr inp.evidenceManifestId := rfl
  rw [factsExist, root, evidenceRefs, asSealed, unchangedFacts]
  cases inp.evidenceManifestId <;> split_ifs <;> simp_all [optionalStr, Json.truthy]

private theorem sealed_evidence (unviolated : NothingViolated inp) :
    ∃ count, length (evidenceRefs (asSealed inp checks draw)) = .ok count := by
  rw [evidenceRefs, asSealed, unchangedFacts]
  split_ifs with named
  · obtain ⟨count, counted⟩ := Option.isSome_iff_exists.mp (unviolated.evidence named)
    exact ⟨count, by rw [length, counted]⟩
  · exact ⟨0, rfl⟩

/-- On what the kernel sealed the verifier runs all its checks, and only the existence
of the facts can be violated. -/
private theorem sealed_runChecks (unviolated : NothingViolated inp)
    (identified : (inp.incident.lookup "incident_id").isSome) :
    ∃ verified, IndependentVerifier.runChecks (asSealed inp checks draw) = .ok verified ∧
      ((∃ check ∈ verified, check.passed = some false) ↔ factsExist (asSealed inp checks draw) = false) := by
  obtain ⟨blastRadius, bounded, within⟩ := sealed_blastRadius inp checks draw unviolated
  obtain ⟨mission, respected, acceptable⟩ := sealed_mission inp checks draw unviolated
  obtain ⟨count, counted⟩ := sealed_evidence inp checks draw unviolated
  rw [IndependentVerifier.runChecks, sealed_preconditions inp checks draw unviolated, bounded, respected, counted]
  refine ⟨_, rfl, ?_⟩
  have references := sealed_references inp checks draw identified
  have predicates : (Json.get (asSealed inp checks draw).envelope "verification_predicates").truthy = true := rfl
  have live : (targetsExist (asSealed inp checks draw)).passed = some true := rfl
  have runbook : (runbookExists (asSealed inp checks draw)).passed = some true := rfl
  have rollback : (rollbackExecutable (asSealed inp checks draw)).passed = some true := rfl
  simp [references, predicates, live, runbook, rollback, within, acceptable]

private theorem sealed_rejected_iff (unviolated : NothingViolated inp)
    (identified : (inp.incident.lookup "incident_id").isSome) :
    ∃ decision, verify (asSealed inp checks draw) = .ok decision ∧
      (decision.state = .rejected ↔
        (Json.get inp.incident "evidence_refs").truthy = false ∧ inp.evidenceManifestId = none) := by
  obtain ⟨verified, ran, violated⟩ := sealed_runChecks inp checks draw unviolated identified
  refine ⟨⟨(IndependentVerifier.decideState verified).1, verified, (IndependentVerifier.decideState verified).2⟩, ?_, ?_⟩
  · rw [verify, if_neg (by exact List.cons_ne_nil _ _), ran]
    rfl
  · rw [decideState_rejected_iff, violated, ← Bool.not_eq_true, sealed_facts]
    simp

end

/-- On unchanged facts, what the kernel did not refuse the verifier refuses exactly when
the incident itself has no evidence and no evidence manifest was sealed. -/
theorem barriers_agree_iff (validate : Json.Object → List String) (inp : SafetyCheckInput) (checks : List Check)
    (draw : Draw) (ran : SafetyKernel.runChecks inp (validate inp.incident) = some checks)
    (unviolated : ∀ check ∈ checks, check.passed ≠ some false)
    (identified : (inp.incident.lookup "incident_id").isSome) :
    ∃ decision, verify (unchangedFacts inp (SafetyKernel.buildEnvelopePayload inp checks draw)) = .ok decision ∧
      (decision.state = .rejected ↔
        (Json.get inp.incident "evidence_refs").truthy = false ∧ inp.evidenceManifestId = none) :=
  sealed_rejected_iff inp checks draw (nothingViolated ran unviolated) identified

omit [Runtime] in
theorem barriers_agree_on_sample :
    letI := Runtime.transparent
    ∃ decision, verify (unchangedFacts sampleAction sampleEnvelope) = .ok decision ∧ decision.state ≠ .rejected := by
  let _ := Runtime.transparent
  obtain ⟨decision, verified, rejected⟩ := barriers_agree_iff (fun _ => []) sampleAction
    ((SafetyKernel.runChecks sampleAction []).getD []) { now := 0, uuid := 0 } rfl (by decide) rfl
  refine ⟨decision, verified, ?_⟩
  rw [ne_eq, rejected]
  decide

/-- The sample action with its evidence named in the recommendation alone. -/
def recommendedAction : SafetyCheckInput :=
  { sampleAction with
    incident := [("incident_id", .str "incident-1"), ("evidence_refs", .arr [])]
    recommendation := [("rationale_refs", .arr [.str "alert-1"])] }

omit [Runtime] in
/-- The kernel finds nothing violated in it; on the same facts the verifier does. -/
theorem recommended_evidence_rejected :
    letI := Runtime.transparent
    ∃ checks, SafetyKernel.runChecks recommendedAction [] = some checks ∧
      (∀ check ∈ checks, check.passed ≠ some false) ∧ (recommendedAction.incident.lookup "incident_id").isSome ∧
      ∃ decision, verify (unchangedFacts recommendedAction
          (SafetyKernel.buildEnvelopePayload recommendedAction checks { now := 0, uuid := 0 })) = .ok decision ∧
        decision.state = .rejected := by
  let _ := Runtime.transparent
  have ran : SafetyKernel.runChecks recommendedAction [] =
      some ((SafetyKernel.runChecks recommendedAction []).getD []) := rfl
  have unviolated : ∀ check ∈ (SafetyKernel.runChecks recommendedAction []).getD [], check.passed ≠ some false := by
    decide
  obtain ⟨decision, verified, rejected⟩ := sealed_rejected_iff recommendedAction
    ((SafetyKernel.runChecks recommendedAction []).getD []) { now := 0, uuid := 0 } (nothingViolated ran unviolated) rfl
  exact ⟨_, ran, unviolated, rfl, decision, verified, rejected.mpr ⟨rfl, rfl⟩⟩

end ArgosCore.Proofs
