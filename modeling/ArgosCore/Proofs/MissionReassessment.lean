import ArgosCore.Proofs.BarrierAgreement
import ArgosCore.Proofs.DecisionCommitment

/-! The mission context between the two barriers. The kernel seals the hash of the context that it
was given; the verifier compares it with the hash of the context that was looked up again. -/

namespace ArgosCore.Proofs
open Fallible IndependentVerifier

/-- Nothing in the context that was looked up again differs from the one that was sealed, as far as both exist. -/
def Compatible (sealedContext freshContext : Option MissionContext) : Prop :=
  ∀ first ∈ sealedContext, ∀ second ∈ freshContext, unidentified first = unidentified second

section
variable [Runtime]

omit [Runtime] in
def Assessed (inp : SafetyCheckInput) : Prop := ∃ bounds, SafetyKernel.missionBounds inp = .obj bounds

omit [Runtime] in
theorem missionBounds_obj {inp : SafetyCheckInput} {bounds : Json.Object}
    (assessed : SafetyKernel.missionBounds inp = .obj bounds) :
    Json.get bounds "mission_context_hash" = optionalStr inp.missionContextHash := by
  rw [SafetyKernel.missionBounds] at assessed
  split at assessed
  next => cases assessed
  next radius _ =>
    split at assessed
    next => cases assessed
    next =>
      cases assessed
      rfl

theorem compatible_iff (free : CollisionFree) {sealedContext freshContext : Option MissionContext} :
    Compatible sealedContext freshContext ↔
      ∀ fresh, missionContextHash freshContext = some fresh → optionalStr (missionContextHash sealedContext) = .null ∨
        optionalStr (missionContextHash sealedContext) = .str fresh := by
  cases sealedContext with
  | none => simp [Compatible, missionContextHash, optionalStr]
  | some first =>
    cases freshContext with
    | none => simp [Compatible, missionContextHash]
    | some second =>
      have hashes : missionContextHash (some first) = missionContextHash (some second) ↔
          (some first).map unidentified = (some second).map unidentified := missionContextHash_eq_iff free
      simp only [missionContextHash, Option.map_some, Option.some.injEq] at hashes ⊢
      simp [Compatible, optionalStr, ← hashes]

theorem hashNotRefuted_iff (free : CollisionFree) {inp : SafetyCheckInput} {checks : List Check} {draw : Draw}
    {fresh : VerificationCheckInput} {sealedContext freshContext : Option MissionContext}
    (built : fresh.envelope = SafetyKernel.buildEnvelopePayload inp checks draw)
    (given : inp.missionContextHash = missionContextHash sealedContext)
    (lookedUp : fresh.freshMissionContextHash = missionContextHash freshContext) (assessed : Assessed inp) :
    HashNotRefuted fresh ↔ Compatible sealedContext freshContext := by
  obtain ⟨bounds, known⟩ := assessed
  have bounded : Json.get fresh.envelope "mission_bounds" = .obj bounds := by
    rw [built]
    exact known
  have hash : sealedHash fresh = optionalStr (missionContextHash sealedContext) := by
    rw [sealedHash, bounded, ← given]
    exact missionBounds_obj known
  rw [HashNotRefuted, hash, lookedUp, compatible_iff free]

theorem checkMissionConstraints_refuted {fresh : VerificationCheckInput} {bounds : Json.Object}
    (bounded : Json.get fresh.envelope "mission_bounds" = .obj bounds) (refuted : ¬ HashNotRefuted fresh) :
    ∃ detail, checkMissionConstraints fresh.envelope fresh = .ok (some false, detail) := by
  rw [HashNotRefuted, sealedHash, bounded] at refuted
  obtain ⟨text, looked, differs⟩ : ∃ text, fresh.freshMissionContextHash = some text ∧
      ¬ (Json.get bounds "mission_context_hash" = .null ∨ Json.get bounds "mission_context_hash" = .str text) := by
    simpa using refuted
  rw [not_or] at differs
  rw [checkMissionConstraints, bounded]
  simp only [looked, Option.filter_some, ne_eq, differs, not_false_eq_true, and_self, decide_true, if_true]
  exact ⟨_, rfl⟩

theorem rejected_of_mission {fresh : VerificationCheckInput} {decision : VerificationDecision} {detail : String}
    (returned : verify fresh = .ok decision)
    (violates : checkMissionConstraints fresh.envelope fresh = .ok (some false, detail)) : decision.state = .rejected := by
  rw [verify] at returned
  split at returned
  · cases returned
  · obtain ⟨checks, ran, made⟩ := bind_ok_iff.mp returned
    obtain rfl := Except.ok.inj made
    simp only [runChecks, bind_ok_iff] at ran
    obtain ⟨_, _, _, _, mission, respected, _, _, _, _, listed⟩ := ran
    obtain rfl := Except.ok.inj (violates.symm.trans respected)
    obtain rfl := Except.ok.inj listed
    exact decideState_rejected_iff.mpr ⟨_, List.mem_of_getElem? (show _[8]? = some _ from rfl), rfl⟩

/-- On an envelope of the kernel, what else is confirmed decides, unless the contexts differ; and where
they differ nothing but a rejection is returned. -/
theorem reassessed_context_iff (free : CollisionFree) {inp : SafetyCheckInput} {checks : List Check} {draw : Draw}
    {fresh : VerificationCheckInput} {sealedContext freshContext : Option MissionContext}
    (built : fresh.envelope = SafetyKernel.buildEnvelopePayload inp checks draw)
    (given : inp.missionContextHash = missionContextHash sealedContext)
    (lookedUp : fresh.freshMissionContextHash = missionContextHash freshContext) :
    (Verified fresh ↔ OtherwiseConfirmed fresh ∧ Compatible sealedContext freshContext) ∧
      (Assessed inp → ¬ Compatible sealedContext freshContext →
        ∀ decision, verify fresh = .ok decision → decision.state = .rejected) := by
  constructor
  · rw [verified_iff]
    refine and_congr_right fun confirmed => hashNotRefuted_iff free built given lookedUp ?_
    obtain ⟨bounds, known⟩ := confirmed.mission.1
    rw [built] at known
    exact ⟨bounds, known⟩
  · intro assessed differ decision returned
    have refuted := mt (hashNotRefuted_iff free built given lookedUp assessed).mp differ
    obtain ⟨bounds, known⟩ := assessed
    have bounded : Json.get fresh.envelope "mission_bounds" = .obj bounds := by
      rw [built]
      exact known
    obtain ⟨detail, violates⟩ := checkMissionConstraints_refuted bounded refuted
    exact rejected_of_mission returned violates

end

private def jewelContext (crownJewel : Bool) (observedAt : String) : MissionContext where
  missionContextId := "msnctx-" ++ observedAt
  entityId := "asset-x"
  criticality := some "high"
  crownJewel := some crownJewel
  acceptableDegradation := none
  maximumOutage := none
  recoveryPriority := none
  dependencies := []
  sourceId := "cmdb"
  observedAt
  validFrom := "2026-08-18T10:00:00+00:00"
  validUntil := none

private def jewelAction [Runtime] : SafetyCheckInput :=
  { sampleAction with
    missionBlastRadius := some "LOW"
    missionContextHash := missionContextHash (some (jewelContext true "10:00")) }

private def jewelFacts [Runtime] (context : MissionContext) : VerificationCheckInput :=
  { unchangedFacts jewelAction (SafetyKernel.buildEnvelopePayload jewelAction [] ⟨0, 0⟩) with
    observedBlastRadiusCount := some 1
    freshMissionContextHash := missionContextHash (some context) }

private theorem jewelFacts_confirmed [Runtime] (context : MissionContext) : OtherwiseConfirmed (jewelFacts context) where
  references := referencesResolve_iff.mpr ⟨rfl, rfl, rfl⟩
  facts := rfl
  evidence := ⟨1, rfl⟩
  live := rfl
  runbook := rfl
  preconditions := ⟨Finset.mem_singleton_self _, rfl⟩
  predicates := ⟨rfl, _, rfl⟩
  rollback := rfl
  blastRadius := ⟨1, maxBlastRadius, rfl, rfl, by decide⟩
  mission := ⟨⟨_, rfl⟩, ⟨"LOW", rfl, by decide, by decide⟩, rfl⟩

/-- A context that was observed again verifies; an asset that is no crown jewel any more does not. -/
theorem reassessed_context_crown_jewel :
    letI := Runtime.transparent
    Verified (jewelFacts (jewelContext true "11:00")) ∧
      ∀ decision, verify (jewelFacts (jewelContext false "11:00")) = .ok decision → decision.state = .rejected := by
  let _ := Runtime.transparent
  have compared (context : MissionContext) := reassessed_context_iff Runtime.transparent_collisionFree
    (show (jewelFacts context).envelope = SafetyKernel.buildEnvelopePayload jewelAction [] ⟨0, 0⟩ from rfl)
    (show jewelAction.missionContextHash = missionContextHash (some (jewelContext true "10:00")) from rfl)
    (show (jewelFacts context).freshMissionContextHash = missionContextHash (some context) from rfl)
  constructor
  · refine (compared _).1.mpr ⟨jewelFacts_confirmed _, ?_⟩
    rintro first ⟨⟩ second ⟨⟩
    rfl
  · refine (compared _).2 ⟨_, rfl⟩ fun compatible => ?_
    exact absurd (compatible _ rfl _ rfl) (by decide)

end ArgosCore.Proofs
