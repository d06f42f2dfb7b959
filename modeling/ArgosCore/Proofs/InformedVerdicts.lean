import ArgosCore.Foundations.Informed
import ArgosCore.Proofs.MissionReassessment

/-! The two barriers as facts become known. A refusal is final, and short of one the missing facts
could still turn out well; but the kernel releases nothing even then. -/

namespace ArgosCore.Proofs
open Informed Fallible

theorem decideState_blocked_iff {checks : List Check} :
    (SafetyKernel.decideState checks).1 = .blocked ↔ Refused (checks.map Check.passed) := by
  have known : violated checks ≠ [] ↔ Refused (checks.map Check.passed) := by
    simp [violated, Refused]
  rw [← known, SafetyKernel.decideState, decideOver]
  split_ifs with some_violated unevaluated
  · simp [some_violated]
  · simp [some_violated]
  · simp [some_violated]

theorem decideState_cases (checks : List Check) :
    (SafetyKernel.decideState checks).1 = .blocked ∨ (SafetyKernel.decideState checks).1 = .inconclusive ∨
      (SafetyKernel.decideState checks).1 = .safeToEvaluate := by
  rw [SafetyKernel.decideState, decideOver]
  split_ifs <;> simp

/-- The facts of a kernel call that its caller may not have. -/
structure KernelFacts where
  knownAssetIds : Option (Finset String)
  toolDigestValid : Option Bool
  observedBlastRadiusCount : Option Int
  noUnresolvedCriticalDrift : Option Bool
  missionBlastRadius : Option String

def factsOf (inp : SafetyCheckInput) : KernelFacts where
  knownAssetIds := inp.knownAssetIds
  toolDigestValid := inp.toolDigestValid
  observedBlastRadiusCount := inp.observedBlastRadiusCount
  noUnresolvedCriticalDrift := inp.noUnresolvedCriticalDrift
  missionBlastRadius := inp.missionBlastRadius

def withFacts (inp : SafetyCheckInput) (learnt : KernelFacts) : SafetyCheckInput :=
  { inp with
    knownAssetIds := learnt.knownAssetIds
    toolDigestValid := learnt.toolDigestValid
    observedBlastRadiusCount := learnt.observedBlastRadiusCount
    noUnresolvedCriticalDrift := learnt.noUnresolvedCriticalDrift
    missionBlastRadius := learnt.missionBlastRadius }

def assessedRadius (radius : Option String) : Option String := radius.filter (· ≠ "INSUFFICIENT_CONTEXT")

structure KernelFacts.Learns (known learnt : KernelFacts) : Prop where
  assets : Refines known.knownAssetIds learnt.knownAssetIds
  digest : Refines known.toolDigestValid learnt.toolDigestValid
  count : Refines known.observedBlastRadiusCount learnt.observedBlastRadiusCount
  drift : Refines known.noUnresolvedCriticalDrift learnt.noUnresolvedCriticalDrift
  radius : Refines (assessedRadius known.missionBlastRadius) (assessedRadius learnt.missionBlastRadius)

structure KernelFacts.Complete (learnt : KernelFacts) : Prop where
  assets : learnt.knownAssetIds.isSome
  digest : learnt.toolDigestValid.isSome
  count : learnt.observedBlastRadiusCount.isSome
  drift : learnt.noUnresolvedCriticalDrift.isSome
  radius : (assessedRadius learnt.missionBlastRadius).isSome

section
variable [Runtime]

private theorem missionImpactBounded_passed (inp : SafetyCheckInput) :
    (SafetyKernel.missionImpactBounded inp).passed =
      (assessedRadius inp.missionBlastRadius).map fun radius => decide (radius ≠ "CRITICAL") := by
  rw [SafetyKernel.missionImpactBounded, assessedRadius]
  cases inp.missionBlastRadius.filter fun radius => decide (radius ≠ "INSUFFICIENT_CONTEXT") <;> rfl

/-- What the kernel finds of a call, with the facts that may be missing apart. -/
def kernelVerdicts (inp : SafetyCheckInput) (incidentErrors : List String) (learnt : KernelFacts) : List (Option Bool) := [
  some incidentErrors.isEmpty,
  some (SafetyKernel.orElse (SafetyKernel.orElse (Json.get inp.incident "evidence_refs")
    (Json.get inp.recommendation "rationale_refs")) (.arr [])).truthy,
  learnt.knownAssetIds.map fun known => decide (inp.target ∈ known),
  some (inp.target ∈ inp.targetAllowlist),
  some inp.toolKnown,
  learnt.toolDigestValid,
  none,
  some inp.rollbackSupported,
  some inp.rollbackSupported,
  learnt.observedBlastRadiusCount.map fun count => decide (count ≤ maxBlastRadius),
  (assessedRadius learnt.missionBlastRadius).map fun radius => decide (radius ≠ "CRITICAL"),
  none,
  learnt.noUnresolvedCriticalDrift,
  some (decide (inp.sideEffectClass ∉ ["IRREVERSIBLE", "DESTRUCTIVE"]))]

theorem runChecks_withFacts {inp : SafetyCheckInput} {incidentErrors : List String} {checks : List Check}
    (ran : SafetyKernel.runChecks inp incidentErrors = some checks) (learnt : KernelFacts) :
    ∃ later, SafetyKernel.runChecks (withFacts inp learnt) incidentErrors = some later ∧
      later.map Check.passed = kernelVerdicts inp incidentErrors learnt := by
  obtain ⟨count, counted, _⟩ := Option.bind_eq_some_iff.mp ran
  have again : SafetyKernel.runChecks (withFacts inp learnt) incidentErrors = some _ :=
    Option.bind_eq_some_iff.mpr ⟨count, counted, rfl⟩
  refine ⟨_, again, ?_⟩
  simp only [List.map_cons, List.map_nil, missionImpactBounded_passed]
  rfl

omit [Runtime] in
theorem kernelVerdicts_learn {known learnt : KernelFacts} (learns : known.Learns learnt) (inp : SafetyCheckInput)
    (incidentErrors : List String) :
    List.Forall₂ KeepsRefusal (kernelVerdicts inp incidentErrors known) (kernelVerdicts inp incidentErrors learnt) := by
  have kept (verdict : Option Bool) : KeepsRefusal verdict verdict := id
  simp only [kernelVerdicts, List.forall₂_cons, List.forall₂_nil_left_iff, kept, and_true,
    (learns.assets.map _).keepsRefusal, learns.digest.keepsRefusal, (learns.count.map _).keepsRefusal,
    (learns.radius.map _).keepsRefusal, learns.drift.keepsRefusal]

/-- What is missing, filled in as well as it can be. -/
def favourableFacts (inp : SafetyCheckInput) : KernelFacts where
  knownAssetIds := some (inp.knownAssetIds.getD {inp.target})
  toolDigestValid := some (inp.toolDigestValid.getD true)
  observedBlastRadiusCount := some (inp.observedBlastRadiusCount.getD 0)
  noUnresolvedCriticalDrift := some (inp.noUnresolvedCriticalDrift.getD true)
  missionBlastRadius := some ((assessedRadius inp.missionBlastRadius).getD "LOW")

omit [Runtime] in
private theorem assessedRadius_getD (radius : Option String) :
    assessedRadius (some ((assessedRadius radius).getD "LOW")) = some ((assessedRadius radius).getD "LOW") := by
  refine Option.filter_eq_some_iff.mpr ⟨rfl, ?_⟩
  cases known : assessedRadius radius with
  | none => decide
  | some radius => exact (Option.filter_eq_some_iff.mp known).2

omit [Runtime] in
theorem favourableFacts_learns (inp : SafetyCheckInput) :
    (factsOf inp).Learns (favourableFacts inp) ∧ (favourableFacts inp).Complete := by
  have radius : assessedRadius (favourableFacts inp).missionBlastRadius = _ := assessedRadius_getD _
  constructor
  · refine ⟨refines_getD _ _, refines_getD _ _, refines_getD _ _, refines_getD _ _, ?_⟩
    rw [radius]
    exact refines_getD _ _
  · exact ⟨rfl, rfl, rfl, rfl, by rw [radius]; rfl⟩

omit [Runtime] in
theorem kernelVerdicts_favourable (inp : SafetyCheckInput) (incidentErrors : List String) :
    List.Forall₂ KeepsRefusal (kernelVerdicts inp incidentErrors (favourableFacts inp))
      (kernelVerdicts inp incidentErrors (factsOf inp)) := by
  have kept (verdict : Option Bool) : KeepsRefusal verdict verdict := id
  have flag (known : Option Bool) : KeepsRefusal (some (known.getD true)) known := by
    simpa using keepsRefusal_getD id rfl known
  have assets := keepsRefusal_getD (fun known => decide (inp.target ∈ known))
    (decide_eq_true (Finset.mem_singleton_self inp.target)) inp.knownAssetIds
  have count := keepsRefusal_getD (fun count => decide (count ≤ maxBlastRadius))
    (show decide ((0 : Int) ≤ maxBlastRadius) = true by decide) inp.observedBlastRadiusCount
  have radius := keepsRefusal_getD (fun radius => decide (radius ≠ "CRITICAL"))
    (show decide ("LOW" ≠ "CRITICAL") = true by decide) (assessedRadius inp.missionBlastRadius)
  rw [← assessedRadius_getD] at radius
  simp only [kernelVerdicts, List.forall₂_cons, List.forall₂_nil_left_iff, kept, true_and, and_true]
  exact ⟨assets, flag _, count, radius, flag _⟩

theorem evaluate_ok {validatePayload : String → Json.Object → List String} {inp : SafetyCheckInput}
    {context : EnvelopeContext} {created enveloped : Draw} {decision : SafetyKernelDecision} :
    SafetyKernel.evaluate validatePayload inp context created enveloped = .ok decision ↔
      ∃ checks, SafetyKernel.runChecks inp (validatePayload "incident" inp.incident) = some checks ∧
        decision = ⟨(SafetyKernel.decideState checks).1, checks, none, (SafetyKernel.decideState checks).2⟩ := by
  rw [SafetyKernel.evaluate]
  cases ran : SafetyKernel.runChecks inp (validatePayload "incident" inp.incident) with
  | none => simp
  | some checks =>
    have notSafe := runChecks_not_safe ran
    simp only [Option.some.injEq, exists_eq_left', ne_eq, notSafe, not_false_eq_true, if_true, Except.ok.injEq]
    exact eq_comm

/-- The kernel never releases an envelope. Its refusal is final: whatever is learnt later, the call is
refused again. Anything short of a refusal could still turn out unobjectionable. -/
theorem kernel_refusal_final (validatePayload : String → Json.Object → List String) (inp : SafetyCheckInput)
    (context : EnvelopeContext) (created enveloped : Draw) {decision : SafetyKernelDecision}
    (returned : SafetyKernel.evaluate validatePayload inp context created enveloped = .ok decision) :
    decision.envelope = none ∧
      (decision.state = .blocked → ∀ learnt, (factsOf inp).Learns learnt →
        ∃ later, SafetyKernel.evaluate validatePayload (withFacts inp learnt) context created enveloped = .ok later ∧
          later.state = .blocked) ∧
      (decision.state ≠ .blocked → ∃ learnt, (factsOf inp).Learns learnt ∧ learnt.Complete ∧
        ∃ later, SafetyKernel.evaluate validatePayload (withFacts inp learnt) context created enveloped = .ok later ∧
          later.state = .inconclusive) := by
  obtain ⟨checks, ran, rfl⟩ := evaluate_ok.mp returned
  have own : checks.map Check.passed = kernelVerdicts inp (validatePayload "incident" inp.incident) (factsOf inp) := by
    obtain ⟨same, again, verdicts⟩ := runChecks_withFacts ran (factsOf inp)
    obtain rfl := Option.some.inj (ran.symm.trans again)
    exact verdicts
  refine ⟨rfl, fun blocked learnt learns => ?_, fun open_ => ?_⟩
  · obtain ⟨later, again, verdicts⟩ := runChecks_withFacts ran learnt
    refine ⟨_, evaluate_ok.mpr ⟨later, again, rfl⟩, decideState_blocked_iff.mpr ?_⟩
    rw [verdicts]
    have refused := decideState_blocked_iff.mp blocked
    rw [own] at refused
    exact refused.learn (kernelVerdicts_learn learns inp _)
  · obtain ⟨learns, complete⟩ := favourableFacts_learns inp
    obtain ⟨later, again, verdicts⟩ := runChecks_withFacts ran (favourableFacts inp)
    refine ⟨_, learns, complete, _, evaluate_ok.mpr ⟨later, again, rfl⟩, ?_⟩
    have notBlocked : (SafetyKernel.decideState later).1 ≠ .blocked := by
      rw [ne_eq, decideState_blocked_iff, verdicts]
      refine fun refused => open_ (decideState_blocked_iff.mpr ?_)
      rw [own]
      exact refused.learn (kernelVerdicts_favourable inp _)
    exact (decideState_cases later).resolve_left notBlocked |>.resolve_right (runChecks_not_safe again)

end

/-- The facts of a verification that may not be confirmed yet. -/
structure FreshFacts where
  targetConfirmedLive : Option Bool
  runbookExists : Option Bool
  rollbackDryRunOk : Option Bool
  observedBlastRadiusCount : Option Int
  freshMissionContextHash : Option String
  freshMissionBlastRadius : Option String
  unresolvedSemanticConflicts : Option Bool

def freshFactsOf (fresh : VerificationCheckInput) : FreshFacts where
  targetConfirmedLive := fresh.targetConfirmedLive
  runbookExists := fresh.runbookExists
  rollbackDryRunOk := fresh.rollbackDryRunOk
  observedBlastRadiusCount := fresh.observedBlastRadiusCount
  freshMissionContextHash := fresh.freshMissionContextHash
  freshMissionBlastRadius := fresh.freshMissionBlastRadius
  unresolvedSemanticConflicts := fresh.unresolvedSemanticConflicts

def withFresh (fresh : VerificationCheckInput) (learnt : FreshFacts) : VerificationCheckInput :=
  { fresh with
    targetConfirmedLive := learnt.targetConfirmedLive
    runbookExists := learnt.runbookExists
    rollbackDryRunOk := learnt.rollbackDryRunOk
    observedBlastRadiusCount := learnt.observedBlastRadiusCount
    freshMissionContextHash := learnt.freshMissionContextHash
    freshMissionBlastRadius := learnt.freshMissionBlastRadius
    unresolvedSemanticConflicts := learnt.unresolvedSemanticConflicts }

structure FreshFacts.Learns (known learnt : FreshFacts) : Prop where
  live : Refines known.targetConfirmedLive learnt.targetConfirmedLive
  runbook : Refines known.runbookExists learnt.runbookExists
  rollback : Refines known.rollbackDryRunOk learnt.rollbackDryRunOk
  count : Refines known.observedBlastRadiusCount learnt.observedBlastRadiusCount
  hash : Refines known.freshMissionContextHash learnt.freshMissionContextHash
  radius : Refines (assessedRadius known.freshMissionBlastRadius) (assessedRadius learnt.freshMissionBlastRadius)
  conflicts : Refines known.unresolvedSemanticConflicts learnt.unresolvedSemanticConflicts

def HashDiffers (sealedText freshText : Option String) : Prop :=
  ∃ first ∈ sealedText, ∃ second ∈ freshText, first ≠ second

instance (sealedText freshText : Option String) : Decidable (HashDiffers sealedText freshText) :=
  inferInstanceAs (Decidable (∃ first ∈ sealedText, ∃ second ∈ freshText, first ≠ second))

/-- What the verifier finds of the mission context, given the hash that was sealed. -/
def missionVerdict (sealedText : Option String) (learnt : FreshFacts) : Option Bool :=
  if HashDiffers sealedText learnt.freshMissionContextHash then some false
  else if assessedRadius learnt.freshMissionBlastRadius = some "CRITICAL" then some false
  else (assessedRadius learnt.freshMissionBlastRadius).bind fun _ => learnt.unresolvedSemanticConflicts.map (!·)

theorem missionVerdict_refuses_iff {sealedText : Option String} {learnt : FreshFacts} :
    missionVerdict sealedText learnt = some false ↔
      HashDiffers sealedText learnt.freshMissionContextHash ∨
        assessedRadius learnt.freshMissionBlastRadius = some "CRITICAL" ∨
        (assessedRadius learnt.freshMissionBlastRadius).isSome ∧ learnt.unresolvedSemanticConflicts = some true := by
  rw [missionVerdict]
  split_ifs with differs critical
  · simp [differs]
  · simp [critical]
  · generalize assessedRadius learnt.freshMissionBlastRadius = radius at critical ⊢
    cases radius <;> simp_all

theorem missionVerdict_learn {known learnt : FreshFacts} (learns : known.Learns learnt) (sealedText : Option String) :
    KeepsRefusal (missionVerdict sealedText known) (missionVerdict sealedText learnt) := by
  rw [KeepsRefusal, missionVerdict_refuses_iff, missionVerdict_refuses_iff]
  rintro (⟨first, held, second, looked, differ⟩ | critical | ⟨assessed, conflict⟩)
  · exact .inl ⟨first, held, second, learns.hash second looked, differ⟩
  · exact .inr (.inl (learns.radius _ critical))
  · obtain ⟨radius, known⟩ := Option.isSome_iff_exists.mp assessed
    exact .inr (.inr ⟨by rw [learns.radius _ known]; rfl, learns.conflicts _ conflict⟩)

def favourableFresh (sealedText : Option String) (fresh : VerificationCheckInput) : FreshFacts where
  targetConfirmedLive := some (fresh.targetConfirmedLive.getD true)
  runbookExists := some (fresh.runbookExists.getD true)
  rollbackDryRunOk := some (fresh.rollbackDryRunOk.getD true)
  observedBlastRadiusCount := some (fresh.observedBlastRadiusCount.getD 0)
  freshMissionContextHash := some (fresh.freshMissionContextHash.getD (sealedText.getD ""))
  freshMissionBlastRadius := some ((assessedRadius fresh.freshMissionBlastRadius).getD "LOW")
  unresolvedSemanticConflicts := some (fresh.unresolvedSemanticConflicts.getD false)

theorem favourableFresh_learns (sealedText : Option String) (fresh : VerificationCheckInput) :
    (freshFactsOf fresh).Learns (favourableFresh sealedText fresh) := by
  refine ⟨refines_getD _ _, refines_getD _ _, refines_getD _ _, refines_getD _ _, refines_getD _ _, ?_, refines_getD _ _⟩
  rw [favourableFresh, assessedRadius_getD]
  exact refines_getD _ _

/-- A conflict that is known to be unresolved is not looked at before the impact is known. -/
theorem missionVerdict_favourable (sealedText : Option String) {fresh : VerificationCheckInput}
    (resolved : fresh.unresolvedSemanticConflicts ≠ some true) :
    KeepsRefusal (missionVerdict sealedText (favourableFresh sealedText fresh))
      (missionVerdict sealedText (freshFactsOf fresh)) := by
  rw [KeepsRefusal, missionVerdict_refuses_iff, missionVerdict_refuses_iff, favourableFresh, assessedRadius_getD, freshFactsOf]
  rintro (⟨first, rfl, second, looked, differ⟩ | critical | ⟨_, conflict⟩)
  · refine .inl ⟨first, rfl, second, ?_, differ⟩
    cases known : fresh.freshMissionContextHash with
    | none =>
      rw [known] at looked
      exact absurd (Option.some.inj looked) differ
    | some text => rwa [known] at looked
  · refine .inr (.inl ?_)
    cases known : assessedRadius fresh.freshMissionBlastRadius with
    | none =>
      rw [known] at critical
      exact absurd critical (by decide)
    | some radius => rwa [known] at critical
  · cases known : fresh.unresolvedSemanticConflicts with
    | none =>
      rw [known] at conflict
      cases conflict
    | some unresolved =>
      rw [known] at conflict resolved
      exact absurd conflict resolved

section
variable [Runtime]

def verifierVerdicts (fresh : VerificationCheckInput) (preconditions : Bool) (mission : Option Bool) (learnt : FreshFacts) :
    List (Option Bool) := [
  some (IndependentVerifier.referencesResolve fresh),
  some (IndependentVerifier.factsExist fresh),
  learnt.targetConfirmedLive,
  learnt.runbookExists,
  some preconditions,
  some true,
  learnt.rollbackDryRunOk,
  learnt.observedBlastRadiusCount.map fun count => decide (count ≤ maxBlastRadius),
  mission]

def missionOf (inp : SafetyCheckInput) (learnt : FreshFacts) : Option Bool :=
  if SafetyKernel.missionBounds inp = .null then none else missionVerdict inp.missionContextHash learnt

omit [Runtime] in
private theorem filter_differs (sealedText freshText : Option String) :
    freshText.filter (fun fresh => optionalStr sealedText ≠ .null ∧ optionalStr sealedText ≠ .str fresh) =
      if HashDiffers sealedText freshText then freshText else none := by
  cases sealedText <;> cases freshText <;> simp [HashDiffers, optionalStr, Option.filter]

theorem checkMissionConstraints_missionOf {inp : SafetyCheckInput} {checks : List Check} {draw : Draw}
    {fresh : VerificationCheckInput} (built : fresh.envelope = SafetyKernel.buildEnvelopePayload inp checks draw) :
    ∃ detail, IndependentVerifier.checkMissionConstraints fresh.envelope fresh =
      .ok (missionOf inp (freshFactsOf fresh), detail) := by
  have bounds : Json.get fresh.envelope "mission_bounds" = SafetyKernel.missionBounds inp := by
    rw [built]
    rfl
  rw [IndependentVerifier.checkMissionConstraints, bounds, missionOf]
  rcases missionBounds_cases inp with absent | ⟨radius, _, _, known⟩
  · rw [absent]
    exact ⟨_, rfl⟩
  · have hash : Json.get [("mission_blast_radius", .str radius),
        ("mission_context_hash", optionalStr inp.missionContextHash)] "mission_context_hash" =
        optionalStr inp.missionContextHash := rfl
    rw [known, if_neg (by simp), missionVerdict, freshFactsOf]
    simp only [hash, filter_differs]
    by_cases differs : HashDiffers inp.missionContextHash fresh.freshMissionContextHash
    · rw [if_pos differs, if_pos differs]
      obtain ⟨_, _, text, looked, _⟩ := differs
      rw [looked]
      exact ⟨_, rfl⟩
    · rw [if_neg differs, if_neg differs]
      cases fresh.freshMissionBlastRadius with
      | none => exact ⟨_, rfl⟩
      | some radius =>
        simp only [assessedRadius, Option.filter_some]
        by_cases insufficient : radius = "INSUFFICIENT_CONTEXT"
        · simp [insufficient]
        · by_cases critical : radius = "CRITICAL"
          · simp [critical]
          · rcases fresh.unresolvedSemanticConflicts with _ | _ | _ <;> simp [insufficient, critical]

theorem runChecks_withFresh {inp : SafetyCheckInput} {checks verified : List Check} {draw : Draw}
    {fresh : VerificationCheckInput} (built : fresh.envelope = SafetyKernel.buildEnvelopePayload inp checks draw)
    (ran : IndependentVerifier.runChecks fresh = .ok verified) :
    ∃ preconditions, ∀ learnt, ∃ later, IndependentVerifier.runChecks (withFresh fresh learnt) = .ok later ∧
      later.map Check.passed = verifierVerdicts fresh preconditions (missionOf inp learnt) learnt := by
  simp only [IndependentVerifier.runChecks, bind_ok_iff] at ran
  obtain ⟨preconditions, holds, _, _, _, _, evidence, counted, predicates, measured, _⟩ := ran
  refine ⟨preconditions, fun learnt => ?_⟩
  obtain ⟨detail, constrained⟩ := checkMissionConstraints_missionOf
    (show (withFresh fresh learnt).envelope = SafetyKernel.buildEnvelopePayload inp checks draw from built)
  obtain ⟨radius, bounded, passed⟩ : ∃ check, IndependentVerifier.blastRadiusBounded (withFresh fresh learnt) = .ok check ∧
      check.passed = learnt.observedBlastRadiusCount.map fun count => decide (count ≤ maxBlastRadius) := by
    have limit : Json.get (withFresh fresh learnt).envelope "max_blast_radius" = .int maxBlastRadius := by
      change Json.get fresh.envelope "max_blast_radius" = _
      rw [built]
      rfl
    rw [IndependentVerifier.blastRadiusBounded, limit]
    cases counted : learnt.observedBlastRadiusCount with
    | none =>
      simp only [withFresh, counted]
      exact ⟨_, rfl, rfl⟩
    | some count =>
      simp only [withFresh, counted]
      exact ⟨_, rfl, rfl⟩
  have later : IndependentVerifier.runChecks (withFresh fresh learnt) = .ok _ :=
    bind_ok_iff.mpr ⟨preconditions, holds, bind_ok_iff.mpr ⟨radius, bounded, bind_ok_iff.mpr ⟨_, constrained,
      bind_ok_iff.mpr ⟨evidence, counted, bind_ok_iff.mpr ⟨predicates, measured, rfl⟩⟩⟩⟩⟩
  refine ⟨_, later, ?_⟩
  have measurable : (Json.get (withFresh fresh learnt).envelope "verification_predicates").truthy = true := by
    change (Json.get fresh.envelope "verification_predicates").truthy = true
    rw [built]
    rfl
  simp only [List.map_cons, List.map_nil, passed, measurable]
  rfl

theorem verify_ok (fresh : VerificationCheckInput) (sealed : fresh.envelope ≠ []) {decision : VerificationDecision} :
    IndependentVerifier.verify fresh = .ok decision ↔
      ∃ checks, IndependentVerifier.runChecks fresh = .ok checks ∧
        decision = ⟨(IndependentVerifier.decideState checks).1, checks, (IndependentVerifier.decideState checks).2⟩ := by
  rw [IndependentVerifier.verify, if_neg sealed, bind_ok_iff]
  constructor
  · rintro ⟨checks, ran, made⟩
    exact ⟨checks, ran, (Except.ok.inj made).symm⟩
  · rintro ⟨checks, ran, rfl⟩
    exact ⟨checks, ran, rfl⟩

omit [Runtime] in
private theorem rejected_iff {checks : List Check} :
    (IndependentVerifier.decideState checks).1 = .rejected ↔ Refused (checks.map Check.passed) := by
  rw [decideState_rejected_iff]
  simp [Refused]

omit [Runtime] in
theorem verifierVerdicts_learn {known learnt : FreshFacts} (learns : known.Learns learnt) (inp : SafetyCheckInput)
    (fresh : VerificationCheckInput) (preconditions : Bool) :
    List.Forall₂ KeepsRefusal (verifierVerdicts fresh preconditions (missionOf inp known) known)
      (verifierVerdicts fresh preconditions (missionOf inp learnt) learnt) := by
  have kept (verdict : Option Bool) : KeepsRefusal verdict verdict := id
  have mission : KeepsRefusal (missionOf inp known) (missionOf inp learnt) := by
    rw [missionOf, missionOf]
    split_ifs
    · exact id
    · exact missionVerdict_learn learns _
  simp only [verifierVerdicts, List.forall₂_cons, List.forall₂_nil_left_iff, kept, and_true,
    learns.live.keepsRefusal, learns.runbook.keepsRefusal, learns.rollback.keepsRefusal,
    (learns.count.map _).keepsRefusal, mission]

omit [Runtime] in
theorem verifierVerdicts_favourable (inp : SafetyCheckInput) {fresh : VerificationCheckInput} (preconditions : Bool)
    (resolved : fresh.unresolvedSemanticConflicts ≠ some true) :
    List.Forall₂ KeepsRefusal
      (verifierVerdicts fresh preconditions (missionOf inp (favourableFresh inp.missionContextHash fresh))
        (favourableFresh inp.missionContextHash fresh))
      (verifierVerdicts fresh preconditions (missionOf inp (freshFactsOf fresh)) (freshFactsOf fresh)) := by
  have kept (verdict : Option Bool) : KeepsRefusal verdict verdict := id
  have flag (known : Option Bool) : KeepsRefusal (some (known.getD true)) known := by
    simpa using keepsRefusal_getD id rfl known
  have count := keepsRefusal_getD (fun count => decide (count ≤ maxBlastRadius))
    (show decide ((0 : Int) ≤ maxBlastRadius) = true by decide) fresh.observedBlastRadiusCount
  have mission : KeepsRefusal (missionOf inp (favourableFresh inp.missionContextHash fresh))
      (missionOf inp (freshFactsOf fresh)) := by
    rw [missionOf, missionOf]
    split_ifs
    · exact id
    · exact missionVerdict_favourable _ resolved
  simp only [verifierVerdicts, List.forall₂_cons, List.forall₂_nil_left_iff, kept, true_and, and_true, mission]
  exact ⟨flag _, flag _, flag _, count⟩

omit [Runtime] in
private theorem verifierVerdicts_given {inp : SafetyCheckInput} (assessed : Assessed inp) (fresh : VerificationCheckInput)
    (preconditions : Bool) :
    ∀ verdict ∈ verifierVerdicts fresh preconditions (missionOf inp (favourableFresh inp.missionContextHash fresh))
      (favourableFresh inp.missionContextHash fresh), verdict.isSome := by
  obtain ⟨bounds, known⟩ := assessed
  have mission : (missionOf inp (favourableFresh inp.missionContextHash fresh)).isSome := by
    rw [missionOf, known, if_neg (by simp), missionVerdict, favourableFresh, assessedRadius_getD]
    split_ifs <;> rfl
  simp only [verifierVerdicts, List.forall_mem_cons, mission]
  simp [favourableFresh]

section
variable {inp : SafetyCheckInput} {checks : List Check} {draw : Draw} {fresh : VerificationCheckInput}
  {decision : VerificationDecision}

theorem verify_withFresh (built : fresh.envelope = SafetyKernel.buildEnvelopePayload inp checks draw)
    (returned : IndependentVerifier.verify fresh = .ok decision) :
    ∃ preconditions, ∀ learnt, ∃ later, IndependentVerifier.verify (withFresh fresh learnt) = .ok later ∧
      later.state = (IndependentVerifier.decideState later.checks).1 ∧
      later.checks.map Check.passed = verifierVerdicts fresh preconditions (missionOf inp learnt) learnt := by
  have sealed : fresh.envelope ≠ [] := by
    rw [built]
    exact List.cons_ne_nil _ _
  obtain ⟨verified, ran, _⟩ := (verify_ok fresh sealed).mp returned
  obtain ⟨preconditions, again⟩ := runChecks_withFresh built ran
  refine ⟨preconditions, fun learnt => ?_⟩
  obtain ⟨later, repeated, verdicts⟩ := again learnt
  exact ⟨_, (verify_ok (withFresh fresh learnt) sealed).mpr ⟨later, repeated, rfl⟩, rfl, verdicts⟩

theorem rejected_withFresh (built : fresh.envelope = SafetyKernel.buildEnvelopePayload inp checks draw)
    (returned : IndependentVerifier.verify fresh = .ok decision) (rejected : decision.state = .rejected)
    {learnt : FreshFacts} (learns : (freshFactsOf fresh).Learns learnt) :
    ∃ later, IndependentVerifier.verify (withFresh fresh learnt) = .ok later ∧ later.state = .rejected := by
  obtain ⟨preconditions, again⟩ := verify_withFresh built returned
  obtain ⟨own, same, decided, verdicts⟩ := again (freshFactsOf fresh)
  obtain rfl := Except.ok.inj (returned.symm.trans same)
  obtain ⟨later, repeated, decidedLater, verdictsLater⟩ := again learnt
  refine ⟨later, repeated, decidedLater.trans (rejected_iff.mpr ?_)⟩
  have refused := rejected_iff.mp (decided.symm.trans rejected)
  rw [verdicts] at refused
  rw [verdictsLater]
  exact refused.learn (verifierVerdicts_learn learns inp fresh preconditions)

theorem verified_favourableFresh (built : fresh.envelope = SafetyKernel.buildEnvelopePayload inp checks draw)
    (returned : IndependentVerifier.verify fresh = .ok decision) (assessed : Assessed inp)
    (unrejected : decision.state ≠ .rejected) (resolved : fresh.unresolvedSemanticConflicts ≠ some true) :
    Verified (withFresh fresh (favourableFresh inp.missionContextHash fresh)) := by
  obtain ⟨preconditions, again⟩ := verify_withFresh built returned
  obtain ⟨own, same, decided, verdicts⟩ := again (freshFactsOf fresh)
  obtain rfl := Except.ok.inj (returned.symm.trans same)
  obtain ⟨later, repeated, decidedLater, verdictsLater⟩ := again (favourableFresh inp.missionContextHash fresh)
  refine ⟨later, repeated, decidedLater.trans (decideState_verified_iff.mpr fun check inside => ?_)⟩
  have unrefused : ¬ Refused (later.checks.map Check.passed) := by
    rw [verdictsLater]
    refine fun refused => unrejected (decided.trans (rejected_iff.mpr ?_))
    rw [verdicts]
    exact refused.learn (verifierVerdicts_favourable inp preconditions resolved)
  have given : ∀ verdict ∈ later.checks.map Check.passed, verdict.isSome := by
    rw [verdictsLater]
    exact verifierVerdicts_given assessed fresh preconditions
  exact all_accepted given unrefused _ (List.mem_map_of_mem inside)

end

/-- On an envelope of the kernel a rejection is final. A verification can still succeed once the missing
facts are confirmed exactly when the kernel assessed the mission, nothing was violated, and no conflict
is already known to be unresolved. -/
theorem verifier_refusal_final {inp : SafetyCheckInput} {checks : List Check} {draw : Draw}
    {fresh : VerificationCheckInput} (built : fresh.envelope = SafetyKernel.buildEnvelopePayload inp checks draw)
    {decision : VerificationDecision} (returned : IndependentVerifier.verify fresh = .ok decision) :
    (decision.state = .rejected → ∀ learnt, (freshFactsOf fresh).Learns learnt →
      ∃ later, IndependentVerifier.verify (withFresh fresh learnt) = .ok later ∧ later.state = .rejected) ∧
    ((∃ learnt, (freshFactsOf fresh).Learns learnt ∧ Verified (withFresh fresh learnt)) ↔
      Assessed inp ∧ decision.state ≠ .rejected ∧ fresh.unresolvedSemanticConflicts ≠ some true) := by
  refine ⟨fun rejected learnt learns => rejected_withFresh built returned rejected learns, ?_, ?_⟩
  · rintro ⟨learnt, learns, confirmed⟩
    have mission := (verified_iff.mp confirmed).1.mission
    refine ⟨?_, fun rejected => ?_, fun unresolved => ?_⟩
    · obtain ⟨bounds, known⟩ := mission.1
      change Json.get fresh.envelope "mission_bounds" = _ at known
      rw [built] at known
      exact ⟨bounds, known⟩
    · obtain ⟨later, repeated, refused⟩ := rejected_withFresh built returned rejected learns
      obtain ⟨accepting, accepted, accepts⟩ := confirmed
      obtain rfl := Except.ok.inj (repeated.symm.trans accepted)
      rw [accepts] at refused
      cases refused
    · have settled : learnt.unresolvedSemanticConflicts = some false := mission.2.2
      rw [learns.conflicts true unresolved] at settled
      cases settled
  · rintro ⟨assessed, unrejected, resolved⟩
    exact ⟨_, favourableFresh_learns inp.missionContextHash fresh,
      verified_favourableFresh built returned assessed unrejected resolved⟩

end

private def destructiveAction : SafetyCheckInput := { sampleAction with sideEffectClass := "DESTRUCTIVE" }

theorem kernel_refusal_final_destructive :
    letI := Runtime.transparent
    ∃ decision, SafetyKernel.evaluate (fun _ _ => []) destructiveAction
        { producer := "safety_kernel", runId := "run-1" } ⟨0, 0⟩ ⟨0, 0⟩ = .ok decision ∧ decision.state = .blocked ∧
      ∀ learnt, (factsOf destructiveAction).Learns learnt →
        ∃ later, SafetyKernel.evaluate (fun _ _ => []) (withFacts destructiveAction learnt)
          { producer := "safety_kernel", runId := "run-1" } ⟨0, 0⟩ ⟨0, 0⟩ = .ok later ∧ later.state = .blocked := by
  let _ := Runtime.transparent
  obtain ⟨_, final, _⟩ := kernel_refusal_final (fun _ _ => []) destructiveAction
    { producer := "safety_kernel", runId := "run-1" } ⟨0, 0⟩ ⟨0, 0⟩ rfl
  exact ⟨_, rfl, by decide, final (by decide)⟩

private def awaiting [Runtime] (unresolved : Option Bool) : VerificationCheckInput where
  envelope := sampleEnvelope
  incident := sampleAction.incident
  toolName := "isolate"
  target := "deployment/web"
  targetAllowlist := {"deployment/web"}
  unresolvedSemanticConflicts := unresolved

theorem verifier_refusal_final_awaiting :
    letI := Runtime.transparent
    (∃ learnt, (freshFactsOf (awaiting none)).Learns learnt ∧ Verified (withFresh (awaiting none) learnt)) ∧
      ¬ ∃ learnt, (freshFactsOf (awaiting (some true))).Learns learnt ∧ Verified (withFresh (awaiting (some true)) learnt) := by
  let _ := Runtime.transparent
  have built (unresolved : Option Bool) : (awaiting unresolved).envelope =
      SafetyKernel.buildEnvelopePayload sampleAction ((SafetyKernel.runChecks sampleAction []).getD []) ⟨0, 0⟩ := rfl
  constructor
  · exact (verifier_refusal_final (built none) rfl).2.mpr ⟨⟨_, rfl⟩, by decide, by decide⟩
  · exact fun later => ((verifier_refusal_final (built (some true)) rfl).2.mp later).2.2 rfl

end ArgosCore.Proofs
