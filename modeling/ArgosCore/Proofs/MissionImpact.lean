import ArgosCore.MissionContext
import ArgosCore.SafetyKernel

/-! From a mission context to the check of the safety kernel. A level is low because
someone assessed the asset as low, or because the criticality is not one of the four. -/

namespace ArgosCore.Proofs

def recognisedCriticalities : List String := ["low", "medium", "high", "critical"]

def informed (inp : SafetyCheckInput) (assessment : BlastRadiusAssessment) : SafetyCheckInput :=
  { inp with missionBlastRadius := some assessment.missionBlastRadius.text }

theorem criticalityRank_pos_iff (criticality : String) :
    0 < criticalityRank criticality ↔ criticality ∈ recognisedCriticalities := by
  unfold criticalityRank recognisedCriticalities
  split <;> simp_all

theorem criticalityRank_eq_one_iff (criticality : String) : criticalityRank criticality = 1 ↔ criticality = "low" := by
  unfold criticalityRank
  split <;> simp_all

theorem criticalityRank_eq_two_iff (criticality : String) : criticalityRank criticality = 2 ↔ criticality = "medium" := by
  unfold criticalityRank
  split <;> simp_all

variable [Runtime]

theorem missionLevel_full {known : MissionContext} {criticality : String} {crownJewel : Bool} {count : Int}
    (assessed : known.criticality = some criticality) (flagged : known.crownJewel = some crownJewel)
    (affected : 0 < count) :
    (missionLevel (some known) (some count)).1 =
      if crownJewel then .critical
      else if 3 ≤ criticalityRank criticality then .high
      else if criticalityRank criticality = 2 then .medium
      else .low := by
  simp only [missionLevel, MissionContext.hasSufficientContext, assessed, flagged, Option.isSome_some, Bool.and_self,
    Bool.not_true, Bool.false_eq_true, if_false, Option.getD_some, Option.some.injEq, if_neg (by omega : count ≠ 0)]
  split_ifs <;> rfl

theorem missionLevel_cases (context : Option MissionContext) {count : Option Int} (affected : ∀ n, count = some n → 0 < n) :
    (missionLevel context count).1 = .insufficientContext ∨
      ∃ known criticality crownJewel n, context = some known ∧ known.criticality = some criticality ∧
        known.crownJewel = some crownJewel ∧ count = some n ∧ 0 < n := by
  cases context with
  | none => exact .inl rfl
  | some known =>
    cases assessed : known.criticality with
    | none => left; simp [missionLevel, MissionContext.hasSufficientContext, assessed]
    | some criticality =>
      cases flagged : known.crownJewel with
      | none => left; simp [missionLevel, MissionContext.hasSufficientContext, flagged]
      | some crownJewel =>
        cases count with
        | none => left; simp [missionLevel, MissionContext.hasSufficientContext, assessed, flagged]
        | some n => exact .inr ⟨known, criticality, crownJewel, n, rfl, assessed, flagged, rfl, affected n rfl⟩

theorem check_of_runChecks {inp : SafetyCheckInput} {incidentErrors : List String} {checks : List Check}
    (ran : SafetyKernel.runChecks inp incidentErrors = some checks) {check : Check} (member : check ∈ checks)
    (named : check.name = "mission_impact_bounded") : check = SafetyKernel.missionImpactBounded inp := by
  simp only [SafetyKernel.runChecks, Option.bind_eq_bind, Option.bind_eq_some_iff, Option.pure_def,
    Option.some.injEq] at ran
  obtain ⟨_, _, rfl⟩ := ran
  simp only [List.mem_cons, List.not_mem_nil, or_false] at member
  rcases member with rfl | rfl | rfl | rfl | rfl | rfl | rfl | rfl | rfl | rfl | rfl | rfl | rfl | rfl <;>
    first | rfl | exact absurd named (by simp [SafetyKernel.targetExists, SafetyKernel.toolDigestValid,
      SafetyKernel.blastRadiusBounded, SafetyKernel.noUnresolvedCriticalDrift, SafetyKernel.noProhibitedAction])

/-- Nothing that is known of the asset is a criticality or makes it a crown jewel. -/
def Unassessed (context : Option MissionContext) : Prop :=
  ∀ known, context = some known → known.crownJewel ≠ some true ∧
    ∀ criticality, known.criticality = some criticality → criticality ∉ recognisedCriticalities

structure NeverLowUnassessed (context : Option MissionContext) (count : Option Int) (refs : List String) : Prop where
  low : (assessBlastRadius context count refs).missionBlastRadius ∈ [MissionImpactLevel.low, .medium] →
    ∃ known, context = some known ∧ known.crownJewel = some false ∧
      (known.criticality = some "low" ∨ known.criticality = some "medium")
  insufficient : Unassessed context →
    (assessBlastRadius context count refs).missionBlastRadius = .insufficientContext
  unbounded : Unassessed context → ∀ (inp : SafetyCheckInput) (incidentErrors : List String) (checks : List Check),
    SafetyKernel.runChecks (informed inp (assessBlastRadius context count refs)) incidentErrors = some checks →
    ∀ check ∈ checks, check.name = "mission_impact_bounded" → check.passed ≠ some true

/-- Without a count, without a flag or for a crown jewel the criticality does not matter;
otherwise it is one of the four. -/
def CriticalityRecognised (context : Option MissionContext) (count : Option Int) : Prop :=
  count = none ∨ ∀ known, context = some known → known.crownJewel ≠ some false ∨
    ∀ criticality, known.criticality = some criticality → criticality ∈ recognisedCriticalities

theorem mission_check_insufficient (inp : SafetyCheckInput) {assessment : BlastRadiusAssessment}
    (insufficient : assessment.missionBlastRadius = .insufficientContext) :
    (SafetyKernel.missionImpactBounded (informed inp assessment)).passed = none := by
  simp only [SafetyKernel.missionImpactBounded, informed, insufficient]
  rfl

section
variable {context : Option MissionContext} {count : Option Int}

/-- With an unrecognised criticality nothing is known of the asset, and its level is low all the same. -/
theorem low_of_unrecognised (affected : ∀ n, count = some n → 0 < n) (unrecognised : ¬ CriticalityRecognised context count) :
    Unassessed context ∧ (missionLevel context count).1 = .low := by
  simp only [CriticalityRecognised, not_or, not_forall, not_not] at unrecognised
  obtain ⟨counted, known, rfl, plain, criticality, assessed, unknown⟩ := unrecognised
  obtain ⟨n, rfl⟩ := Option.ne_none_iff_exists'.mp counted
  constructor
  · intro other same
    obtain rfl := Option.some.inj same
    refine ⟨by simp [plain], ?_⟩
    intro other same
    obtain rfl := Option.some.inj (assessed.symm.trans same)
    exact unknown
  · have rankless : criticalityRank criticality = 0 := by
      rw [← criticalityRank_pos_iff] at unknown
      omega
    rw [missionLevel_full assessed plain (affected n rfl)]
    simp [rankless]

omit [Runtime] in
theorem CriticalityRecognised.rank_pos (recognised : CriticalityRecognised context count) {known : MissionContext}
    {criticality : String} {n : Int} (same : context = some known) (assessed : known.criticality = some criticality)
    (plain : known.crownJewel = some false) (counted : count = some n) : 0 < criticalityRank criticality := by
  rw [criticalityRank_pos_iff]
  rcases recognised with none | recognised
  · cases none.symm.trans counted
  · exact (recognised known same).resolve_left (not_not.mpr plain) criticality assessed

theorem insufficient_of_unassessed (affected : ∀ n, count = some n → 0 < n)
    (recognised : CriticalityRecognised context count) (unassessed : Unassessed context) :
    (missionLevel context count).1 = .insufficientContext := by
  rcases missionLevel_cases context affected with
    insufficient | ⟨known, criticality, crownJewel, n, same, assessed, flagged, counted, _⟩
  · exact insufficient
  · obtain ⟨plain, unrecognised⟩ := unassessed known same
    cases crownJewel with
    | true => exact absurd flagged plain
    | false =>
      have rank := recognised.rank_pos same assessed flagged counted
      exact absurd ((criticalityRank_pos_iff criticality).mp rank) (unrecognised criticality assessed)

theorem assessed_of_low (affected : ∀ n, count = some n → 0 < n) (recognised : CriticalityRecognised context count)
    (low : (missionLevel context count).1 ∈ [MissionImpactLevel.low, .medium]) :
    ∃ known, context = some known ∧ known.crownJewel = some false ∧
      (known.criticality = some "low" ∨ known.criticality = some "medium") := by
  rcases missionLevel_cases context affected with
    insufficient | ⟨known, criticality, crownJewel, n, rfl, assessed, flagged, rfl, positive⟩
  · simp [insufficient] at low
  · rw [missionLevel_full assessed flagged positive] at low
    cases crownJewel with
    | true => simp at low
    | false =>
      have rank := recognised.rank_pos rfl assessed flagged rfl
      refine ⟨known, rfl, flagged, ?_⟩
      simp only [assessed, Option.some.injEq, ← criticalityRank_eq_one_iff, ← criticalityRank_eq_two_iff]
      simp only [Bool.false_eq_true, if_false] at low
      split_ifs at low with high medium
      · simp at low
      · exact .inr medium
      · exact .inl (by omega)

end

/-- An unrecognised criticality is the one way to a low impact that nobody assessed. -/
theorem never_low_unassessed_iff (context : Option MissionContext) (count : Option Int) (refs : List String)
    (affected : ∀ n, count = some n → 0 < n) :
    NeverLowUnassessed context count refs ↔ CriticalityRecognised context count := by
  have level : (assessBlastRadius context count refs).missionBlastRadius = (missionLevel context count).1 := rfl
  constructor
  · intro never
    by_contra unrecognised
    obtain ⟨unassessed, low⟩ := low_of_unrecognised affected unrecognised
    have insufficient := never.insufficient unassessed
    rw [level, low] at insufficient
    cases insufficient
  · intro recognised
    have insufficient (unassessed : Unassessed context) :
        (assessBlastRadius context count refs).missionBlastRadius = .insufficientContext :=
      insufficient_of_unassessed affected recognised unassessed
    refine ⟨assessed_of_low affected recognised, insufficient, ?_⟩
    intro unassessed inp incidentErrors checks ran check member named
    rw [check_of_runChecks ran member named, mission_check_insufficient inp (insufficient unassessed)]
    simp

omit [Runtime] in
theorem never_low_unassessed_low_asset :
    letI := Runtime.transparent
    NeverLowUnassessed (some (buildMissionContext
      { entityId := "asset-x", sourceId := "mission-registry", criticality := some "low", crownJewel := some false }
      ⟨0, 0⟩)) (some 3) [] := by
  let _ := Runtime.transparent
  apply (never_low_unassessed_iff _ (some 3) [] (by simp)).mpr
  right
  intro known same
  cases same
  right
  intro criticality assessed
  cases assessed
  simp [recognisedCriticalities]

/-- An asset whose registry writes the criticality in capitals. -/
def capitalisedContext : MissionContext where
  missionContextId := "msnctx-1"
  entityId := "asset-x"
  criticality := some "CRITICAL"
  crownJewel := some false
  acceptableDegradation := none
  maximumOutage := none
  recoveryPriority := none
  dependencies := []
  sourceId := "mission-registry"
  observedAt := "2026-08-11T10:00:00+00:00"
  validFrom := "2026-08-11T10:00:00+00:00"
  validUntil := none

omit [Runtime] in
/-- Its impact is low, and the kernel passes it as bounded. -/
theorem capitalised_criticality_low :
    letI := Runtime.transparent
    (assessBlastRadius (some capitalisedContext) (some 3) []).missionBlastRadius = .low ∧
      (∀ inp, (SafetyKernel.missionImpactBounded
        (informed inp (assessBlastRadius (some capitalisedContext) (some 3) []))).passed = some true) ∧
      ¬ NeverLowUnassessed (some capitalisedContext) (some 3) [] := by
  let _ := Runtime.transparent
  refine ⟨rfl, fun inp => rfl, ?_⟩
  intro never
  obtain ⟨known, same, _, named⟩ := never.low (by simp [assessBlastRadius, missionLevel, capitalisedContext,
    MissionContext.hasSufficientContext, criticalityRank])
  cases same
  simp [capitalisedContext] at named

end ArgosCore.Proofs
