import ArgosCore.Foundations.Fallible
import ArgosCore.IndependentVerifier

/-! What a `VERIFIED` decision rests on. Every check but one needs its fresh fact:
a mission context hash that is missing on either side is not compared. -/

namespace ArgosCore.Proofs
open Fallible IndependentVerifier

variable [Runtime]

def Verified (inp : VerificationCheckInput) : Prop :=
  ∃ decision, verify inp = .ok decision ∧ decision.state = .verified

omit [Runtime] in
theorem decideState_verified_iff {checks : List Check} :
    (decideState checks).1 = .verified ↔ ∀ check ∈ checks, check.passed = some true := by
  apply decideOver_accept_iff
  · intro names rejected
    cases rejected
  · intro names inconclusive
    cases inconclusive

omit [Runtime] in
private theorem length_ok_iff {value : Json} {count : Nat} : length value = .ok count ↔ value.length? = some count := by
  rw [length]
  cases value.length? <;> simp

omit [Runtime] in
theorem preconditionsHold_iff {inp : VerificationCheckInput} :
    preconditionsHold inp = .ok true ↔ inp.target ∈ inp.targetAllowlist ∧
      (Json.getOr inp.envelope "target_set" (.arr [])).contains? inp.target = some true := by
  rw [preconditionsHold]
  split_ifs with allowed
  · cases (Json.getOr inp.envelope "target_set" (.arr [])).contains? inp.target <;> simp [allowed]
  · simp [allowed]

theorem blastRadiusBounded_iff {inp : VerificationCheckInput} :
    (∃ check, blastRadiusBounded inp = .ok check ∧ check.passed = some true) ↔
      ∃ count limit, inp.observedBlastRadiusCount = some count ∧
        (Json.get inp.envelope "max_blast_radius").number? = some limit ∧ count ≤ limit := by
  rw [blastRadiusBounded]
  cases inp.observedBlastRadiusCount with
  | none => simp
  | some count =>
    generalize Json.get inp.envelope "max_blast_radius" = declared
    by_cases absent : declared = .null
    · subst absent
      simp [Json.number?]
    · simp only [absent, if_false, Option.some.injEq]
      cases declared.number? with
      | none => simp
      | some limit => simp

def sealedHash (inp : VerificationCheckInput) : Json :=
  match Json.get inp.envelope "mission_bounds" with
  | .obj bounds => Json.get bounds "mission_context_hash"
  | _ => .null

def MissionReassessed (inp : VerificationCheckInput) : Prop :=
  (∃ bounds, Json.get inp.envelope "mission_bounds" = .obj bounds) ∧
    (∃ radius, inp.freshMissionBlastRadius = some radius ∧ radius ≠ "INSUFFICIENT_CONTEXT" ∧ radius ≠ "CRITICAL") ∧
    inp.unresolvedSemanticConflicts = some false

def HashNotRefuted (inp : VerificationCheckInput) : Prop :=
  ∀ fresh, inp.freshMissionContextHash = some fresh → sealedHash inp = .null ∨ sealedHash inp = .str fresh

omit [Runtime] in
private theorem hash_filter_none_iff {fresh : Option String} {hash : Json} :
    (fresh.filter fun fresh => hash ≠ .null ∧ hash ≠ .str fresh) = none ↔
      ∀ text, fresh = some text → hash = .null ∨ hash = .str text := by
  cases fresh with
  | none => simp
  | some text => simp [or_iff_not_imp_left]

theorem checkMissionConstraints_iff {inp : VerificationCheckInput} :
    (∃ mission, checkMissionConstraints inp.envelope inp = .ok mission ∧ mission.1 = some true) ↔
      MissionReassessed inp ∧ HashNotRefuted inp := by
  rw [checkMissionConstraints, HashNotRefuted, MissionReassessed, sealedHash]
  cases Json.get inp.envelope "mission_bounds" with
  | obj bounds =>
    simp only [← hash_filter_none_iff, Json.obj.injEq, exists_eq', true_and]
    cases inp.freshMissionContextHash.filter _ with
    | some fresh => simp
    | none =>
      cases inp.freshMissionBlastRadius with
      | none => simp
      | some radius =>
        simp only [Option.some.injEq, exists_eq_left', and_true]
        split_ifs with insufficient critical
        · simp [insufficient]
        · simp [critical]
        · rcases inp.unresolvedSemanticConflicts with _ | _ | _ <;> simp [insufficient, critical]
  | _ => simp

/-- Everything that a `VERIFIED` decision needs besides the mission context hash. -/
structure OtherwiseConfirmed (inp : VerificationCheckInput) : Prop where
  references : referencesResolve inp = true
  facts : factsExist inp = true
  evidence : ∃ count, (evidenceRefs inp).length? = some count
  live : inp.targetConfirmedLive = some true
  runbook : inp.runbookExists = some true
  preconditions : inp.target ∈ inp.targetAllowlist ∧
    (Json.getOr inp.envelope "target_set" (.arr [])).contains? inp.target = some true
  predicates : (Json.get inp.envelope "verification_predicates").truthy = true ∧
    ∃ count, (Json.getOr inp.envelope "verification_predicates" (.arr [])).length? = some count
  rollback : inp.rollbackDryRunOk = some true
  blastRadius : ∃ count limit, inp.observedBlastRadiusCount = some count ∧
    (Json.get inp.envelope "max_blast_radius").number? = some limit ∧ count ≤ limit
  mission : MissionReassessed inp

private theorem verified_runChecks {inp : VerificationCheckInput} :
    Verified inp ↔ inp.envelope ≠ [] ∧
      ∃ checks, runChecks inp = .ok checks ∧ ∀ check ∈ checks, check.passed = some true := by
  rw [Verified, verify]
  split_ifs with empty
  · simp [empty]
  · simp only [bind_ok_iff, ← decideState_verified_iff]
    constructor
    · intro ⟨decision, ⟨checks, ran, made⟩, verified⟩
      cases made
      exact ⟨empty, checks, ran, verified⟩
    · rintro ⟨_, checks, ran, verified⟩
      exact ⟨_, ⟨checks, ran, rfl⟩, verified⟩

theorem verified_iff {inp : VerificationCheckInput} : Verified inp ↔ OtherwiseConfirmed inp ∧ HashNotRefuted inp := by
  rw [verified_runChecks]
  constructor
  · rintro ⟨_, checks, ran, passed⟩
    simp only [runChecks, bind_ok_iff] at ran
    obtain ⟨preconditions, holds, blast, bounded, mission, respected, evidence, counted, predicates, measured, made⟩ := ran
    cases made
    simp only [List.forall_mem_cons, Option.some.injEq] at passed
    obtain ⟨references, facts, live, runbook, rfl, measurable, rollback, within, fits, _⟩ := passed
    obtain ⟨reassessed, hash⟩ := checkMissionConstraints_iff.mp ⟨mission, respected, fits⟩
    exact ⟨{
      references, facts, live, runbook, rollback
      evidence := ⟨evidence, length_ok_iff.mp counted⟩
      preconditions := preconditionsHold_iff.mp holds
      predicates := ⟨measurable, predicates, length_ok_iff.mp measured⟩
      blastRadius := blastRadiusBounded_iff.mp ⟨blast, bounded, within⟩
      mission := reassessed }, hash⟩
  · intro ⟨confirmed, hash⟩
    obtain ⟨evidence, counted⟩ := confirmed.evidence
    obtain ⟨measurable, predicates, measured⟩ := confirmed.predicates
    obtain ⟨blast, bounded, within⟩ := blastRadiusBounded_iff.mpr confirmed.blastRadius
    obtain ⟨mission, respected, fits⟩ := checkMissionConstraints_iff.mpr ⟨confirmed.mission, hash⟩
    constructor
    · intro empty
      rw [empty] at measurable
      cases measurable
    · simp only [runChecks, bind_ok_iff]
      refine ⟨_, ⟨true, preconditionsHold_iff.mpr confirmed.preconditions, blast, bounded, mission, respected, evidence,
        length_ok_iff.mpr counted, predicates, length_ok_iff.mpr measured, rfl⟩, ?_⟩
      simp only [List.forall_mem_cons, List.not_mem_nil, false_implies, implies_true, and_true, Option.some.injEq]
      exact ⟨confirmed.references, confirmed.facts, confirmed.live, confirmed.runbook, trivial, measurable,
        confirmed.rollback, within, fits⟩

def HashReconfirmed (inp : VerificationCheckInput) : Prop :=
  ∃ fresh, inp.freshMissionContextHash = some fresh ∧ sealedHash inp = .str fresh

structure FactsReconfirmed (inp : VerificationCheckInput) : Prop where
  targetConfirmedLive : inp.targetConfirmedLive ≠ none
  runbookExists : inp.runbookExists ≠ none
  rollbackDryRunOk : inp.rollbackDryRunOk ≠ none
  observedBlastRadiusCount : inp.observedBlastRadiusCount ≠ none
  freshMissionBlastRadius : inp.freshMissionBlastRadius ≠ none
  unresolvedSemanticConflicts : inp.unresolvedSemanticConflicts ≠ none
  missionBounds : Json.get inp.envelope "mission_bounds" ≠ .null
  missionContextHash : HashReconfirmed inp

structure Withheld (inp withheld : VerificationCheckInput) : Prop where
  envelope : withheld.envelope = inp.envelope
  incident : withheld.incident = inp.incident
  toolName : withheld.toolName = inp.toolName
  target : withheld.target = inp.target
  targetAllowlist : withheld.targetAllowlist = inp.targetAllowlist
  targetConfirmedLive : withheld.targetConfirmedLive = inp.targetConfirmedLive ∨ withheld.targetConfirmedLive = none
  runbookExists : withheld.runbookExists = inp.runbookExists ∨ withheld.runbookExists = none
  rollbackDryRunOk : withheld.rollbackDryRunOk = inp.rollbackDryRunOk ∨ withheld.rollbackDryRunOk = none
  observedBlastRadiusCount : withheld.observedBlastRadiusCount = inp.observedBlastRadiusCount ∨
    withheld.observedBlastRadiusCount = none
  freshMissionContextHash : withheld.freshMissionContextHash = inp.freshMissionContextHash ∨
    withheld.freshMissionContextHash = none
  freshMissionBlastRadius : withheld.freshMissionBlastRadius = inp.freshMissionBlastRadius ∨
    withheld.freshMissionBlastRadius = none
  unresolvedSemanticConflicts : withheld.unresolvedSemanticConflicts = inp.unresolvedSemanticConflicts ∨
    withheld.unresolvedSemanticConflicts = none

omit [Runtime] in
private theorem supplied_of_withheld {α : Type} {given kept : Option α} {value : α}
    (withheld : kept = given ∨ kept = none) (found : kept = some value) : given = some value := by
  rcases withheld with same | absent
  · exact same ▸ found
  · cases absent.symm.trans found

omit [Runtime] in
theorem Withheld.otherwiseConfirmed {inp withheld : VerificationCheckInput} (same : Withheld inp withheld)
    (confirmed : OtherwiseConfirmed withheld) : OtherwiseConfirmed inp := by
  obtain ⟨count, limit, observed, declared, within⟩ := confirmed.blastRadius
  obtain ⟨bounds, ⟨radius, reassessed, bounded⟩, resolved⟩ := confirmed.mission
  refine {
    references := ?_
    facts := ?_
    evidence := ?_
    live := supplied_of_withheld same.targetConfirmedLive confirmed.live
    runbook := supplied_of_withheld same.runbookExists confirmed.runbook
    preconditions := ?_
    predicates := ?_
    rollback := supplied_of_withheld same.rollbackDryRunOk confirmed.rollback
    blastRadius := ⟨count, limit, supplied_of_withheld same.observedBlastRadiusCount observed, ?_, within⟩
    mission := ⟨?_, ⟨radius, supplied_of_withheld same.freshMissionBlastRadius reassessed, bounded⟩,
      supplied_of_withheld same.unresolvedSemanticConflicts resolved⟩ }
  · simpa only [referencesResolve, same.envelope, same.incident, same.toolName] using confirmed.references
  · simpa only [factsExist, evidenceRefs, same.envelope, same.incident] using confirmed.facts
  · simpa only [evidenceRefs, same.incident] using confirmed.evidence
  · simpa only [same.envelope, same.target, same.targetAllowlist] using confirmed.preconditions
  · simpa only [same.envelope] using confirmed.predicates
  · rwa [same.envelope] at declared
  · rwa [same.envelope] at bounds

/-- `VERIFIED` stands for reconfirmed facts, and withholding a fact never brings it
about, exactly when everything else failing or the hash itself being reconfirmed
makes up for the comparison that is skipped. -/
theorem facts_reconfirmed_iff (inp : VerificationCheckInput) :
    ((Verified inp → FactsReconfirmed inp) ∧ ∀ withheld, Withheld inp withheld → Verified withheld → Verified inp) ↔
      (OtherwiseConfirmed inp → HashReconfirmed inp) := by
  constructor
  · intro ⟨facts, stable⟩ confirmed
    have same : Withheld inp { inp with freshMissionContextHash := none } :=
      ⟨rfl, rfl, rfl, rfl, rfl, .inl rfl, .inl rfl, .inl rfl, .inl rfl, .inr rfl, .inl rfl, .inl rfl⟩
    have kept : Verified { inp with freshMissionContextHash := none } :=
      verified_iff.mpr ⟨{ confirmed with }, fun fresh supplied => by cases supplied⟩
    exact (facts (stable _ same kept)).missionContextHash
  · intro hash
    constructor
    · intro verified
      obtain ⟨confirmed, _⟩ := verified_iff.mp verified
      obtain ⟨count, limit, observed, _⟩ := confirmed.blastRadius
      obtain ⟨⟨bounds, sealed⟩, ⟨radius, reassessed, _⟩, resolved⟩ := confirmed.mission
      constructor
      · simp [confirmed.live]
      · simp [confirmed.runbook]
      · simp [confirmed.rollback]
      · simp [observed]
      · simp [reassessed]
      · simp [resolved]
      · simp [sealed]
      · exact hash confirmed
    · intro withheld same verified
      have confirmed := same.otherwiseConfirmed (verified_iff.mp verified).1
      refine verified_iff.mpr ⟨confirmed, ?_⟩
      intro fresh supplied
      obtain ⟨other, again, sealed⟩ := hash confirmed
      rw [supplied] at again
      cases again
      exact .inr sealed

def sampleVerification (fresh : Option String) : VerificationCheckInput where
  envelope := [("incident_ref", .str "incident-1"), ("target_set", .arr [.str "deployment/web"]),
    ("max_blast_radius", .int 2), ("required_runbook", .str "runbooks/isolate.md"), ("rollback_ref", .str "rollback/isolate"),
    ("verification_predicates", .arr [.str "rollback_supported"]),
    ("mission_bounds", .obj [("mission_blast_radius", .str "LOW"), ("mission_context_hash", .str "sha256:00")])]
  incident := [("incident_id", .str "incident-1"), ("evidence_refs", .arr [.str "alert-1"])]
  toolName := "isolate"
  target := "deployment/web"
  targetAllowlist := {"deployment/web"}
  targetConfirmedLive := some true
  runbookExists := some true
  rollbackDryRunOk := some true
  observedBlastRadiusCount := some 1
  freshMissionContextHash := fresh
  freshMissionBlastRadius := some "LOW"
  unresolvedSemanticConflicts := some false

omit [Runtime] in
private theorem sampleVerification_confirmed (fresh : Option String) : OtherwiseConfirmed (sampleVerification fresh) where
  references := rfl
  facts := rfl
  evidence := ⟨1, rfl⟩
  live := rfl
  runbook := rfl
  preconditions := ⟨Finset.mem_singleton_self _, rfl⟩
  predicates := ⟨rfl, 1, rfl⟩
  rollback := rfl
  blastRadius := ⟨1, 2, rfl, rfl, by decide⟩
  mission := ⟨⟨_, rfl⟩, ⟨"LOW", rfl, by decide, by decide⟩, rfl⟩

omit [Runtime] in
/-- An outdated mission context is noticed, unless the fresh hash is withheld. -/
theorem withheld_hash_verifies :
    letI := Runtime.transparent
    Verified (sampleVerification none) ∧ ¬ FactsReconfirmed (sampleVerification none) ∧
      Withheld (sampleVerification (some "sha256:01")) (sampleVerification none) ∧
      ¬ Verified (sampleVerification (some "sha256:01")) := by
  let _ := Runtime.transparent
  refine ⟨verified_iff.mpr ⟨sampleVerification_confirmed none, fun fresh supplied => by cases supplied⟩, ?_, ?_, ?_⟩
  · intro facts
    obtain ⟨fresh, supplied, _⟩ := facts.missionContextHash
    cases supplied
  · exact ⟨rfl, rfl, rfl, rfl, rfl, .inl rfl, .inl rfl, .inl rfl, .inl rfl, .inr rfl, .inl rfl, .inl rfl⟩
  · intro verified
    rcases (verified_iff.mp verified).2 "sha256:01" rfl with absent | same
    · cases absent
    · exact absurd same (by decide)

end ArgosCore.Proofs
