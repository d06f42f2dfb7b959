import ArgosCore.Proofs.FederationReplay
import ArgosCore.Proofs.TemporalInstants

/-! The validity of accepted artifacts in real time. A decision compares the end of the
interval with the clock as text, and never looks at its beginning. -/

namespace ArgosCore.Proofs
open IsoTime

section
variable [Runtime]

def unlimited (call : FederationCall) : FederationCall :=
  { call with artifact := { call.artifact with validUntil := none } }

/-- The artifact is refused, or waits, for another reason than its validity. -/
def StoppedAnyway (state : FederationState) (call : FederationCall) (now : String) : Prop :=
  ¬ Acceptable (unlimited call) now ∨ state.registry.isRevoked call.artifact.artifactId = true ∨
    state.ledger.seen.Conflicts call.artifact.artifactId call.artifact.contentHash

theorem acceptable_iff_unlimited (call : FederationCall) (now : String) :
    Acceptable call now ↔ Acceptable (unlimited call) now ∧ expired call.artifact now = false := by
  constructor
  · intro acceptable
    exact ⟨{ acceptable with fresh := rfl }, acceptable.fresh⟩
  · intro ⟨acceptable, fresh⟩
    exact { acceptable with fresh }

omit [Runtime] in
theorem expired_iff {artifact : FederatedArtifact} {limit : String} (bounded : artifact.validUntil = some limit)
    (now : String) : expired artifact now = true ↔ limit < now := by
  simp [expired, bounded]

/-- With an end of its validity, an artifact is accepted unless something else stops it
or the text of the end sorts before that of the clock. -/
theorem accept_iff_limit {state : FederationState} {call : FederationCall} {draw : Draw} {limit : String}
    (bounded : call.artifact.validUntil = some limit) :
    (state.evaluate call draw).decision = .accept ↔
      ¬ StoppedAnyway state call (call.effectiveNow draw) ∧ ¬ limit < call.effectiveNow draw := by
  rw [accept_iff, acceptable_iff_unlimited, ← expired_iff bounded, StoppedAnyway]
  simp only [not_or, not_not, Bool.not_eq_true]
  tauto

structure Timed (call : FederationCall) (draw : Draw) (validFrom validUntil now : Instant) : Prop where
  start : instantOf call.artifact.validFrom = some validFrom
  finish : ∃ limit, call.artifact.validUntil = some limit ∧ instantOf limit = some validUntil
  current : instantOf (call.effectiveNow draw) = some now

/-- The text of the end sorts before that of the clock. -/
def TextExpired (call : FederationCall) (draw : Draw) : Prop :=
  ∃ limit, call.artifact.validUntil = some limit ∧ limit < call.effectiveNow draw

theorem accepted_within_validity_iff {state : FederationState} {call : FederationCall} {draw : Draw}
    {validFrom validUntil now : Instant} (timed : Timed call draw validFrom validUntil now) :
    ((state.evaluate call draw).decision = .accept → validFrom ≤ now ∧ now ≤ validUntil) ↔
      StoppedAnyway state call (call.effectiveNow draw) ∨ TextExpired call draw ∨
        validFrom ≤ now ∧ (validUntil < now → TextExpired call draw) := by
  obtain ⟨limit, bounded, _⟩ := timed.finish
  have textual : TextExpired call draw ↔ limit < call.effectiveNow draw := by simp [TextExpired, bounded]
  rw [accept_iff_limit bounded, textual]
  constructor
  · intro within
    by_cases stopped : StoppedAnyway state call (call.effectiveNow draw)
    · exact .inl stopped
    · by_cases late : limit < call.effectiveNow draw
      · exact .inr (.inl late)
      · obtain ⟨begun, unfinished⟩ := within ⟨stopped, late⟩
        exact .inr (.inr ⟨begun, fun past => absurd past (not_lt.mpr unfinished)⟩)
  · intro condition ⟨unstopped, early⟩
    obtain ⟨begun, agrees⟩ := (condition.resolve_left unstopped).resolve_left early
    exact ⟨begun, not_lt.mp fun past => early (agrees past)⟩

def datedCall (validFrom validUntil now : String) : FederationCall :=
  { peerCall with
    artifact := { peerArtifact with validFrom, validUntil := some validUntil }
    now := some now }

theorem datedCall_effectiveNow (validFrom validUntil : String) {now : String} (given : now ≠ "") :
    (datedCall validFrom validUntil now).effectiveNow someDraw = now := by
  simp [FederationCall.effectiveNow, datedCall, orDefault, Option.filter_some, given]

theorem datedCall_accepted (validFrom : String) {validUntil now : String} (given : now ≠ "")
    (unexpired : ¬ validUntil < now) :
    (FederationState.evaluate {} (datedCall validFrom validUntil now) someDraw).decision = .accept := by
  rw [accept_iff_limit rfl, datedCall_effectiveNow _ _ given, StoppedAnyway]
  have acceptable : Acceptable (unlimited (datedCall validFrom validUntil now)) now :=
    { peerCall_acceptable with fresh := rfl }
  refine ⟨?_, unexpired⟩
  rintro (refused | revoked | conflicting)
  · exact refused acceptable
  · cases revoked
  · simp [Dict.Conflicts] at conflicting

end

theorem accepted_within_validity_peer :
    letI := Runtime.transparent
    let call := datedCall "2026-01-01T00:00:00Z" "2026-02-01T00:00:00Z" "2026-01-15T00:00:00+00:00"
    Timed call someDraw 1767225600000000 1769904000000000 1768435200000000 ∧
      (((FederationState.evaluate {} call someDraw).decision = .accept →
          (1767225600000000 : Instant) ≤ 1768435200000000 ∧ (1768435200000000 : Instant) ≤ 1769904000000000) ↔
        StoppedAnyway {} call (call.effectiveNow someDraw) ∨ TextExpired call someDraw ∨
          (1767225600000000 : Instant) ≤ 1768435200000000 ∧
            ((1769904000000000 : Instant) < 1768435200000000 → TextExpired call someDraw)) := by
  let _ := Runtime.transparent
  have timed : Timed (datedCall "2026-01-01T00:00:00Z" "2026-02-01T00:00:00Z" "2026-01-15T00:00:00+00:00") someDraw
      1767225600000000 1769904000000000 1768435200000000 :=
    ⟨by decide, ⟨_, rfl, by decide⟩, by decide⟩
  exact ⟨timed, accepted_within_validity_iff timed⟩

def earlyCall [Runtime] : FederationCall :=
  datedCall "2027-01-01T00:00:00Z" "2028-01-01T00:00:00Z" "2026-01-01T00:00:00+00:00"

/-- Its validity ended half a second ago. The clock of the service writes a fraction,
which sorts before `Z`. -/
def lateCall [Runtime] : FederationCall :=
  datedCall "2025-01-01T00:00:00Z" "2026-01-01T00:00:00Z" "2026-01-01T00:00:00.500000+00:00"

theorem accepted_outside_validity :
    letI := Runtime.transparent
    (Timed earlyCall someDraw 1798761600000000 1830297600000000 1767225600000000 ∧
        (FederationState.evaluate {} earlyCall someDraw).decision = .accept ∧
        ¬ (1798761600000000 : Instant) ≤ 1767225600000000) ∧
      Timed lateCall someDraw 1735689600000000 1767225600000000 1767225600500000 ∧
        (FederationState.evaluate {} lateCall someDraw).decision = .accept ∧
        ¬ (1767225600500000 : Instant) ≤ 1767225600000000 := by
  let _ := Runtime.transparent
  have early : ¬ "2028-01-01T00:00:00Z" < "2026-01-01T00:00:00+00:00" := by
    rw [String.lt_iff_toList_lt]
    decide
  have late : ¬ "2026-01-01T00:00:00Z" < "2026-01-01T00:00:00.500000+00:00" := by
    rw [String.lt_iff_toList_lt]
    decide
  exact ⟨⟨⟨by decide, ⟨_, rfl, by decide⟩, by decide⟩, datedCall_accepted _ (by decide) early, by decide⟩,
    ⟨by decide, ⟨_, rfl, by decide⟩, by decide⟩, datedCall_accepted _ (by decide) late, by decide⟩

end ArgosCore.Proofs
