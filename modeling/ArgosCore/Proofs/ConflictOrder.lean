import ArgosCore.Proofs.ConflictRuling

/-! The order of arrival decides neither the exit of a resolution nor the value that wins:
the exit counts claims, and the claims that it chooses from have one value. -/

namespace ArgosCore.Proofs

inductive SameWinner (authorityRanking : Option (Dict Int)) (one other : SemanticConflict) : Prop
  | nobody (first : one.winningSource = none) (second : other.winningSource = none) : SameWinner authorityRanking one other
  | somebody {winner rival : SourceClaim} (first : NamesWinner authorityRanking one winner)
      (second : NamesWinner authorityRanking other rival) (value : winner.value.number = rival.value.number) :
      SameWinner authorityRanking one other

/-- Equal apart from which of several claims with the winning value is named. -/
structure SameResolution (authorityRanking : Option (Dict Int)) (one other : SemanticConflict) : Prop where
  state : one.state = other.state
  rule : one.rule = other.rule
  reasonCode : one.reasonCode = other.reasonCode
  winner : SameWinner authorityRanking one other
  rejected : ∀ source, source ∈ one.rejectedSources ↔ source ∈ other.rejectedSources

section
variable {ranking : Dict Int} {left right : List SourceClaim} {winner other : SourceClaim}

theorem winningClaim_eq_none_congr (perm : left.Perm right) :
    winningClaim ranking left = none ↔ winningClaim ranking right = none := by
  simp only [winningClaim, List.head?_eq_none_iff, exitOf_perm perm]
  rw [← List.length_eq_zero_iff, (candidates_perm perm _).length_eq, List.length_eq_zero_iff]

theorem mem_candidates_perm (perm : left.Perm right) (named : winningClaim ranking right = some other) :
    other ∈ (exitOf ranking left).candidates ranking left := by
  rw [winningClaim] at named
  rw [(candidates_perm perm _).mem_iff, exitOf_perm perm]
  exact List.mem_of_head? named

theorem winner_perm (perm : left.Perm right) (first : winningClaim ranking left = some winner)
    (second : winningClaim ranking right = some other) :
    winner.value.number = other.value.number ∧
      ∀ claim, (exitOf ranking left).rejects (some winner) claim = (exitOf ranking left).rejects (some other) claim := by
  have wins := wins_of_winningClaim first
  have candidate := mem_candidates_perm perm second
  generalize exitOf ranking left = exit at wins candidate
  cases wins with
  | agreement agree member => exact ⟨agree winner member other candidate, fun _ => rfl⟩
  | alone _ top =>
    rw [Exit.candidates, top, List.mem_singleton] at candidate
    simp [candidate]
  | tierAgrees _ agree top =>
    have same := agree winner top other candidate
    exact ⟨same, fun claim => by simp [Exit.rejects, same]⟩
  | freshest _ _ latest =>
    rw [Exit.candidates, latest, List.mem_singleton] at candidate
    simp [candidate]

end

section
variable (entityId attributeName : String) (classifiedAs : ConflictClassification) (authorityRanking : Option (Dict Int))
  (draw draw' : Draw) {claims arrived : List SourceClaim}

theorem sameWinner_of_perm (perm : arrived.Perm claims) :
    SameWinner authorityRanking (resolveConflict entityId attributeName arrived classifiedAs authorityRanking draw)
      (resolveConflict entityId attributeName claims classifiedAs authorityRanking draw') := by
  have unnamed : winningClaim (authorityRanking.getD []) arrived = none ↔
      winningClaim (authorityRanking.getD []) claims = none := winningClaim_eq_none_congr perm
  cases named : winningClaim (authorityRanking.getD []) arrived with
  | none =>
    exact .nobody ((winningSource_eq_none_iff ..).mpr named) ((winningSource_eq_none_iff ..).mpr (unnamed.mp named))
  | some winner =>
    obtain ⟨rival, namedToo⟩ := Option.ne_none_iff_exists'.mp (mt unnamed.mpr (by simp [named]))
    exact .somebody ((namesWinner_iff ..).mpr named) ((namesWinner_iff ..).mpr namedToo) (winner_perm perm named namedToo).1

/-- Which claims are rejected does not depend on which of several equal claims wins. -/
theorem rejects_perm {ranking : Dict Int} (perm : arrived.Perm claims) (claim : SourceClaim) :
    (exitOf ranking arrived).rejects (winningClaim ranking arrived) claim =
      (exitOf ranking arrived).rejects (winningClaim ranking claims) claim := by
  have unnamed : winningClaim ranking arrived = none ↔ winningClaim ranking claims = none := winningClaim_eq_none_congr perm
  cases named : winningClaim ranking arrived with
  | none => rw [unnamed.mp named]
  | some winner =>
    obtain ⟨rival, namedToo⟩ := Option.ne_none_iff_exists'.mp (mt unnamed.mpr (by simp [named]))
    rw [namedToo]
    exact (winner_perm perm named namedToo).2 claim

theorem arrival_order_ignored (perm : arrived.Perm claims) :
    SameResolution authorityRanking (resolveConflict entityId attributeName arrived classifiedAs authorityRanking draw)
      (resolveConflict entityId attributeName claims classifiedAs authorityRanking draw') := by
  have first := resolveConflict_ruling entityId attributeName arrived classifiedAs authorityRanking draw
  have second := resolveConflict_ruling entityId attributeName claims classifiedAs authorityRanking draw'
  rw [← exitOf_perm perm] at second
  constructor
  · rw [first.state, second.state]
  · rw [first.rule, second.rule]
  · rw [first.reasonCode, second.reasonCode, perm.length_eq]
  · exact sameWinner_of_perm entityId attributeName classifiedAs authorityRanking draw draw' perm
  · intro source
    rw [first.rejectedSources, second.rejectedSources]
    simp only [rejects_perm perm]
    exact ((perm.filter _).map _).mem_iff

end

def claimOf (sourceId value observedAt : String) : SourceClaim := { sourceId, value := .str value, observedAt }

theorem arrival_order_ignored_two_sources :
    let high := claimOf "cmam" "HIGH" "2026-01-01T00:00:00Z"
    let low := claimOf "legacy" "LOW" "2026-01-01T00:00:00Z"
    [high, low].Perm [low, high] ∧
      SameResolution (some [("cmam", 10), ("legacy", 1)])
        (resolveConflict "asset-x" "criticality" [high, low] .classification (some [("cmam", 10), ("legacy", 1)]) ⟨0, 0⟩)
        (resolveConflict "asset-x" "criticality" [low, high] .classification (some [("cmam", 10), ("legacy", 1)]) ⟨0, 0⟩) := by
  intro high low
  exact ⟨.swap .., arrival_order_ignored _ _ _ _ _ _ (.swap ..)⟩

end ArgosCore.Proofs
