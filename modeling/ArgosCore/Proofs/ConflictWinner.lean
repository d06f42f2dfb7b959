import ArgosCore.Proofs.ConflictCorroboration
import ArgosCore.Proofs.TemporalInstants

/-! What a winner owes to the other claims. It outranks them, or is fresher by the text of
its timestamp; whoever says something else is rejected, the winner's own past apart. -/

namespace ArgosCore.Proofs

section
variable {ranking : Dict Int} {claims : List SourceClaim} {winner claim : SourceClaim}

theorem mem_topClaims_of_source (top : winner ∈ topClaims ranking claims) (inside : claim ∈ claims)
    (source : claim.sourceId = winner.sourceId) : claim ∈ topClaims ranking claims := by
  rw [topClaims, ByKey.mem_greatest, source]
  exact ⟨inside, (ByKey.mem_greatest.mp top).2⟩

theorem mem_topClaims_of_rank (top : winner ∈ topClaims ranking claims) (inside : claim ∈ claims)
    (rank : rankOf ranking claim = rankOf ranking winner) : claim ∈ topClaims ranking claims := by
  refine ByKey.mem_greatest.mpr ⟨inside, fun other member => ?_⟩
  exact ((ByKey.mem_greatest.mp top).2 other member).trans rank.ge

theorem lt_of_freshest (latest : freshestClaims ranking claims = [winner]) (top : claim ∈ topClaims ranking claims)
    (other : claim ≠ winner) : claim.observedAt < winner.observedAt := by
  have fresh : winner ∈ freshestClaims ranking claims := latest ▸ List.mem_singleton_self _
  have newest := (ByKey.mem_greatest.mp fresh).2
  refine lt_of_le_of_ne (newest claim top) ?_
  intro same
  have also : claim ∈ freshestClaims ranking claims :=
    ByKey.mem_greatest.mpr ⟨top, fun one member => (newest one member).trans same.ge⟩
  rw [latest, List.mem_singleton] at also
  exact other also

theorem Exit.rejects_others {exit : Exit} (choice : exit = .alone ∨ exit = .freshest) (winner : SourceClaim)
    (claims : List SourceClaim) :
    let rejected := (claims.filter fun claim => exit.rejects (some winner) claim).map SourceClaim.sourceId
    winner.sourceId ∉ rejected ∧
      ∀ claim ∈ claims, claim.sourceId ∈ rejected ∨ claim.sourceId = winner.sourceId := by
  intro rejected
  have others : rejected = (claims.map SourceClaim.sourceId).filter (· ≠ winner.sourceId) :=
    (Exit.rejected_others choice winner claims).symm
  rw [others]
  refine ⟨by simp, fun claim inside => ?_⟩
  by_cases source : claim.sourceId = winner.sourceId
  · exact .inr source
  · exact .inl (List.mem_filter.mpr ⟨List.mem_map_of_mem inside, decide_eq_true source⟩)

end

theorem rejected_of_winningClaim (entityId attributeName : String) {claims : List SourceClaim}
    (classifiedAs : ConflictClassification) {authorityRanking : Option (Dict Int)} (draw : Draw) {winner : SourceClaim}
    (named : winningClaim (authorityRanking.getD []) claims = some winner) :
    let resolution := resolveConflict entityId attributeName claims classifiedAs authorityRanking draw
    winner.sourceId ∉ resolution.rejectedSources ∧
      ∀ claim ∈ claims, claim.value.number ≠ winner.value.number →
        claim.sourceId ∈ resolution.rejectedSources ∨
          claim.sourceId = winner.sourceId ∧ claim.observedAt < winner.observedAt := by
  have ruling := resolveConflict_ruling entityId attributeName claims classifiedAs authorityRanking draw
  rw [named] at ruling
  have wins := wins_of_winningClaim named
  intro resolution
  simp only [resolution, ruling.rejectedSources]
  generalize exitOf (authorityRanking.getD []) claims = exit at wins
  cases wins with
  | agreement agree member =>
    refine ⟨by simp [Exit.rejects], fun claim inside differs => ?_⟩
    exact absurd (agree claim inside winner member) differs
  | alone governed top =>
    have first : winner ∈ topClaims (authorityRanking.getD []) claims := top ▸ List.mem_singleton_self _
    obtain ⟨kept, others⟩ := Exit.rejects_others (.inl rfl) winner claims
    refine ⟨kept, fun claim inside differs => (others claim inside).imp_right fun source => ?_⟩
    have also := mem_topClaims_of_source first inside source
    rw [top, List.mem_singleton] at also
    exact absurd (by rw [also]) differs
  | tierAgrees governed agree top =>
    constructor
    · intro rejected
      obtain ⟨claim, kept, source⟩ := List.mem_map.mp rejected
      obtain ⟨inside, differs⟩ := List.mem_filter.mp kept
      have same := agree claim (mem_topClaims_of_source top inside source) winner top
      simp [Exit.rejects, same] at differs
    · intro claim inside differs
      exact .inl (List.mem_map_of_mem (List.mem_filter.mpr ⟨inside, by simpa [Exit.rejects] using differs⟩))
  | freshest governed divided latest =>
    have fresh : winner ∈ freshestClaims (authorityRanking.getD []) claims := latest ▸ List.mem_singleton_self _
    have first := (ByKey.mem_greatest.mp fresh).1
    obtain ⟨kept, others⟩ := Exit.rejects_others (.inr rfl) winner claims
    refine ⟨kept, fun claim inside differs => (others claim inside).imp_right fun source => ⟨source, ?_⟩⟩
    apply lt_of_freshest latest (mem_topClaims_of_source first inside source)
    rintro rfl
    exact differs rfl

/-- Every losing claim is accounted for: its source is rejected, or it is what the winning
source said before. -/
theorem losing_claims_accounted (entityId attributeName : String) (claims : List SourceClaim)
    (classifiedAs : ConflictClassification) (authorityRanking : Option (Dict Int)) (draw : Draw) {source : String}
    (won : (resolveConflict entityId attributeName claims classifiedAs authorityRanking draw).winningSource = some source) :
    let resolution := resolveConflict entityId attributeName claims classifiedAs authorityRanking draw
    source ∉ resolution.rejectedSources ∧
      ∃ winner, winner.sourceId = source ∧ NamesWinner authorityRanking resolution winner ∧
        ∀ claim ∈ claims, claim.value.number ≠ winner.value.number →
          claim.sourceId ∈ resolution.rejectedSources ∨
            claim.sourceId = winner.sourceId ∧ claim.observedAt < winner.observedAt := by
  intro resolution
  obtain ⟨winner, rfl, names⟩ := exists_namesWinner won
  have named := (namesWinner_iff ..).mp names
  have accounted := rejected_of_winningClaim entityId attributeName classifiedAs draw named
  exact ⟨accounted.1, winner, rfl, names, accounted.2⟩

theorem losing_claims_accounted_legacy :
    let ranking := some [("cmam", 10), ("legacy", 1)]
    let high := claimOf "cmam" "HIGH" "2026-01-01T00:00:00Z"
    let low := claimOf "legacy" "LOW" "2026-01-01T00:00:00Z"
    let resolution := resolveConflict "asset-x" "criticality" [high, low] .classification ranking ⟨0, 0⟩
    resolution.winningSource = some "cmam" ∧ "cmam" ∉ resolution.rejectedSources ∧
      ∃ winner, winner.sourceId = "cmam" ∧ NamesWinner ranking resolution winner ∧
        ∀ claim ∈ [high, low], claim.value.number ≠ winner.value.number →
          claim.sourceId ∈ resolution.rejectedSources ∨
            claim.sourceId = winner.sourceId ∧ claim.observedAt < winner.observedAt := by
  intro ranking high low resolution
  have won : resolution.winningSource = some "cmam" := by decide
  exact ⟨won, losing_claims_accounted _ _ _ _ _ _ won⟩

/-- A source that corrects itself: what it said first is not among what is rejected. -/
theorem corrected_claim_unlisted :
    let ranking := some [("cmam", 10)]
    let first := claimOf "cmam" "HIGH" "2026-01-01T00:00:00Z"
    let second := claimOf "cmam" "MEDIUM" "2026-06-01T00:00:00Z"
    let resolution := resolveConflict "asset-x" "criticality" [first, second] .classification ranking ⟨0, 0⟩
    NamesWinner ranking resolution second ∧ first.value.number ≠ second.value.number ∧
      first.sourceId ∉ resolution.rejectedSources := by
  intro ranking first second resolution
  have latest : freshestClaims (ranking.getD []) [first, second] = [second] := by
    rw [freshestClaims, show topClaims _ [first, second] = [first, second] by decide]
    simp [ByKey.greatest, first, second, claimOf, january_before_june.le]
  obtain ⟨exit, named⟩ := winningClaim_of_latest (by decide) (by decide) latest
  refine ⟨(namesWinner_iff ..).mpr named, by decide, ?_⟩
  rw [(resolveConflict_ruling ..).rejectedSources, exit, named]
  decide

/-- What a governed winner is: ranked like all others, of the highest rank, and of a
later instant than whoever of that rank says something else. -/
structure WinnerGoverned (ranking : Dict Int) (claims : List SourceClaim) (winner : SourceClaim) : Prop where
  ranked : Governed ranking claims
  highest : ∀ claim ∈ claims, rankOf ranking claim ≤ rankOf ranking winner
  fresher : ∀ claim ∈ claims, rankOf ranking claim = rankOf ranking winner → claim.value.number ≠ winner.value.number →
    StrictlyBefore instantOf claim.observedAt winner.observedAt

/-- Among claims of the highest rank, the single latest by text is not later in time than
one with another value. -/
structure Misdated (ranking : Dict Int) (claims : List SourceClaim) (newest other : SourceClaim) : Prop where
  ranked : Governed ranking claims
  newestTop : newest ∈ topClaims ranking claims
  otherTop : other ∈ topClaims ranking claims
  latest : ∀ claim ∈ topClaims ranking claims, claim.observedAt ≤ newest.observedAt
  single : (topClaims ranking claims).countP (fun claim => claim.observedAt = newest.observedAt) = 1
  differs : other.value.number ≠ newest.value.number
  misleads : ¬ StrictlyBefore instantOf other.observedAt newest.observedAt

theorem freshestClaims_eq_filter {ranking : Dict Int} {claims : List SourceClaim} {newest : SourceClaim}
    (fresh : newest ∈ freshestClaims ranking claims) :
    freshestClaims ranking claims = (topClaims ranking claims).filter fun claim => claim.observedAt = newest.observedAt := by
  obtain ⟨top, latest⟩ := ByKey.mem_greatest.mp fresh
  apply List.filter_congr
  intro claim inside
  rw [Bool.eq_iff_iff, List.all_eq_true, decide_eq_true_eq]
  simp only [decide_eq_true_eq]
  constructor
  · exact fun newer => le_antisymm (latest claim inside) (newer newest top)
  · exact fun same other member => same ▸ latest other member

theorem freshestClaims_eq_singleton_iff {ranking : Dict Int} {claims : List SourceClaim} {newest : SourceClaim} :
    freshestClaims ranking claims = [newest] ↔ newest ∈ topClaims ranking claims ∧
      (∀ claim ∈ topClaims ranking claims, claim.observedAt ≤ newest.observedAt) ∧
      (topClaims ranking claims).countP (fun claim => claim.observedAt = newest.observedAt) = 1 := by
  rw [← and_assoc, ← ByKey.mem_greatest, List.countP_eq_length_filter]
  constructor
  · intro latest
    have fresh : newest ∈ freshestClaims ranking claims := latest ▸ List.mem_singleton_self _
    exact ⟨fresh, by rw [← freshestClaims_eq_filter fresh, latest, List.length_singleton]⟩
  · intro ⟨fresh, single⟩
    rw [← freshestClaims_eq_filter fresh, List.length_eq_one_iff] at single
    obtain ⟨only, latest⟩ := single
    change newest ∈ freshestClaims ranking claims at fresh
    rw [latest, List.mem_singleton] at fresh
    rw [latest, fresh]

theorem Misdated.wins {ranking : Dict Int} {claims : List SourceClaim} {newest other : SourceClaim}
    (misdated : Misdated ranking claims newest other) :
    exitOf ranking claims = .freshest ∧ winningClaim ranking claims = some newest := by
  apply winningClaim_of_latest misdated.ranked
  · exact fun agree => misdated.differs (agree other misdated.otherTop newest misdated.newestTop)
  · exact freshestClaims_eq_singleton_iff.mpr ⟨misdated.newestTop, misdated.latest, misdated.single⟩

/-- A winner at the top is compared with the claims of the top only. -/
theorem winnerGoverned_of_top {ranking : Dict Int} {claims : List SourceClaim} {winner : SourceClaim}
    (governed : Governed ranking claims) (top : winner ∈ topClaims ranking claims)
    (fresher : ∀ claim ∈ topClaims ranking claims, claim.value.number ≠ winner.value.number →
      StrictlyBefore instantOf claim.observedAt winner.observedAt) : WinnerGoverned ranking claims winner where
  ranked := governed
  highest := (ByKey.mem_greatest.mp top).2
  fresher claim inside rank := fresher claim (mem_topClaims_of_rank top inside rank)

theorem governed_winners_iff {claims : List SourceClaim} {ranking : Dict Int} :
    (∀ winner, winningClaim ranking claims = some winner → (exitOf ranking claims).state = .conflict →
        WinnerGoverned ranking claims winner) ↔
      ¬ ∃ newest other, Misdated ranking claims newest other := by
  constructor
  · rintro governed ⟨newest, other, misdated⟩
    obtain ⟨exit, named⟩ := misdated.wins
    have winner := governed newest named (by rw [exit]; rfl)
    have highest : rankOf ranking other = rankOf ranking newest :=
      le_antisymm ((ByKey.mem_greatest.mp misdated.newestTop).2 other (mem_of_mem_topClaims misdated.otherTop))
        ((ByKey.mem_greatest.mp misdated.otherTop).2 newest (mem_of_mem_topClaims misdated.newestTop))
    exact misdated.misleads (winner.fresher other (mem_of_mem_topClaims misdated.otherTop) highest misdated.differs)
  · intro dated winner named conflict
    have wins := wins_of_winningClaim named
    generalize exitOf ranking claims = exit at wins conflict
    cases wins with
    | agreement => cases conflict
    | alone governed top =>
      apply winnerGoverned_of_top governed (top ▸ List.mem_singleton_self _)
      intro claim inside differs
      rw [top, List.mem_singleton] at inside
      exact absurd (by rw [inside]) differs
    | tierAgrees governed agree top =>
      apply winnerGoverned_of_top governed top
      exact fun claim inside differs => absurd (agree claim inside winner top) differs
    | freshest governed _ single =>
      obtain ⟨top, latest, once⟩ := freshestClaims_eq_singleton_iff.mp single
      apply winnerGoverned_of_top governed top
      intro claim inside differs
      by_contra misleads
      exact dated ⟨winner, claim, governed, top, inside, latest, once, differs, misleads⟩

/-- Every winner of a conflict is governed, unless the order of the texts misleads. -/
theorem winner_governed_iff (entityId attributeName : String) (claims : List SourceClaim)
    (classifiedAs : ConflictClassification) (authorityRanking : Option (Dict Int)) (draw : Draw) :
    let resolution := resolveConflict entityId attributeName claims classifiedAs authorityRanking draw
    (∀ source, resolution.winningSource = some source → resolution.state = .conflict →
        ∃ winner, winner.sourceId = source ∧ NamesWinner authorityRanking resolution winner ∧
          WinnerGoverned (authorityRanking.getD []) claims winner) ↔
      ¬ ∃ newest other, Misdated (authorityRanking.getD []) claims newest other := by
  intro resolution
  rw [← governed_winners_iff]
  have ruling := resolveConflict_ruling entityId attributeName claims classifiedAs authorityRanking draw
  simp only [resolution, namesWinner_iff, ruling.state, ruling.winningSource, Option.map_eq_some_iff]
  constructor
  · rintro governed winner named conflict
    obtain ⟨other, _, also, holds⟩ := governed winner.sourceId ⟨winner, named, rfl⟩ conflict
    rw [named, Option.some.injEq] at also
    exact also ▸ holds
  · rintro governed source ⟨winner, named, same⟩ conflict
    exact ⟨winner, same, named, governed winner named conflict⟩

theorem fraction_before_z : "2026-01-01T00:00:00.500000+00:00" < "2026-01-01T00:00:00Z" := by
  rw [String.lt_iff_toList_lt]
  decide

/-- Half a second older, but its timestamp ends in `Z`. -/
theorem older_claim_wins :
    let ranking := some [("cmam-a", 10), ("cmam-b", 10)]
    let newer := claimOf "cmam-a" "HIGH" "2026-01-01T00:00:00.500000+00:00"
    let older := claimOf "cmam-b" "MEDIUM" "2026-01-01T00:00:00Z"
    let resolution := resolveConflict "asset-x" "criticality" [newer, older] .classification ranking ⟨0, 0⟩
    (∀ claim ∈ [newer, older], (instantOf claim.observedAt).isSome) ∧ NamesWinner ranking resolution older ∧
      resolution.state = .conflict ∧ ¬ WinnerGoverned (ranking.getD []) [newer, older] older := by
  intro ranking newer older resolution
  have latest : freshestClaims (ranking.getD []) [newer, older] = [older] := by
    rw [freshestClaims, show topClaims _ [newer, older] = [newer, older] by decide]
    simp [ByKey.greatest, newer, older, claimOf, fraction_before_z.le]
  obtain ⟨exit, named⟩ := winningClaim_of_latest (by decide) (by decide) latest
  refine ⟨by decide, (namesWinner_iff ..).mpr named, ?_, ?_⟩
  · rw [(resolveConflict_ruling ..).state, exit]
    rfl
  · intro governed
    obtain ⟨seen, now, readSeen, readNow, before⟩ := governed.fresher newer List.mem_cons_self rfl (by decide)
    have seenAt : instantOf "2026-01-01T00:00:00.500000+00:00" = some 1767225600500000 := by decide
    have nowAt : instantOf "2026-01-01T00:00:00Z" = some 1767225600000000 := by decide
    obtain rfl := Option.some.inj (seenAt.symm.trans readSeen)
    obtain rfl := Option.some.inj (nowAt.symm.trans readNow)
    exact absurd before (by decide)

end ArgosCore.Proofs
