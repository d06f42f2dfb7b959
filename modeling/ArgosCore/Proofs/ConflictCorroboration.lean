import ArgosCore.Proofs.ConflictOrder

/-! Support for the claim that wins. A further claim with its value can only spoil the
choice among top claims that disagree, by being as fresh as the winner. -/

namespace ArgosCore.Proofs

/-- The same value from a ranked source of at most the winner's rank, observed no later. -/
structure Corroborates (ranking : Dict Int) (winner extra : SourceClaim) : Prop where
  value : extra.value.number = winner.value.number
  ranked : ∃ rank, ranking.lookup extra.sourceId = some rank ∧
    ∀ highest, ranking.lookup winner.sourceId = some highest → rank ≤ highest
  notLater : extra.observedAt ≤ winner.observedAt

def rankOf (ranking : Dict Int) (claim : SourceClaim) : Int := (ranking.lookup claim.sourceId).getD 0

/-- The claim joins top claims that disagree, and is as fresh as any of them. -/
structure JoinsTie (ranking : Dict Int) (claims : List SourceClaim) (extra : SourceClaim) : Prop where
  divided : ¬ Agree (topClaims ranking claims)
  top : ∀ claim ∈ claims, rankOf ranking claim ≤ rankOf ranking extra
  fresh : ∀ claim ∈ topClaims ranking claims, claim.observedAt ≤ extra.observedAt

def Prevails (ranking : Dict Int) (claims : List SourceClaim) (value : Scalar) : Prop :=
  claims ≠ [] ∧ ((∀ claim ∈ claims, claim.value.number = value) ∨
    Governed ranking claims ∧ ((∀ claim ∈ topClaims ranking claims, claim.value.number = value) ∨
      ∃ winner, freshestClaims ranking claims = [winner] ∧ winner.value.number = value))

section
variable {ranking : Dict Int} {claims : List SourceClaim} {winner extra : SourceClaim} {value : Scalar}

theorem agree_of_value (alike : ∀ claim ∈ claims, claim.value.number = value) : Agree claims :=
  fun one first other second => (alike one first).trans (alike other second).symm

theorem Wins.prevails {exit : Exit} (wins : Wins ranking claims winner exit) :
    Prevails ranking claims winner.value.number := by
  have nonempty := List.ne_nil_of_mem wins.mem
  cases wins with
  | agreement agree member => exact ⟨nonempty, .inl fun claim inside => agree claim inside winner member⟩
  | alone governed top => exact ⟨nonempty, .inr ⟨governed, .inl (by simp [top])⟩⟩
  | tierAgrees governed agree top =>
    exact ⟨nonempty, .inr ⟨governed, .inl fun claim inside => agree claim inside winner top⟩⟩
  | freshest governed _ latest => exact ⟨nonempty, .inr ⟨governed, .inr ⟨winner, latest, rfl⟩⟩⟩

theorem Prevails.named (prevails : Prevails ranking claims value) : ∃ winner, winningClaim ranking claims = some winner := by
  obtain ⟨nonempty, decided⟩ := prevails
  rw [← Option.ne_none_iff_exists']
  intro unnamed
  have undetermined := undetermined_of_winningClaim unnamed
  generalize exitOf ranking claims = exit at undetermined
  cases undetermined with
  | noClaims empty => exact nonempty empty
  | ungoverned divided ungoverned =>
    rcases decided with all | ⟨governed, _⟩
    · exact divided (agree_of_value all)
    · exact ungoverned governed
  | tied _ divided tie =>
    rcases decided with all | ⟨_, tops | ⟨winner, latest, _⟩⟩
    · exact divided (agree_of_value fun claim top => all claim (mem_of_mem_topClaims top))
    · exact divided (agree_of_value tops)
    · exact tie (by rw [latest, List.length_singleton])

theorem Prevails.value_of_fresh (prevails : Prevails ranking claims value) {claim : SourceClaim}
    (fresh : claim ∈ freshestClaims ranking claims) : claim.value.number = value := by
  have top := (ByKey.mem_greatest.mp fresh).1
  rcases prevails.2 with all | ⟨_, tops | ⟨winner, latest, same⟩⟩
  · exact all claim (mem_of_mem_topClaims top)
  · exact tops claim top
  · rw [latest, List.mem_singleton] at fresh
    exact fresh ▸ same

theorem exists_winner_iff :
    (∃ winner, winningClaim ranking claims = some winner ∧ winner.value.number = value) ↔ Prevails ranking claims value := by
  constructor
  · rintro ⟨winner, named, rfl⟩
    exact (wins_of_winningClaim named).prevails
  · intro prevails
    obtain ⟨winner, named⟩ := prevails.named
    have some : freshestClaims ranking claims ≠ [] := freshestClaims_ne_nil prevails.1
    obtain ⟨fresh, among⟩ := List.exists_mem_of_ne_nil _ some
    refine ⟨winner, named, ?_⟩
    rw [← (wins_of_winningClaim named).prevails.value_of_fresh among, prevails.value_of_fresh among]

theorem prevails_congr {left right : List SourceClaim} (perm : left.Perm right) :
    Prevails ranking left value ↔ Prevails ranking right value := by
  have single (winner : SourceClaim) : freshestClaims ranking left = [winner] ↔ freshestClaims ranking right = [winner] := by
    have fresh : (freshestClaims ranking left).Perm (freshestClaims ranking right) := freshestClaims_perm perm
    constructor
    · intro same
      exact List.perm_singleton.mp (same ▸ fresh.symm)
    · intro same
      exact List.perm_singleton.mp (same ▸ fresh)
  have empty : left = [] ↔ right = [] := by
    rw [← List.length_eq_zero_iff, perm.length_eq, List.length_eq_zero_iff]
  simp only [Prevails, ne_eq, empty, perm.mem_iff, governed_congr perm, (topClaims_perm perm).mem_iff, single]

theorem topClaims_cons (top : winner ∈ topClaims ranking claims) (extra : SourceClaim)
    (lower : rankOf ranking extra ≤ rankOf ranking winner) :
    topClaims ranking (extra :: claims) =
      if rankOf ranking extra < rankOf ranking winner then topClaims ranking claims else extra :: topClaims ranking claims := by
  have added := ByKey.greatest_cons top extra
  change topClaims ranking (extra :: claims) = if rankOf ranking extra < rankOf ranking winner then _
    else if rankOf ranking extra = rankOf ranking winner then _ else _ at added
  rw [added]
  split_ifs with below same
  · rfl
  · rfl
  · exact absurd (lt_of_le_of_ne lower same) below

theorem Corroborates.governed (corroborates : Corroborates ranking winner extra) (governed : Governed ranking claims) :
    Governed ranking (extra :: claims) := by
  obtain ⟨rank, ranked, _⟩ := corroborates.ranked
  exact List.forall_mem_cons.mpr ⟨by simp [ranked], governed⟩

theorem Corroborates.rankOf_le (corroborates : Corroborates ranking winner extra) (governed : Governed ranking claims)
    (member : winner ∈ claims) : rankOf ranking extra ≤ rankOf ranking winner := by
  obtain ⟨rank, ranked, lower⟩ := corroborates.ranked
  obtain ⟨highest, found⟩ := Option.ne_none_iff_exists'.mp (governed winner member)
  rw [rankOf, rankOf, ranked, found]
  exact lower highest found

/-- Where the top claims agree, or a claim is alone at the top, support changes nothing. -/
theorem Corroborates.prevails_of_agree (corroborates : Corroborates ranking winner extra)
    (governed : Governed ranking claims) (agree : Agree (topClaims ranking claims)) (top : winner ∈ topClaims ranking claims) :
    Prevails ranking (extra :: claims) winner.value.number := by
  refine ⟨List.cons_ne_nil _ _, .inr ⟨corroborates.governed governed, .inl ?_⟩⟩
  have others : ∀ claim ∈ topClaims ranking claims, claim.value.number = winner.value.number :=
    fun claim inside => agree claim inside winner top
  rw [topClaims_cons top extra (corroborates.rankOf_le governed (mem_of_mem_topClaims top))]
  split_ifs
  · exact others
  · exact List.forall_mem_cons.mpr ⟨corroborates.value, others⟩

theorem Corroborates.prevails_iff (corroborates : Corroborates ranking winner extra) (governed : Governed ranking claims)
    (divided : ¬ Agree (topClaims ranking claims)) (latest : freshestClaims ranking claims = [winner]) :
    Prevails ranking (extra :: claims) winner.value.number ↔ ¬ JoinsTie ranking claims extra := by
  have fresh : winner ∈ freshestClaims ranking claims := latest ▸ List.mem_singleton_self _
  obtain ⟨top, newest⟩ := ByKey.mem_greatest.mp fresh
  have lower := corroborates.rankOf_le governed (mem_of_mem_topClaims top)
  have highest : ∀ claim ∈ claims, rankOf ranking claim ≤ rankOf ranking winner := (ByKey.mem_greatest.mp top).2
  have still (same : freshestClaims ranking (extra :: claims) = [winner]) :
      Prevails ranking (extra :: claims) winner.value.number :=
    ⟨List.cons_ne_nil _ _, .inr ⟨corroborates.governed governed, .inr ⟨winner, same, rfl⟩⟩⟩
  have tops := topClaims_cons top extra lower
  by_cases below : rankOf ranking extra < rankOf ranking winner
  · rw [if_pos below] at tops
    refine iff_of_true (still (by rw [freshestClaims, tops, ← freshestClaims, latest])) ?_
    intro joins
    exact absurd (joins.top winner (mem_of_mem_topClaims top)) (not_le.mpr below)
  · rw [if_neg below] at tops
    have freshest := ByKey.greatest_cons fresh extra
    rw [← tops, ← freshestClaims, ← freshestClaims, latest] at freshest
    rcases corroborates.notLater.lt_or_eq with before | same
    · rw [if_pos before] at freshest
      refine iff_of_true (still freshest) ?_
      intro joins
      exact absurd (joins.fresh winner top) (not_le.mpr before)
    · rw [if_neg same.not_lt, if_pos same] at freshest
      refine iff_of_false ?_ (not_not.mpr ⟨divided, ?_, ?_⟩)
      · rintro ⟨_, all | ⟨_, united | ⟨one, single, _⟩⟩⟩
        · exact divided (agree_of_value fun claim inside => all claim (List.mem_cons_of_mem _ (mem_of_mem_topClaims inside)))
        · exact divided (agree_of_value fun claim inside => united claim (tops ▸ List.mem_cons_of_mem _ inside))
        · cases freshest.symm.trans single
      · exact fun claim inside => (highest claim inside).trans (not_lt.mp below)
      · exact fun claim inside => same ▸ newest claim inside

end

/-- A claim in support of the winner leaves a winner with that value exactly when it does
not join a tie that freshness had broken. -/
theorem corroboration_keeps_winner_iff (entityId attributeName : String) (classifiedAs : ConflictClassification)
    (authorityRanking : Option (Dict Int)) (draw draw' : Draw) {claims extended : List SourceClaim}
    {winner extra : SourceClaim}
    (named : NamesWinner authorityRanking
      (resolveConflict entityId attributeName claims classifiedAs authorityRanking draw) winner)
    (corroborates : Corroborates (authorityRanking.getD []) winner extra) (added : extended.Perm (extra :: claims)) :
    (∃ again, NamesWinner authorityRanking
        (resolveConflict entityId attributeName extended classifiedAs authorityRanking draw') again ∧
      again.value.number = winner.value.number) ↔ ¬ JoinsTie (authorityRanking.getD []) claims extra := by
  rw [namesWinner_iff] at named
  simp only [namesWinner_iff, exists_winner_iff, prevails_congr added]
  have wins := wins_of_winningClaim named
  generalize exitOf (authorityRanking.getD []) claims = exit at wins
  cases wins with
  | agreement agree member =>
    refine iff_of_true ⟨List.cons_ne_nil _ _, .inl ?_⟩ ?_
    · exact List.forall_mem_cons.mpr ⟨corroborates.value, fun claim inside => agree claim inside winner member⟩
    · intro joins
      refine joins.divided fun one first other second => ?_
      exact agree one (mem_of_mem_topClaims first) other (mem_of_mem_topClaims second)
  | alone governed top =>
    have agree : Agree (topClaims (authorityRanking.getD []) claims) := by simp [Agree, top]
    exact iff_of_true (corroborates.prevails_of_agree governed agree (by simp [top])) fun joins => joins.divided agree
  | tierAgrees governed agree top =>
    exact iff_of_true (corroborates.prevails_of_agree governed agree top) fun joins => joins.divided agree
  | freshest governed divided latest => exact corroborates.prevails_iff governed divided latest

theorem corroboration_keeps_winner_lower_rank :
    let ranking := some [("cmam", 10), ("legacy", 1), ("netbox", 5)]
    let claims := [claimOf "cmam" "HIGH" "2026-01-01T00:00:00Z", claimOf "legacy" "LOW" "2026-01-01T00:00:00Z"]
    let extra := claimOf "netbox" "HIGH" "2026-01-01T00:00:00Z"
    let resolve := fun claims => resolveConflict "asset-x" "criticality" claims .classification ranking ⟨0, 0⟩
    NamesWinner ranking (resolve claims) (claimOf "cmam" "HIGH" "2026-01-01T00:00:00Z") ∧
      Corroborates (ranking.getD []) (claimOf "cmam" "HIGH" "2026-01-01T00:00:00Z") extra ∧
      ((∃ again, NamesWinner ranking (resolve (extra :: claims)) again ∧ again.value.number = .str "HIGH") ↔
        ¬ JoinsTie (ranking.getD []) claims extra) := by
  intro ranking claims extra resolve
  have named : NamesWinner ranking (resolve claims) (claimOf "cmam" "HIGH" "2026-01-01T00:00:00Z") :=
    (namesWinner_iff ..).mpr (by decide)
  have corroborates : Corroborates (ranking.getD []) (claimOf "cmam" "HIGH" "2026-01-01T00:00:00Z") extra := by
    refine ⟨rfl, ⟨5, rfl, ?_⟩, le_refl _⟩
    intro highest found
    obtain rfl := Option.some.inj found
    decide
  exact ⟨named, corroborates, corroboration_keeps_winner_iff _ _ _ _ _ _ named corroborates (.refl _)⟩

theorem january_before_june : "2026-01-01T00:00:00Z" < "2026-06-01T00:00:00Z" := by
  rw [String.lt_iff_toList_lt]
  decide

/-- Of two sources of one rank the fresher wins, until a third one confirms it at the same time. -/
theorem confirmed_winner_lost :
    let ranking := some [("cmam-a", 10), ("cmam-b", 10), ("cmam-c", 10)]
    let older := claimOf "cmam-a" "HIGH" "2026-01-01T00:00:00Z"
    let newer := claimOf "cmam-b" "MEDIUM" "2026-06-01T00:00:00Z"
    let extra := claimOf "cmam-c" "MEDIUM" "2026-06-01T00:00:00Z"
    let resolve := fun claims => resolveConflict "asset-x" "criticality" claims .classification ranking ⟨0, 0⟩
    NamesWinner ranking (resolve [older, newer]) newer ∧ Corroborates (ranking.getD []) newer extra ∧
      (resolve [older, newer, extra]).state = .requiresAuthority ∧
      ¬ ∃ again, NamesWinner ranking (resolve [older, newer, extra]) again ∧ again.value.number = .str "MEDIUM" := by
  intro ranking older newer extra resolve
  have pair : freshestClaims (ranking.getD []) [older, newer] = [newer] := by
    rw [freshestClaims, show topClaims _ [older, newer] = [older, newer] by decide]
    simp [ByKey.greatest, older, newer, claimOf, january_before_june.le]
  have three : freshestClaims (ranking.getD []) [older, newer, extra] = [newer, extra] := by
    rw [freshestClaims, show topClaims _ [older, newer, extra] = [older, newer, extra] by decide]
    simp [ByKey.greatest, older, newer, extra, claimOf, january_before_june.le]
  have tied : exitOf (ranking.getD []) [older, newer, extra] = .tied := by
    rw [exitOf, if_neg (by decide), if_neg (by decide), if_neg (by decide), if_neg (by decide), if_neg (by decide), three]
    rfl
  obtain ⟨_, named⟩ := winningClaim_of_latest (by decide) (by decide) pair
  refine ⟨(namesWinner_iff ..).mpr named, ⟨rfl, ⟨10, rfl, ?_⟩, le_refl _⟩, ?_, ?_⟩
  · intro highest found
    exact (Option.some.inj found).le
  · rw [(resolveConflict_ruling ..).state, tied]
    rfl
  · rintro ⟨again, names, _⟩
    have named := (namesWinner_iff ..).mp names
    rw [winningClaim, tied] at named
    cases named

end ArgosCore.Proofs
