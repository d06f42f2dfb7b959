import ArgosCore.SemanticConflict

/-! By which exit a resolution leaves, and with which claim. The exit depends on how many
values, top claims and freshest claims there are; the claims it chooses from have one value. -/

namespace ArgosCore.Proofs

def topClaims (ranking : Dict Int) (claims : List SourceClaim) : List SourceClaim :=
  ByKey.greatest (fun claim => (ranking.lookup claim.sourceId).getD 0) claims

/-- Those of the top claims with the latest timestamp, as text. -/
def freshestClaims (ranking : Dict Int) (claims : List SourceClaim) : List SourceClaim :=
  ByKey.greatest SourceClaim.observedAt (topClaims ranking claims)

def Agree (claims : List SourceClaim) : Prop := ∀ one ∈ claims, ∀ other ∈ claims, one.value.number = other.value.number

instance (claims : List SourceClaim) : Decidable (Agree claims) := inferInstanceAs (Decidable (∀ _ ∈ _, ∀ _ ∈ _, _))

def Governed (ranking : Dict Int) (claims : List SourceClaim) : Prop :=
  ∀ claim ∈ claims, ranking.lookup claim.sourceId ≠ none

instance (ranking : Dict Int) (claims : List SourceClaim) : Decidable (Governed ranking claims) :=
  inferInstanceAs (Decidable (∀ _ ∈ _, _ ≠ _))

/-- The `return` statements of `resolve_conflict`, in their order. -/
inductive Exit where
  | noClaims
  | agreement
  | ungoverned
  | alone
  | tierAgrees
  | freshest
  | tied
  deriving DecidableEq

def exitOf (ranking : Dict Int) (claims : List SourceClaim) : Exit :=
  if claims = [] then .noClaims
  else if Agree claims then .agreement
  else if ¬ Governed ranking claims then .ungoverned
  else if (topClaims ranking claims).length = 1 then .alone
  else if Agree (topClaims ranking claims) then .tierAgrees
  else if (freshestClaims ranking claims).length = 1 then .freshest
  else .tied

namespace Exit

def state : Exit → ConflictState
  | noClaims => .unknown
  | agreement => .consistent
  | alone | tierAgrees | freshest => .conflict
  | ungoverned | tied => .requiresAuthority

def rule : Exit → Option String
  | alone | tierAgrees => some "authority_precedence"
  | freshest => some "authority_precedence+freshness_tiebreak"
  | noClaims | agreement | ungoverned | tied => none

def reasonCode (count : Nat) : Exit → String
  | noClaims => "NO_CLAIMS"
  | agreement => if count = 1 then "SINGLE_SOURCE" else "ALL_SOURCES_AGREE"
  | ungoverned => "NO_GOVERNED_AUTHORITY_FOR_SOURCE"
  | alone => "HIGHEST_AUTHORITY_WINS"
  | tierAgrees => "HIGHEST_AUTHORITY_TIER_AGREES"
  | freshest => "FRESHEST_AMONG_HIGHEST_AUTHORITY"
  | tied => "TIED_AUTHORITY_AND_FRESHNESS"

def candidates (ranking : Dict Int) (claims : List SourceClaim) : Exit → List SourceClaim
  | agreement => claims
  | alone | tierAgrees => topClaims ranking claims
  | freshest => freshestClaims ranking claims
  | noClaims | ungoverned | tied => []

def rejects (winner : Option SourceClaim) (claim : SourceClaim) : Exit → Bool
  | noClaims | agreement => false
  | ungoverned | tied => true
  | alone | freshest => winner.all fun winner => claim.sourceId ≠ winner.sourceId
  | tierAgrees => winner.all fun winner => claim.value.number ≠ winner.value.number

end Exit

def winningClaim (ranking : Dict Int) (claims : List SourceClaim) : Option SourceClaim :=
  ((exitOf ranking claims).candidates ranking claims).head?

section
variable {ranking : Dict Int} {claims : List SourceClaim}

theorem card_distinctValues_iff (nonempty : claims ≠ []) : (distinctValues claims).card = 1 ↔ Agree claims := by
  have least : 0 < (distinctValues claims).card := (Scalar.card_setOf_pos_iff _).mpr (by simpa using nonempty)
  have most := Scalar.card_setOf_le_one_iff (claims.map SourceClaim.value)
  simp only [List.forall_mem_map] at most
  rw [Agree, ← most, distinctValues]
  rw [distinctValues] at least
  omega

private theorem ungoverned_iff :
    (claims.any fun claim => ranking.lookup claim.sourceId = none) = true ↔ ¬ Governed ranking claims := by
  simp only [Governed, List.any_eq_true, decide_eq_true_eq, ne_eq, not_forall, not_not, exists_prop]

theorem topClaims_ne_nil (nonempty : claims ≠ []) : topClaims ranking claims ≠ [] := ByKey.greatest_ne_nil nonempty

theorem freshestClaims_ne_nil (nonempty : claims ≠ []) : freshestClaims ranking claims ≠ [] :=
  ByKey.greatest_ne_nil (topClaims_ne_nil nonempty)

theorem mem_of_mem_topClaims {claim : SourceClaim} (top : claim ∈ topClaims ranking claims) : claim ∈ claims :=
  (ByKey.mem_greatest.mp top).1

end

theorem Exit.rejected_others {exit : Exit} (choice : exit = .alone ∨ exit = .freshest) (winner : SourceClaim)
    (claims : List SourceClaim) :
    (claims.map SourceClaim.sourceId).filter (· ≠ winner.sourceId) =
      (claims.filter fun claim => exit.rejects (some winner) claim).map SourceClaim.sourceId := by
  rw [List.filter_map]
  rcases choice with rfl | rfl
  · rfl
  · rfl

private theorem Exit.rejected_all {exit : Exit} (undecided : exit = .ungoverned ∨ exit = .tied) (claims : List SourceClaim) :
    claims.map SourceClaim.sourceId = (claims.filter fun claim => exit.rejects none claim).map SourceClaim.sourceId := by
  rcases undecided with rfl | rfl
  · simp [Exit.rejects]
  · simp [Exit.rejects]

/-- What is decided by a resolution, apart from the record around it. -/
structure Ruling (claims : List SourceClaim) (exit : Exit) (winner : Option SourceClaim) (resolution : SemanticConflict) :
    Prop where
  given : resolution.claims = claims
  state : resolution.state = exit.state
  winningSource : resolution.winningSource = winner.map SourceClaim.sourceId
  rejectedSources : resolution.rejectedSources = (claims.filter fun claim => exit.rejects winner claim).map SourceClaim.sourceId
  rule : resolution.rule = exit.rule
  reasonCode : resolution.reasonCode = exit.reasonCode claims.length

theorem resolveConflict_ruling (entityId attributeName : String) (claims : List SourceClaim)
    (classifiedAs : ConflictClassification) (authorityRanking : Option (Dict Int)) (draw : Draw) :
    Ruling claims (exitOf (authorityRanking.getD []) claims) (winningClaim (authorityRanking.getD []) claims)
      (resolveConflict entityId attributeName claims classifiedAs authorityRanking draw) := by
  generalize given : authorityRanking.getD [] = ranking
  cases claims with
  | nil => constructor <;> rfl
  | cons first further =>
    have nonempty := List.cons_ne_nil first further
    by_cases agree : Agree (first :: further)
    · have card := (card_distinctValues_iff nonempty).mpr agree
      have exit : exitOf ranking (first :: further) = .agreement := by simp [exitOf, agree]
      rw [winningClaim, exit]
      constructor <;> simp [resolveConflict, card, Exit.state, Exit.rule, Exit.reasonCode, Exit.candidates, Exit.rejects]
    have card : ¬ (distinctValues (first :: further)).card = 1 := mt (card_distinctValues_iff nonempty).mp agree
    simp only [resolveConflict, if_neg card, given]
    split
    next unranked =>
      have ungoverned := ungoverned_iff.mp unranked
      have exit : exitOf ranking (first :: further) = .ungoverned := by simp [exitOf, agree, ungoverned]
      rw [winningClaim, exit]
      exact ⟨rfl, rfl, rfl, Exit.rejected_all (.inl rfl) _, rfl, rfl⟩
    next ranked =>
      have governed := not_not.mp (mt ungoverned_iff.mpr ranked)
      split
      next empty => exact absurd empty (topClaims_ne_nil nonempty)
      next winner single =>
        have alone : topClaims ranking (first :: further) = [winner] := single
        have exit : exitOf ranking (first :: further) = .alone := by simp [exitOf, agree, governed, alone]
        rw [winningClaim, exit, Exit.candidates, alone]
        exact ⟨rfl, rfl, rfl, Exit.rejected_others (.inl rfl) winner _, rfl, rfl⟩
      next winner rest several shape =>
        have tops : topClaims ranking (first :: further) = winner :: rest := shape
        have many : ¬ (topClaims ranking (first :: further)).length = 1 := by
          rw [tops]
          simpa using several
        rw [shape, ← tops]
        split
        next united =>
          have tier := (card_distinctValues_iff (topClaims_ne_nil nonempty)).mp united
          have exit : exitOf ranking (first :: further) = .tierAgrees := by simp [exitOf, agree, governed, many, tier]
          rw [winningClaim, exit, Exit.candidates, tops]
          exact ⟨rfl, rfl, rfl, rfl, rfl, rfl⟩
        next divided =>
          have tier : ¬ Agree (topClaims ranking (first :: further)) :=
            mt (card_distinctValues_iff (topClaims_ne_nil nonempty)).mpr divided
          split
          next freshest single =>
            have alone : freshestClaims ranking (first :: further) = [freshest] := single
            have exit : exitOf ranking (first :: further) = .freshest := by simp [exitOf, agree, governed, many, tier, alone]
            rw [winningClaim, exit, Exit.candidates, alone]
            exact ⟨rfl, rfl, rfl, Exit.rejected_others (.inr rfl) freshest _, rfl, rfl⟩
          next tie =>
            have several : ¬ (freshestClaims ranking (first :: further)).length = 1 := by
              rw [List.length_eq_one_iff]
              rintro ⟨freshest, alone⟩
              exact tie freshest alone
            have exit : exitOf ranking (first :: further) = .tied := by simp [exitOf, agree, governed, many, tier, several]
            rw [winningClaim, exit]
            exact ⟨rfl, rfl, rfl, Exit.rejected_all (.inr rfl) _, rfl, rfl⟩

inductive Wins (ranking : Dict Int) (claims : List SourceClaim) (winner : SourceClaim) : Exit → Prop
  | agreement (agree : Agree claims) (member : winner ∈ claims) : Wins ranking claims winner .agreement
  | alone (governed : Governed ranking claims) (top : topClaims ranking claims = [winner]) : Wins ranking claims winner .alone
  | tierAgrees (governed : Governed ranking claims) (agree : Agree (topClaims ranking claims))
      (top : winner ∈ topClaims ranking claims) : Wins ranking claims winner .tierAgrees
  | freshest (governed : Governed ranking claims) (divided : ¬ Agree (topClaims ranking claims))
      (latest : freshestClaims ranking claims = [winner]) : Wins ranking claims winner .freshest

inductive Undetermined (ranking : Dict Int) (claims : List SourceClaim) : Exit → Prop
  | noClaims (empty : claims = []) : Undetermined ranking claims .noClaims
  | ungoverned (divided : ¬ Agree claims) (ungoverned : ¬ Governed ranking claims) : Undetermined ranking claims .ungoverned
  | tied (governed : Governed ranking claims) (divided : ¬ Agree (topClaims ranking claims))
      (tie : (freshestClaims ranking claims).length ≠ 1) : Undetermined ranking claims .tied

section
variable {ranking : Dict Int} {claims left right : List SourceClaim} {winner : SourceClaim}

theorem wins_of_winningClaim (named : winningClaim ranking claims = some winner) :
    Wins ranking claims winner (exitOf ranking claims) := by
  rw [winningClaim] at named
  have member := List.mem_of_head? named
  unfold exitOf at named member ⊢
  split_ifs at named member ⊢ with empty agree governed alone tier fresh
  · cases named
  · exact .agreement agree member
  · obtain ⟨only, single⟩ := List.length_eq_one_iff.mp alone
    rw [Exit.candidates, single] at named
    obtain rfl := Option.some.inj named
    exact .alone governed single
  · exact .tierAgrees governed tier member
  · obtain ⟨only, single⟩ := List.length_eq_one_iff.mp fresh
    rw [Exit.candidates, single] at named
    obtain rfl := Option.some.inj named
    exact .freshest governed tier single
  · cases named
  · cases named

theorem undetermined_of_winningClaim (unnamed : winningClaim ranking claims = none) :
    Undetermined ranking claims (exitOf ranking claims) := by
  rw [winningClaim, List.head?_eq_none_iff] at unnamed
  unfold exitOf at unnamed ⊢
  split_ifs at unnamed ⊢ with empty agree governed alone tier fresh
  · exact .noClaims empty
  · exact absurd unnamed empty
  · exact absurd unnamed (topClaims_ne_nil empty)
  · exact absurd unnamed (topClaims_ne_nil empty)
  · exact absurd unnamed (freshestClaims_ne_nil empty)
  · exact .tied governed tier fresh
  · exact .ungoverned agree governed

theorem Wins.mem {exit : Exit} (wins : Wins ranking claims winner exit) : winner ∈ claims := by
  cases wins with
  | agreement _ member => exact member
  | alone _ top => exact mem_of_mem_topClaims (top ▸ List.mem_singleton_self _)
  | tierAgrees _ _ top => exact mem_of_mem_topClaims top
  | freshest _ _ latest =>
    have member : winner ∈ freshestClaims ranking claims := latest ▸ List.mem_singleton_self _
    exact mem_of_mem_topClaims (ByKey.mem_greatest.mp member).1

theorem winningClaim_of_latest (governed : Governed ranking claims) (divided : ¬ Agree (topClaims ranking claims))
    (latest : freshestClaims ranking claims = [winner]) :
    exitOf ranking claims = .freshest ∧ winningClaim ranking claims = some winner := by
  have exit : exitOf ranking claims = .freshest := by
    have filled : claims ≠ [] := by
      rintro rfl
      exact divided (by simp [Agree, topClaims, ByKey.greatest])
    have apart : ¬ Agree claims := fun agree =>
      divided fun one first other second => agree one (mem_of_mem_topClaims first) other (mem_of_mem_topClaims second)
    have several : ¬ (topClaims ranking claims).length = 1 := by
      rw [List.length_eq_one_iff]
      rintro ⟨only, alone⟩
      exact divided (by simp [Agree, alone])
    simp [exitOf, filled, apart, governed, several, divided, latest]
  refine ⟨exit, ?_⟩
  rw [winningClaim, exit, Exit.candidates, latest]
  rfl

theorem agree_congr (perm : left.Perm right) : Agree left ↔ Agree right := by
  simp only [Agree, perm.mem_iff]

theorem governed_congr (perm : left.Perm right) : Governed ranking left ↔ Governed ranking right := by
  simp only [Governed, perm.mem_iff]

theorem topClaims_perm (perm : left.Perm right) : (topClaims ranking left).Perm (topClaims ranking right) :=
  ByKey.greatest_perm perm

theorem freshestClaims_perm (perm : left.Perm right) : (freshestClaims ranking left).Perm (freshestClaims ranking right) :=
  ByKey.greatest_perm (topClaims_perm perm)

theorem exitOf_perm (perm : left.Perm right) : exitOf ranking left = exitOf ranking right := by
  have empty : left = [] ↔ right = [] := by
    rw [← List.length_eq_zero_iff, perm.length_eq, List.length_eq_zero_iff]
  simp only [exitOf, empty, agree_congr perm, governed_congr perm, (topClaims_perm perm).length_eq,
    agree_congr (topClaims_perm perm), (freshestClaims_perm perm).length_eq]

theorem candidates_perm (perm : left.Perm right) (exit : Exit) :
    (exit.candidates ranking left).Perm (exit.candidates ranking right) := by
  cases exit with
  | agreement => exact perm
  | alone | tierAgrees => exact topClaims_perm perm
  | freshest => exact freshestClaims_perm perm
  | noClaims | ungoverned | tied => exact .nil

end

/-- The resolution names the source of the claim, and chose that claim of it. -/
structure NamesWinner (authorityRanking : Option (Dict Int)) (resolution : SemanticConflict) (winner : SourceClaim) : Prop where
  claim : winningClaim (authorityRanking.getD []) resolution.claims = some winner
  source : resolution.winningSource = some winner.sourceId

theorem namesWinner_iff (entityId attributeName : String) (claims : List SourceClaim) (classifiedAs : ConflictClassification)
    (authorityRanking : Option (Dict Int)) (draw : Draw) (winner : SourceClaim) :
    NamesWinner authorityRanking (resolveConflict entityId attributeName claims classifiedAs authorityRanking draw) winner ↔
      winningClaim (authorityRanking.getD []) claims = some winner := by
  have ruling := resolveConflict_ruling entityId attributeName claims classifiedAs authorityRanking draw
  constructor
  · intro names
    rw [← names.claim, ruling.given]
  · intro named
    exact ⟨by rw [ruling.given, named], by rw [ruling.winningSource, named, Option.map_some]⟩

theorem winningSource_eq_none_iff (entityId attributeName : String) (claims : List SourceClaim)
    (classifiedAs : ConflictClassification) (authorityRanking : Option (Dict Int)) (draw : Draw) :
    (resolveConflict entityId attributeName claims classifiedAs authorityRanking draw).winningSource = none ↔
      winningClaim (authorityRanking.getD []) claims = none := by
  rw [(resolveConflict_ruling ..).winningSource, Option.map_eq_none_iff]

theorem exists_namesWinner {entityId attributeName : String} {claims : List SourceClaim}
    {classifiedAs : ConflictClassification} {authorityRanking : Option (Dict Int)} {draw : Draw} {source : String}
    (named : (resolveConflict entityId attributeName claims classifiedAs authorityRanking draw).winningSource = some source) :
    ∃ winner, winner.sourceId = source ∧ NamesWinner authorityRanking
      (resolveConflict entityId attributeName claims classifiedAs authorityRanking draw) winner := by
  rw [(resolveConflict_ruling ..).winningSource] at named
  obtain ⟨winner, wins, same⟩ := Option.map_eq_some_iff.mp named
  exact ⟨winner, same, (namesWinner_iff ..).mpr wins⟩

end ArgosCore.Proofs
