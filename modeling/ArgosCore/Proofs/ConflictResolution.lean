import ArgosCore.Foundations.Testimony
import ArgosCore.Proofs.ConflictRuling

/-! What a resolution among equally fresh claims comes to: the votes of the sources
decide for one value and one of its claims wins, or nothing is decided and the conflict
is left to an authority. -/

namespace ArgosCore.Proofs
open Testimony

def vote (claim : SourceClaim) : String × Scalar := (claim.sourceId, claim.value.number)

def authority (ranking : Dict Int) (source : String) : Option Int := ranking.lookup source

section
variable {ranking : Dict Int} {claims : List SourceClaim}

theorem agree_iff_value (nonempty : claims ≠ []) : Agree claims ↔ ∃ value, ∀ claim ∈ claims, claim.value.number = value := by
  constructor
  · intro agree
    obtain ⟨first, member⟩ := List.exists_mem_of_ne_nil claims nonempty
    exact ⟨first.value.number, fun claim inside => agree claim inside first member⟩
  · intro ⟨value, alike⟩ one first other second
    exact (alike one first).trans (alike other second).symm

private theorem mem_topClaims (ranked : ∀ claim ∈ claims, authority ranking claim.sourceId ≠ none) {claim : SourceClaim} :
    claim ∈ topClaims ranking claims ↔
      claim ∈ claims ∧ Testimony.Top (authority ranking) (claims.map vote) claim.sourceId := by
  rw [topClaims, ByKey.mem_greatest]
  refine and_congr_right fun member => ?_
  obtain ⟨highest, found⟩ := Option.ne_none_iff_exists'.mp (ranked claim member)
  simp only [Testimony.Top, List.map_map, List.forall_mem_map, found, Option.some.injEq, forall_eq']
  refine forall₂_congr fun other inside => ?_
  obtain ⟨rest, second⟩ := Option.ne_none_iff_exists'.mp (ranked other inside)
  simp only [authority] at found second
  simp [vote, authority, found, second]

private theorem decides_iff_top (nonempty : claims ≠ [])
    (ranked : ∀ claim ∈ claims, authority ranking claim.sourceId ≠ none) (value : Scalar) :
    Decides (authority ranking) (claims.map vote) value ↔
      ∀ claim ∈ topClaims ranking claims, claim.value.number = value := by
  constructor
  · intro ⟨_, decided⟩ claim member
    obtain ⟨inside, top⟩ := (mem_topClaims ranked).mp member
    rcases decided with agreed | ⟨_, agreed⟩
    · exact agreed _ (List.mem_map_of_mem inside)
    · exact agreed _ (List.mem_map_of_mem inside) top
  · intro agreed
    refine ⟨by simpa using nonempty, .inr ⟨?_, ?_⟩⟩
    · simpa [Ranked, vote, Option.isSome_iff_ne_none] using ranked
    · intro _ member top
      obtain ⟨claim, inside, rfl⟩ := List.mem_map.mp member
      exact agreed claim ((mem_topClaims ranked).mpr ⟨inside, top⟩)

end

inductive Outcome (ranking : Dict Int) (claims : List SourceClaim) (resolution : SemanticConflict) : Prop
  | decided (winner : SourceClaim) (member : winner ∈ claims) (wins : resolution.winningSource = some winner.sourceId)
      (governed : resolution.state ≠ .requiresAuthority)
      (decides : Decides (authority ranking) (claims.map vote) winner.value.number)
  | undecided (lost : resolution.winningSource = none) (pending : resolution.state = .requiresAuthority)
      (divided : ∀ value, ¬ Decides (authority ranking) (claims.map vote) value)

theorem resolveConflict_outcome (entityId attributeName : String) {claims : List SourceClaim}
    (classifiedAs : ConflictClassification) (ranking : Dict Int) (draw : Draw) (nonempty : claims ≠ []) {moment : String}
    (fresh : ∀ claim ∈ claims, claim.observedAt = moment) :
    Outcome ranking claims (resolveConflict entityId attributeName claims classifiedAs (some ranking) draw) := by
  have ruling := resolveConflict_ruling entityId attributeName claims classifiedAs (some ranking) draw
  rw [Option.getD_some] at ruling
  have tops : topClaims ranking claims ≠ [] := topClaims_ne_nil nonempty
  cases named : winningClaim ranking claims with
  | none =>
    rw [named] at ruling
    have undetermined := undetermined_of_winningClaim named
    generalize exitOf ranking claims = exit at ruling undetermined
    cases undetermined with
    | noClaims empty => exact absurd empty nonempty
    | ungoverned divided ungoverned =>
      refine .undecided ruling.winningSource ruling.state ?_
      intro value ⟨_, decided⟩
      rcases decided with agreed | ⟨ranked, _⟩
      · rw [List.forall_mem_map] at agreed
        exact divided ((agree_iff_value nonempty).mpr ⟨value, agreed⟩)
      · apply ungoverned
        simpa [Governed, Ranked, vote, authority, Option.isSome_iff_ne_none] using ranked
    | tied governed divided _ =>
      refine .undecided ruling.winningSource ruling.state ?_
      intro value decided
      rw [decides_iff_top nonempty governed] at decided
      exact divided ((agree_iff_value tops).mpr ⟨value, decided⟩)
  | some winner =>
    rw [named] at ruling
    have wins := wins_of_winningClaim named
    have member := wins.mem
    generalize exitOf ranking claims = exit at ruling wins
    cases wins with
    | agreement agree _ =>
      refine .decided winner member ruling.winningSource (by simp [ruling.state, Exit.state]) ⟨by simpa using nonempty, .inl ?_⟩
      rw [List.forall_mem_map]
      exact fun claim inside => agree claim inside winner member
    | alone governed top =>
      refine .decided winner member ruling.winningSource (by simp [ruling.state, Exit.state]) ?_
      rw [decides_iff_top nonempty governed, top, List.forall_mem_singleton]
    | tierAgrees governed agree top =>
      refine .decided winner member ruling.winningSource (by simp [ruling.state, Exit.state]) ?_
      rw [decides_iff_top nonempty governed]
      exact fun claim inside => agree claim inside winner top
    | freshest _ divided latest =>
      -- of equally fresh claims all are the freshest
      have together : freshestClaims ranking claims = topClaims ranking claims :=
        ByKey.greatest_of_const fun claim inside => fresh claim (mem_of_mem_topClaims inside)
      refine absurd ?_ divided
      rw [← together, latest]
      simp [Agree]

end ArgosCore.Proofs
