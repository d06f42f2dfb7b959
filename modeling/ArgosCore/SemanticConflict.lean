import ArgosCore.Foundations.ByKey
import ArgosCore.Foundations.Scalar
import ArgosCore.Runtime

/-! Conflicts between sources, resolved by authority and then by freshness, or not at all. -/

namespace ArgosCore

inductive ConflictClassification where
  | temporal
  | authority
  | semantic
  | classification
  | identity
  deriving DecidableEq, Repr

inductive ConflictState where
  | consistent
  | conflict
  | unknown
  | requiresAuthority
  deriving DecidableEq, Repr

def ConflictState.text : ConflictState → String
  | .consistent => "CONSISTENT"
  | .conflict => "CONFLICT"
  | .unknown => "UNKNOWN"
  | .requiresAuthority => "REQUIRES_AUTHORITY"

structure SourceClaim where
  sourceId : String
  value : Scalar
  observedAt : String
  evidenceRef : Option String := none
  deriving DecidableEq, Repr

structure SemanticConflict where
  conflictId : String
  entityId : String
  attributeName : String
  classification : ConflictClassification
  state : ConflictState
  claims : List SourceClaim
  winningSource : Option String
  rejectedSources : List String
  rule : Option String
  reasonCode : String
  evidenceRefs : List String
  resolvedAt : String
  deriving DecidableEq, Repr

def distinctValues (claims : List SourceClaim) : Finset Scalar := Scalar.setOf (claims.map SourceClaim.value)

/-- `resolve_conflict`. Claims of unranked sources, and ties at the top that disagree and
are equally fresh, are left to an authority. -/
def resolveConflict (entityId attributeName : String) (claims : List SourceClaim) (classifiedAs : ConflictClassification)
    (authorityRanking : Option (Dict Int)) (draw : Draw) : SemanticConflict :=
  let resolved (state : ConflictState) (winningSource : Option String) (rejectedSources : List String)
      (rule : Option String) (reasonCode : String) : SemanticConflict :=
    { conflictId := newIdPrefixed "semcfl" draw.uuid
      entityId
      attributeName
      classification := classifiedAs
      state
      claims
      winningSource
      rejectedSources
      rule
      reasonCode
      evidenceRefs := claims.filterMap fun claim => claim.evidenceRef.filter (· ≠ "")
      resolvedAt := draw.utcNowIso }
  let undecided (reasonCode : String) : SemanticConflict :=
    resolved .requiresAuthority none (claims.map SourceClaim.sourceId) none reasonCode
  let others (winner : SourceClaim) : List String := (claims.map SourceClaim.sourceId).filter (· ≠ winner.sourceId)
  match claims with
  | [] => resolved .unknown none [] none "NO_CLAIMS"
  | first :: further =>
    if (distinctValues claims).card = 1 then
      resolved .consistent (some first.sourceId) [] none (if further = [] then "SINGLE_SOURCE" else "ALL_SOURCES_AGREE")
    else
      let ranking := authorityRanking.getD []
      let rank (claim : SourceClaim) : Option Int := ranking.lookup claim.sourceId
      if claims.any fun claim => rank claim = none then undecided "NO_GOVERNED_AUTHORITY_FOR_SOURCE"
      else
        let topClaims := ByKey.greatest (fun claim => (rank claim).getD 0) claims
        match topClaims with
        | [] => undecided "TIED_AUTHORITY_AND_FRESHNESS"
        | [winner] =>
          resolved .conflict (some winner.sourceId) (others winner) (some "authority_precedence") "HIGHEST_AUTHORITY_WINS"
        | winner :: _ =>
          if (distinctValues topClaims).card = 1 then
            resolved .conflict (some winner.sourceId)
              ((claims.filter fun claim => claim.value.number ≠ winner.value.number).map SourceClaim.sourceId)
              (some "authority_precedence") "HIGHEST_AUTHORITY_TIER_AGREES"
          else match ByKey.greatest SourceClaim.observedAt topClaims with
          | [freshest] =>
            resolved .conflict (some freshest.sourceId) (others freshest) (some "authority_precedence+freshness_tiebreak")
              "FRESHEST_AMONG_HIGHEST_AUTHORITY"
          | _ => undecided "TIED_AUTHORITY_AND_FRESHNESS"

end ArgosCore
