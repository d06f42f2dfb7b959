import ArgosCore.VulnerabilityAdapter

/-! The risk engine: a score for each finding, with the factors that explain it, and the
ranking of findings by their scores. -/

namespace ArgosCore

/-- What the engine computes with: the literals of the source, products and comparison. -/
class RiskFloats extends Floats where
  literal : Rat → Float
  mul : Float → Float → Float
  lt : Float → Float → Bool

/-- `_CRITICALITY_WEIGHT` -/
def criticalityWeights : Dict Rat := [("low", 1), ("medium", 2), ("high", 3), ("critical", 4)]

def unknownCriticalityWeight : Rat := 1 / 2

def kevMultiplier : Rat := 3

def fixAvailableDiscount : Rat := 1 / 2

/-- `_CRITICALITY_WEIGHT.get(criticality, _UNKNOWN_CRITICALITY_WEIGHT)` of a value that can be a key. -/
def criticalityWeight : Json → Rat
  | .str criticality => (criticalityWeights.lookup criticality).getD unknownCriticalityWeight
  | _ => unknownCriticalityWeight

/-- A value that cannot be the key of a dictionary. -/
inductive RiskError where
  | typeError
  deriving DecidableEq, Repr

section
variable [RiskFloats]

structure RiskExplanation where
  epss : Floats.Float
  kev : Bool
  kevMultiplier : Floats.Float
  assetCriticality : Json
  criticalityWeight : Floats.Float
  criticalitySourceAssetId : Json
  fixAvailable : Bool
  fixFactor : Floats.Float
  sourceRef : Json

structure RiskScore where
  findingId : Json
  score : Floats.Float
  explanation : RiskExplanation

/-- The criticality of the asset and the id of the asset that it was read from. -/
def assetCriticality (asset : Option Json.Object) : Json × Json :=
  match asset.bind (·.lookup "criticality_esp"), asset with
  | some criticality, some asset => (criticality, Json.getOr asset "asset_id" (.str "?"))
  | _, _ => (.str "unknown", .null)

def scoreFinding (finding : VulnerabilityFinding) (asset : Option Json.Object) : Except RiskError RiskScore :=
  let epss := finding.epss.getD (RiskFloats.literal 0)
  let kev := (Json.get finding.members "kev").truthy
  let fixAvailable := (Json.get finding.members "fix_available").truthy
  let (criticality, source) := assetCriticality asset
  let multiplier := RiskFloats.literal (if kev then kevMultiplier else 1)
  let weight := RiskFloats.literal (criticalityWeight criticality)
  let fixFactor := RiskFloats.literal (if fixAvailable then fixAvailableDiscount else 1)
  if (Scalar.ofJson? criticality).isNone then .error .typeError
  else .ok {
    findingId := Json.getOr finding.members "finding_id" (.str "?")
    score := RiskFloats.mul (RiskFloats.mul (RiskFloats.mul epss multiplier) weight) fixFactor
    explanation := {
      epss
      kev
      kevMultiplier := multiplier
      assetCriticality := criticality
      criticalityWeight := weight
      criticalitySourceAssetId := source
      fixAvailable
      fixFactor
      sourceRef := Json.get finding.members "source_ref" } }

/-- `assets_by_id.get(f.get("asset_id", ""))` -/
def assetOfFinding (assetsById : Dict Json.Object) (finding : VulnerabilityFinding) :
    Except RiskError (Option Json.Object) :=
  match Scalar.ofJson? (Json.getOr finding.members "asset_id" (.str "")) with
  | none => .error .typeError
  | some (.str assetId) => .ok (assetsById.lookup assetId)
  | some _ => .ok none

def scoreIn (assetsById : Dict Json.Object) (finding : VulnerabilityFinding) : Except RiskError RiskScore := do
  scoreFinding finding (← assetOfFinding assetsById finding)

/-- `sorted(scored, key=lambda r: r.score, reverse=True)`, in which equal scores keep their order. -/
def rankFindings (findings : List VulnerabilityFinding) (assetsById : Dict Json.Object) : Except RiskError (List RiskScore) :=
  return (← findings.mapM (scoreIn assetsById)).insertionSort fun first second => RiskFloats.lt first.score second.score = false

end

end ArgosCore
