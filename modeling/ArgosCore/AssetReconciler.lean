import ArgosCore.Correlator
import ArgosCore.Foundations.WriteOnce
import ArgosCore.SemanticConflict

/-! Reconciling what several connectors know about an asset: fields are merged, sources
that disagree are reported, and with a ranking of authority each conflict is resolved by
policy instead of order. -/

namespace ArgosCore

def mergeableFields : List String := ["workload_id", "image_ref", "node", "namespace", "criticality_esp"]

/-- What one connector says about an asset. The values of its fields are members of sets,
which lists and dictionaries cannot be. -/
structure AssetFragment where
  source : String
  assetId : String
  fields : Dict Scalar
  deriving DecidableEq, Repr

structure ConflictResolution where
  state : ConflictState
  winningSource : Option String
  rejectedSources : List String
  rule : Option String
  reasonCode : String
  deriving DecidableEq, Repr

structure FieldConflict where
  field : String
  values : Dict Scalar
  resolution : Option ConflictResolution
  deriving DecidableEq, Repr

inductive ReconcileError where
  | noFragments
  | differentAssets (assetIds : List String)
  | invalidAssetSnapshot (errors : List String)
  deriving DecidableEq, Repr

/-- The two dictionaries of the merge: the last value of a field, and the last value that
each source gives it. -/
structure Merge where
  merged : Dict Scalar := []
  seenByField : Dict (Dict Scalar) := []

def Merge.see (merge : Merge) (source field : String) (value : Scalar) : Merge where
  merged := merge.merged.set field value
  seenByField := merge.seenByField.set field (((merge.seenByField.lookup field).getD []).set source value)

def Merge.readField (fragment : AssetFragment) (merge : Merge) (field : String) : Merge :=
  match fragment.fields.lookup field with
  | none => merge
  | some value => merge.see fragment.source field value

def mergeFragments (fragments : List AssetFragment) : Merge :=
  fragments.foldl (fun merge fragment => mergeableFields.foldl (Merge.readField fragment) merge) {}

/-- The clock when the claims about a field are made, and the draw of its resolution. -/
structure FieldDraws where
  claimed : Draw
  resolved : Draw

def resolveField (assetId field : String) (values : Dict Scalar) (ranking : Dict Int) (draws : FieldDraws) :
    SemanticConflict :=
  let claims := values.map fun item =>
    { sourceId := item.1, value := item.2, observedAt := draws.claimed.utcNowIso : SourceClaim }
  resolveConflict assetId field claims .classification (some ranking) draws.resolved

/-- One turn of the loop over the fields that were seen. Without a winner the field is
left out of the merge. -/
def settleField (assetId : String) (authorityRanking : Option (Dict Int)) (draws : String → FieldDraws)
    (state : Dict Scalar × List FieldConflict) (seen : String × Dict Scalar) : Dict Scalar × List FieldConflict :=
  let (field, values) := seen
  if (Scalar.setOf (values.map Prod.snd)).card ≤ 1 then state
  else match authorityRanking with
  | none => (state.1, state.2 ++ [{ field, values, resolution := none }])
  | some ranking =>
    let resolution := resolveField assetId field values ranking (draws field)
    (state.1.put field (resolution.winningSource.bind fun source => values.lookup source), state.2 ++ [
      { field
        values
        resolution := some {
          state := resolution.state
          winningSource := resolution.winningSource
          rejectedSources := resolution.rejectedSources
          rule := resolution.rule
          reasonCode := resolution.reasonCode } }])

def reconcile (fragments : List AssetFragment) (authorityRanking : Option (Dict Int)) (draws : String → FieldDraws) :
    Except ReconcileError (Dict Scalar × List FieldConflict) :=
  match fragments with
  | [] => .error .noFragments
  | first :: others =>
    if others.any fun fragment => fragment.assetId ≠ first.assetId then
      .error (.differentAssets (fragments.map AssetFragment.assetId).eraseDups)
    else
      let merge := mergeFragments fragments
      .ok (merge.seenByField.foldl (settleField first.assetId authorityRanking draws) (merge.merged, []))

structure ReconcileResult where
  payload : Json.Object
  conflicts : List FieldConflict
  deriving DecidableEq

/-- The payload before its envelope: what the merge lacks of the required fields gets a default. -/
def snapshotPayload (assetId : String) (mergedFields : Dict Scalar) : Json.Object :=
  let fields := mergedFields.map fun item => (item.1, item.2.toJson)
  let payload := Dict.setAll [("asset_id", .str assetId)] fields
  (payload.claim "namespace" (.str "unknown")).claim "criticality_esp" (.str "medium")

/-- `detect_drift` -/
def detectDrift (asDesigned asBuilt : Json.Object) : List (String × Json × Json) :=
  mergeableFields.filterMap fun field =>
    let designedValue := Json.get asDesigned field
    let builtValue := Json.get asBuilt field
    if designedValue.equals builtValue then none else some (field, designedValue, builtValue)

variable [Runtime]

def buildAssetSnapshotPayload (validate : Json.Object → List String) (context : EnvelopeContext) (assetId : String)
    (fragments : List AssetFragment) (authorityRanking : Option (Dict Int)) (draws : String → FieldDraws) (draw : Draw) :
    Except ReconcileError ReconcileResult := do
  let (mergedFields, conflicts) ← reconcile fragments authorityRanking draws
  let payload := snapshotPayload assetId mergedFields
  let fullPayload := (buildEnvelope context payload (newIdPrefixed "asn" draw.uuid) draw).setAll payload
  if validate fullPayload ≠ [] then throw (.invalidAssetSnapshot (validate fullPayload))
  return { payload := fullPayload, conflicts }

end ArgosCore
