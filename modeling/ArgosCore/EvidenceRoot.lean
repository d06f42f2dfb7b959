import ArgosCore.Runtime

/-! The evidence root: one hash over the artifacts that a run's manifests name. -/

namespace ArgosCore

def evidenceRootAlgorithm : String := "sha256"

def evidenceRootCanonicalization : String := "sorted-json-by-sha256.v1"

/-- What a manifest says about its artifact; an absent key is `none`. -/
structure Manifest where
  artifactId : Option String
  sha256 : Option String
  objectRef : Option String
  deriving DecidableEq, Repr

structure ArtifactRef where
  artifactId : String
  sha256 : String
  objectRef : String
  deriving DecidableEq, Repr

structure EvidenceRoot where
  rootId : String
  runId : String
  incidentId : Option String
  algorithm : String
  canonicalization : String
  artifactCount : Nat
  artifactRefs : List ArtifactRef
  rootHash : String
  createdAt : String
  producer : String
  releaseRef : Option String
  deriving DecidableEq, Repr

/-- `MissingCriticalEvidence` shows the manifest that was refused. -/
inductive EvidenceRootError where
  | missingCriticalEvidence (manifest : Option Manifest)
  | inconsistentEvidenceRoot (message : String)
  | keyError (key : String)
  deriving DecidableEq, Repr

def ArtifactRef.toDict (ref : ArtifactRef) : Json.Object :=
  [("artifact_id", .str ref.artifactId), ("sha256", .str ref.sha256), ("object_ref", .str ref.objectRef)]

def ArtifactRef.Before (left right : ArtifactRef) : Prop :=
  left.sha256 < right.sha256 ∨ left.sha256 = right.sha256 ∧ left.artifactId ≤ right.artifactId

instance (left right : ArtifactRef) : Decidable (left.Before right) := inferInstanceAs (Decidable (_ ∨ _))

/-- `sorted(refs, key=...)`, which keeps the order of equal keys. -/
def sortedRefs (refs : List ArtifactRef) : List ArtifactRef := refs.insertionSort ArtifactRef.Before

def Manifest.complete (manifest : Manifest) : Bool := manifest.artifactId.getD "" ≠ "" && manifest.sha256.getD "" ≠ ""

/-- `_artifact_ref_from_manifest` -/
def artifactRefFromManifest (manifest : Manifest) : Except EvidenceRootError ArtifactRef :=
  match manifest.artifactId, manifest.sha256, manifest.objectRef with
  | none, _, _ => .error (.keyError "artifact_id")
  | _, none, _ => .error (.keyError "sha256")
  | _, _, none => .error (.keyError "object_ref")
  | some artifactId, some sha256, some objectRef => .ok { artifactId, sha256, objectRef }

variable [Runtime]

/-- `_canonical_hash` -/
def canonicalHash (refs : List ArtifactRef) : String :=
  hashJson (.arr ((sortedRefs refs).map fun ref => .obj ref.toDict))

/-- One turn of the loop over the manifests. `none` is `None` or an empty dict. -/
def addManifest (critical : Bool) (byId : Dict ArtifactRef) (manifest : Option Manifest) :
    Except EvidenceRootError (Dict ArtifactRef) :=
  match manifest.filter Manifest.complete with
  | none => if critical then .error (.missingCriticalEvidence manifest) else .ok byId
  | some complete =>
    match artifactRefFromManifest complete with
    | .error error => .error error
    | .ok ref =>
      match byId.lookup ref.artifactId with
      | none => .ok (byId.set ref.artifactId ref)
      | some existing =>
        if existing.sha256 ≠ ref.sha256 then
          .error (.inconsistentEvidenceRoot ("artifact_id " ++ Runtime.reprStr ref.artifactId ++
            " declarado con sha256 distintos: " ++ Runtime.reprStr existing.sha256 ++ " vs " ++
            Runtime.reprStr ref.sha256))
        else .ok (byId.set ref.artifactId ref)

def addManifests (critical : Bool) (byId : Dict ArtifactRef) :
    List (Option Manifest) → Except EvidenceRootError (Dict ArtifactRef)
  | [] => .ok byId
  | manifest :: manifests =>
    match addManifest critical byId manifest with
    | .error error => .error error
    | .ok extended => addManifests critical extended manifests

def buildEvidenceRoot (manifests : List (Option Manifest)) (runId producer : String) (incidentId releaseRef : Option String)
    (critical : Bool) (draw : Draw) : Except EvidenceRootError EvidenceRoot :=
  match addManifests critical [] manifests with
  | .error error => .error error
  | .ok byId =>
    let refs := byId.map Prod.snd
    .ok
      { rootId := newIdPrefixed "root" draw.uuid
        runId
        incidentId
        algorithm := evidenceRootAlgorithm
        canonicalization := evidenceRootCanonicalization
        artifactCount := refs.length
        artifactRefs := sortedRefs refs
        rootHash := canonicalHash refs
        createdAt := draw.utcNowIso
        producer
        releaseRef }

def recomputeRootHash (root : EvidenceRoot) : String := canonicalHash root.artifactRefs

def verifyEvidenceRoot (root : EvidenceRoot) : Bool := recomputeRootHash root = root.rootHash

end ArgosCore
