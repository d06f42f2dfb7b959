import ArgosCore.Federation.SecurityDomain

/-! Artifacts that peers of a federation exchange. The content hash covers the
payload; the labels travel beside it. -/

namespace ArgosCore

def artifactTypes : List String :=
  ["IOC", "TTP", "DetectionRule", "AttackPattern", "ValidatedRunbook", "SecurityFinding", "ModelEvaluation",
    "KnowledgeArtifact", "SemanticContextFragment"]

def ingestableTrustLabels : List String := ["TRUSTED", "EXTERNAL", "UNTRUSTED", "UNKNOWN"]

structure FederatedArtifact where
  artifactId : String
  artifactType : String
  originInstance : String
  originDomain : String
  originTenant : String
  originClassification : String
  originTrust : String
  sourceRefs : List String
  payload : Json.Object
  contentHash : String
  schemaVersion : String
  createdAt : String
  validFrom : String
  validUntil : Option String
  handling : String
  exportability : String
  provenance : List String
  evidenceRef : Option String
  parentArtifact : Option String

/-- The keyword arguments of `build_federated_artifact` and their defaults. -/
structure ArtifactRequest where
  artifactType : String
  originInstance : String
  originDomain : String
  originTenant : String
  originClassification : String
  payload : Json.Object
  originTrust : String := "EXTERNAL"
  sourceRefs : List String := []
  validFrom : Option String := none
  validUntil : Option String := none
  handling : String := "standard"
  exportability : String := "restricted"
  provenance : List String := []
  evidenceRef : Option String := none
  parentArtifact : Option String := none
  schemaVersion : String := "1.0.0"

variable [Runtime]

/-- `_content_hash` -/
def contentHashOf (payload : Json.Object) : String := hashJson (.obj payload)

def buildFederatedArtifact (request : ArtifactRequest) (draw : Draw) : Except String FederatedArtifact :=
  if request.artifactType ∉ artifactTypes then
    .error (Runtime.reprStr request.artifactType ++ " no es un tipo de artefacto federado soportado: " ++
      reprList (artifactTypes.insertionSort (· ≤ ·)))
  else if request.originClassification ∉ classificationLevels then
    .error (unknownClassification request.originClassification)
  else if request.originTrust = "AUTHORITATIVE" then
    .error ("origin_trust=AUTHORITATIVE no puede asignarse al ingerir un artefacto federado (§12) -- " ++
      "solo una decisión local posterior puede promoverlo")
  else if request.originTrust ∉ ingestableTrustLabels then
    .error (Runtime.reprStr request.originTrust ++ " no es una etiqueta de confianza ingerible: " ++
      reprTuple ingestableTrustLabels)
  else
    .ok {
      artifactId := newIdPrefixed "fedart" draw.uuid
      artifactType := request.artifactType
      originInstance := request.originInstance
      originDomain := request.originDomain
      originTenant := request.originTenant
      originClassification := request.originClassification
      originTrust := request.originTrust
      sourceRefs := request.sourceRefs
      payload := request.payload
      contentHash := contentHashOf request.payload
      schemaVersion := request.schemaVersion
      createdAt := draw.utcNowIso
      validFrom := orDefault request.validFrom draw.utcNowIso
      validUntil := request.validUntil
      handling := request.handling
      exportability := request.exportability
      provenance := request.provenance
      evidenceRef := request.evidenceRef
      parentArtifact := request.parentArtifact }

def verifyContentHash (artifact : FederatedArtifact) : Bool := contentHashOf artifact.payload = artifact.contentHash

theorem buildFederatedArtifact_ok {request : ArtifactRequest} {draw : Draw} {artifact : FederatedArtifact}
    (built : buildFederatedArtifact request draw = .ok artifact) :
    verifyContentHash artifact = true ∧ artifact.originClassification ∈ classificationLevels ∧
      artifact.originTrust ≠ "AUTHORITATIVE" := by
  rw [buildFederatedArtifact] at built
  split_ifs at built with type classification authoritative ingestable
  obtain rfl := Except.ok.inj built
  exact ⟨decide_eq_true rfl, classification, authoritative⟩

end ArgosCore
