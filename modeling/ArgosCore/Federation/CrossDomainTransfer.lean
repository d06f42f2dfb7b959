import ArgosCore.Federation.Ifc
import ArgosCore.Federation.Sanitizer

/-! A transfer between domains: policy, information flow control, sanitization and
approval, in this order. -/

namespace ArgosCore

inductive TransferOutcome where
  | released
  | denied
  | pendingApproval
  deriving DecidableEq, Repr

structure CrossDomainTransfer where
  transferId : String
  sourceDomain : String
  destinationDomain : String
  artifactRef : String
  originalClassification : String
  requestedClassification : String
  releasedClassification : Option String
  fieldsRemoved : List String
  transformations : List Transformation
  policyRef : String
  decisionRef : String
  approverRef : Option String
  evidenceRef : Option String
  timestamp : String
  outcome : TransferOutcome
  originalHash : Option String
  releasedHash : Option String

/-- The keyword arguments of `request_cross_domain_transfer` and their defaults. -/
structure TransferRequest where
  artifactRef : String
  payload : Json.Object
  sourceDomain : SecurityDomain
  destinationDomain : SecurityDomain
  originalClassification : String
  requestedClassification : String
  origin : String := "federation"
  purpose : String := "cross_domain_release"
  handling : String := "standard"
  exportability : String := "restricted"
  retentionProfile : String := "default"
  trust : String := "EXTERNAL"
  sanitizationRules : List SanitizationRule := []
  approverRef : Option String := none
  evidenceRef : Option String := none
  now : Option String := none

variable [Runtime]

/-- The label of the request; building it fails on an unknown classification. -/
def TransferRequest.label (request : TransferRequest) : Except String IfcLabel :=
  if real : request.originalClassification ∈ classificationLevels then
    .ok {
      classification := request.originalClassification
      origin := request.origin
      purpose := request.purpose
      domain := request.sourceDomain.domainId
      handling := request.handling
      exportability := request.exportability
      retentionProfile := request.retentionProfile
      trust := request.trust
      real }
  else .error (unknownClassification request.originalClassification)

def TransferRequest.ifcDecision (request : TransferRequest) : Except String IfcDecision := do
  let label ← request.label
  evaluateIfc label request.sourceDomain request.destinationDomain (some request.requestedClassification)

/-- The transfer that follows from the decision: only what is neither denied nor
waiting for an approval is sanitized and released. -/
def TransferRequest.settle (request : TransferRequest) (draw : Draw) (ifc : IfcDecision) : CrossDomainTransfer :=
  let closed (outcome : TransferOutcome) : CrossDomainTransfer :=
    { transferId := newIdPrefixed "xdxfer" draw.uuid
      sourceDomain := request.sourceDomain.domainId
      destinationDomain := request.destinationDomain.domainId
      artifactRef := request.artifactRef
      originalClassification := request.originalClassification
      requestedClassification := request.requestedClassification
      releasedClassification := none
      fieldsRemoved := []
      transformations := []
      policyRef := "ifc.evaluate_ifc"
      decisionRef := ifc.outcome.text
      approverRef := request.approverRef
      evidenceRef := request.evidenceRef
      timestamp := orDefault request.now draw.utcNowIso
      outcome
      originalHash := none
      releasedHash := none }
  if ifc.outcome = .deny then closed .denied
  else if ifc.outcome = .requireApproval ∧ request.approverRef = none then closed .pendingApproval
  else
    let sanitized := applySanitization request.payload request.sanitizationRules
    { closed .released with
      releasedClassification := some request.requestedClassification
      fieldsRemoved := sanitized.fieldsRemoved
      transformations := sanitized.transformations
      originalHash := some sanitized.originalHash
      releasedHash := some sanitized.releasedHash }

def requestCrossDomainTransfer (request : TransferRequest) (draw : Draw) : Except String CrossDomainTransfer :=
  request.ifcDecision.map (request.settle draw)

end ArgosCore
