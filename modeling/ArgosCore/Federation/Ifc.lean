import ArgosCore.Federation.SecurityDomain

/-! Information flow control for transfers between domains: one decision from the
label of the data, the two domains and the classification that is asked for. -/

namespace ArgosCore

inductive IfcOutcome where
  | allow
  | deny
  | sanitize
  | requireApproval
  deriving DecidableEq, Repr

def IfcOutcome.text : IfcOutcome → String
  | .allow => "ALLOW"
  | .deny => "DENY"
  | .sanitize => "SANITIZE"
  | .requireApproval => "REQUIRE_APPROVAL"

/-- The label that travels with the data; its classification is one of the levels. -/
structure IfcLabel where
  classification : String
  origin : String
  purpose : String
  domain : String
  handling : String
  exportability : String
  retentionProfile : String
  trust : String
  real : classification ∈ classificationLevels

structure IfcDecision where
  outcome : IfcOutcome
  reasonCodes : List String
  label : IfcLabel
  requestedClassification : String

variable [Runtime]

def evaluateIfc (label : IfcLabel) (source destination : SecurityDomain) (requested : Option String) :
    Except String IfcDecision :=
  let target := orDefault requested label.classification
  let decided (outcome : IfcOutcome) (reasonCodes : List String) : Except String IfcDecision :=
    .ok ⟨outcome, reasonCodes, label, target⟩
  if target ∉ classificationLevels then .error (unknownClassification target)
  else
    let (domainOk, domainReason) := transferAllowed source destination
    if !domainOk then decided .deny ["DOMAIN_TRANSFER_NOT_ALLOWED", domainReason]
    else if label.exportability = "forbidden" then decided .deny ["EXPORTABILITY_FORBIDDEN"]
    else if classificationRank target < classificationRank label.classification then
      decided .requireApproval ["CLASSIFICATION_DOWNGRADE_REQUESTED"]
    else if label.trust ∈ ["UNTRUSTED", "UNKNOWN"] then decided .requireApproval ["ORIGIN_TRUST_" ++ label.trust]
    else if destination.classification ≠ label.classification then decided .sanitize ["CROSS_CLASSIFICATION_DOMAIN"]
    else decided .allow []

end ArgosCore
