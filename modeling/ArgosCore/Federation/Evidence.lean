import ArgosCore.Federation.CrossDomainTransfer
import ArgosCore.Federation.Decision

/-! The records of federation decisions and of transfers, as they are hashed into the
evidence. -/

namespace ArgosCore

def FederationOutcome.text : FederationOutcome → String
  | .accept => "ACCEPT"
  | .quarantine => "QUARANTINE"
  | .reject => "REJECT"
  | .localRevalidationRequired => "LOCAL_REVALIDATION_REQUIRED"

def TransferOutcome.text : TransferOutcome → String
  | .released => "RELEASED"
  | .denied => "DENIED"
  | .pendingApproval => "PENDING_APPROVAL"

def textList (items : List String) : Json := .arr (items.map .str)

def buildFederationDecisionRecord (decision : FederationDecision) (artifact : FederatedArtifact) (draw : Draw) :
    Json.Object :=
  [("record_id", .str decision.decisionId),
    ("record_type", .str "FederationDecisionRecord"),
    ("artifact_ref", .str artifact.artifactId),
    ("artifact_type", .str artifact.artifactType),
    ("origin_instance", .str artifact.originInstance),
    ("origin_domain", .str artifact.originDomain),
    ("content_hash", .str artifact.contentHash),
    ("local_domain", .str decision.localDomain),
    ("decision", .str decision.decision.text),
    ("reason_codes", textList decision.reasonCodes),
    ("required_revalidation", textList decision.requiredRevalidation),
    ("semantic_conflict_result", .str decision.semanticConflictResult.text),
    ("decision_time", .str decision.decisionTime),
    ("created_at", .str draw.utcNowIso)]

def buildCrossDomainTransferRecord (transfer : CrossDomainTransfer) (draw : Draw) : Json.Object :=
  [("record_id", .str transfer.transferId),
    ("record_type", .str "CrossDomainTransferRecord"),
    ("source_domain", .str transfer.sourceDomain),
    ("destination_domain", .str transfer.destinationDomain),
    ("artifact_ref", .str transfer.artifactRef),
    ("original_classification", .str transfer.originalClassification),
    ("requested_classification", .str transfer.requestedClassification),
    ("released_classification", optionalStr transfer.releasedClassification),
    ("fields_removed", textList transfer.fieldsRemoved),
    ("outcome", .str transfer.outcome.text),
    ("approver_ref", optionalStr transfer.approverRef),
    ("original_hash", optionalStr transfer.originalHash),
    ("released_hash", optionalStr transfer.releasedHash),
    ("timestamp", .str transfer.timestamp),
    ("created_at", .str draw.utcNowIso)]

end ArgosCore
