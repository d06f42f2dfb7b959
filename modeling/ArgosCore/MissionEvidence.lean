import ArgosCore.DecisionEvidence
import ArgosCore.MissionContext
import ArgosCore.SemanticConflict
import ArgosCore.SemanticGraph
import Mathlib.Data.List.Dedup

/-! What a decision about a mission was based on, as a record: hashes of the graph and of the
mission context at that moment, and the conflicts and assessments themselves. -/

namespace ArgosCore

def optionalBool : Option Bool → Json
  | none => .null
  | some value => .bool value

def optionalInt : Option Int → Json
  | none => .null
  | some value => .int value

/-- `dataclasses.asdict` -/
def MissionContext.asDict (context : MissionContext) : Json.Object := [
  ("mission_context_id", .str context.missionContextId),
  ("entity_id", .str context.entityId),
  ("criticality", optionalStr context.criticality),
  ("crown_jewel", optionalBool context.crownJewel),
  ("acceptable_degradation", optionalStr context.acceptableDegradation),
  ("maximum_outage", optionalStr context.maximumOutage),
  ("recovery_priority", optionalInt context.recoveryPriority),
  ("dependencies", .arr (context.dependencies.map .str)),
  ("source_id", .str context.sourceId),
  ("observed_at", .str context.observedAt),
  ("valid_from", .str context.validFrom),
  ("valid_until", optionalStr context.validUntil)]

def ConflictClassification.text : ConflictClassification → String
  | .temporal => "TEMPORAL"
  | .authority => "AUTHORITY"
  | .semantic => "SEMANTIC"
  | .classification => "CLASSIFICATION"
  | .identity => "IDENTITY"

/-- `_conflict_to_dict` -/
def SemanticConflict.toDict (conflict : SemanticConflict) : Json.Object := [
  ("conflict_id", .str conflict.conflictId),
  ("entity_id", .str conflict.entityId),
  ("attribute", .str conflict.attributeName),
  ("classification", .str conflict.classification.text),
  ("state", .str conflict.state.text),
  ("winning_source", optionalStr conflict.winningSource),
  ("rejected_sources", .arr (conflict.rejectedSources.map .str)),
  ("rule", optionalStr conflict.rule),
  ("reason_code", .str conflict.reasonCode)]

def BlastRadiusAssessment.toDict (assessment : BlastRadiusAssessment) : Json.Object := [
  ("technical_blast_radius", optionalInt assessment.technicalBlastRadius),
  ("operational_blast_radius", .str assessment.operationalBlastRadius.text),
  ("mission_blast_radius", .str assessment.missionBlastRadius.text),
  ("reason", .str assessment.reason),
  ("technical_evidence_refs", .arr (assessment.technicalEvidenceRefs.map .str))]

structure MissionDecision where
  entityId : String
  semanticGraph : SemanticGraph
  missionContext : Option MissionContext
  temporalQueryTime : String
  conflicts : List SemanticConflict
  blastRadius : BlastRadiusAssessment
  safetyKernelState : String
  safetyKernelReason : String
  unknowns : List String

def SemanticGraph.sourceRefs (graph : SemanticGraph) : List String :=
  ((graph.entities.filterMap fun member => member.2.evidenceRef.filter (· ≠ "")) ++
    graph.relations.filterMap fun relation => relation.evidenceRef.filter (· ≠ "")).dedup.mergeSort

variable [Runtime]

/-- `_mission_context_hash` -/
def missionContextHash (context : Option MissionContext) : Option String :=
  context.map fun context =>
    hashJson (.obj (context.asDict.filter fun member => member.1 ∉ ["observed_at", "mission_context_id"]))

def buildMissionDecisionRecord (decision : MissionDecision) (draw : Draw) : Json.Object := [
  ("record_id", .str (newIdPrefixed "msndec" draw.uuid)),
  ("entity_id", .str decision.entityId),
  ("semantic_graph_snapshot_hash", .str decision.semanticGraph.snapshotHash),
  ("mission_context_hash", optionalStr (missionContextHash decision.missionContext)),
  ("temporal_query_time", .str decision.temporalQueryTime),
  ("source_refs", .arr (decision.semanticGraph.sourceRefs.map .str)),
  ("authority_resolution", .arr ((decision.conflicts.filter (·.state = .conflict)).map fun conflict => .obj conflict.toDict)),
  ("semantic_conflicts", .arr (decision.conflicts.map fun conflict => .obj conflict.toDict)),
  ("unknowns", .arr (decision.unknowns.map .str)),
  ("blast_radius_result", .obj decision.blastRadius.toDict),
  ("safety_kernel_state", .str decision.safetyKernelState),
  ("safety_kernel_reason", .str decision.safetyKernelReason),
  ("created_at", .str draw.utcNowIso)]

end ArgosCore
