import ArgosCore.Runtime

/-! The impact on the mission: what is known about an asset and how many technical
resources are affected give a level. What was not assessed is no low impact. -/

namespace ArgosCore

inductive MissionImpactLevel where
  | none
  | low
  | medium
  | high
  | critical
  | insufficientContext
  deriving DecidableEq, Repr

def MissionImpactLevel.text : MissionImpactLevel → String
  | .none => "NONE"
  | .low => "LOW"
  | .medium => "MEDIUM"
  | .high => "HIGH"
  | .critical => "CRITICAL"
  | .insufficientContext => "INSUFFICIENT_CONTEXT"

/-- A criticality or a crown-jewel flag that was not assessed is `none`. -/
structure MissionContext where
  missionContextId : String
  entityId : String
  criticality : Option String
  crownJewel : Option Bool
  acceptableDegradation : Option String
  maximumOutage : Option String
  recoveryPriority : Option Int
  dependencies : List String
  sourceId : String
  observedAt : String
  validFrom : String
  validUntil : Option String
  deriving DecidableEq, Repr

def MissionContext.hasSufficientContext (context : MissionContext) : Bool :=
  context.criticality.isSome && context.crownJewel.isSome

structure MissionContextRequest where
  entityId : String
  sourceId : String
  criticality : Option String := none
  crownJewel : Option Bool := none
  acceptableDegradation : Option String := none
  maximumOutage : Option String := none
  recoveryPriority : Option Int := none
  dependencies : List String := []
  validFrom : Option String := none
  validUntil : Option String := none

def buildMissionContext (request : MissionContextRequest) (draw : Draw) : MissionContext where
  missionContextId := newIdPrefixed "msnctx" draw.uuid
  entityId := request.entityId
  criticality := request.criticality
  crownJewel := request.crownJewel
  acceptableDegradation := request.acceptableDegradation
  maximumOutage := request.maximumOutage
  recoveryPriority := request.recoveryPriority
  dependencies := request.dependencies
  sourceId := request.sourceId
  observedAt := draw.utcNowIso
  validFrom := orDefault request.validFrom draw.utcNowIso
  validUntil := request.validUntil

structure BlastRadiusAssessment where
  technicalBlastRadius : Option Int
  operationalBlastRadius : MissionImpactLevel
  missionBlastRadius : MissionImpactLevel
  reason : String
  technicalEvidenceRefs : List String
  deriving DecidableEq, Repr

/-- `_CRITICALITY_RANK.get(criticality, 0)` -/
def criticalityRank : String → Nat
  | "low" => 1
  | "medium" => 2
  | "high" => 3
  | "critical" => 4
  | _ => 0

/-- `_operational_level` -/
def operationalLevel : Option Int → MissionImpactLevel
  | none => .insufficientContext
  | some count =>
    if count = 0 then .none
    else if count ≤ 2 then .low
    else if count ≤ 5 then .medium
    else .high

variable [Runtime]

/-- `_mission_level` -/
def missionLevel (context : Option MissionContext) (technicalCount : Option Int) : MissionImpactLevel × String :=
  match context with
  | none => (.insufficientContext, "sin MissionContext registrado para este activo")
  | some context =>
    if !context.hasSufficientContext then
      (.insufficientContext, "MissionContext existe pero criticality/crown_jewel no evaluados")
    else match technicalCount with
    | none => (.insufficientContext, "blast radius técnico no suministrado")
    | some count =>
      let criticality := context.criticality.getD ""
      let reason := "criticality=" ++ Runtime.reprStr criticality ++ " con impacto técnico real"
      if count = 0 then (.none, "sin recursos técnicos afectados")
      else if context.crownJewel = some true then (.critical, "activo crown-jewel con impacto técnico real")
      else if 3 ≤ criticalityRank criticality then (.high, reason)
      else if criticalityRank criticality = 2 then (.medium, reason)
      else (.low, reason)

def assessBlastRadius (context : Option MissionContext) (technicalAffectedCount : Option Int)
    (technicalEvidenceRefs : List String) : BlastRadiusAssessment :=
  let (mission, reason) := missionLevel context technicalAffectedCount
  { technicalBlastRadius := technicalAffectedCount
    operationalBlastRadius := operationalLevel technicalAffectedCount
    missionBlastRadius := mission
    reason
    technicalEvidenceRefs }

end ArgosCore
