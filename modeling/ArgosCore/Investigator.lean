import ArgosCore.Correlator

/-! The investigator: which level of context comes next, and the assessment of a threat. A signal
is left alone while a tombstone for its signature and one of its entities is in force. -/

namespace ArgosCore
open IsoTime

/-- The keys of a tombstone that are read. Nothing has checked that its times are texts. -/
structure DetectionTombstone where
  entityRefs : List String
  signalSignature : String
  validFrom : Json
  validUntil : Json
  deriving DecidableEq

inductive TombstoneError where
  | invalidIsoformat (text : String)
  | noText
  | naiveAndAware
  deriving DecidableEq, Repr

namespace Investigator

/-- `datetime.datetime.fromisoformat(value)` -/
def parseTime : Json → Except TombstoneError DateTime
  | .str text =>
    match fromisoformat text with
    | none => .error (.invalidIsoformat text)
    | some time => .ok time
  | _ => .error .noText

/-- `left <= right`, of datetimes that are both aware or both naive. -/
def notAfter (left right : DateTime) : Except TombstoneError Bool :=
  match left.offset, right.offset with
  | some ahead, some other => .ok (left.wall - ahead ≤ right.wall - other)
  | none, none => .ok (left.wall ≤ right.wall)
  | _, _ => .error .naiveAndAware

/-- The body of the loop: whether this tombstone ends it with `True`. -/
def suppresses (entityRefs : List String) (signalSignature : String) (now : DateTime) (tombstone : DetectionTombstone) :
    Except TombstoneError Bool :=
  if tombstone.signalSignature ≠ signalSignature then .ok false
  else if !entityRefs.any (· ∈ tombstone.entityRefs) then .ok false
  else do
    let validFrom ← parseTime tombstone.validFrom
    let validUntil ← parseTime tombstone.validUntil
    -- a chained comparison leaves out its second part when the first does not hold
    if ← notAfter validFrom now then notAfter now validUntil else return false

end Investigator

/-- `is_signal_tombstoned` -/
def isSignalTombstoned (entityRefs : List String) (signalSignature : String) (tombstones : List DetectionTombstone)
    (now : DateTime) : Except TombstoneError Bool :=
  tombstones.anyM (Investigator.suppresses entityRefs signalSignature now)

/-- `_CONTEXT_LEVELS` -/
def contextLevels : List String := ["L0", "L1", "L2", "L3", "L4", "L5"]

inductive AssessmentError where
  | noInvestigationRef
  | noEvidenceRef
  | invalidThreatAssessment (errors : List String)
  deriving DecidableEq, Repr

/-- The keyword arguments of `build_threat_assessment` and their defaults. -/
structure AssessmentRequest where
  investigationRefs : List String
  conclusion : String
  evidenceRefs : List String
  attackTechniques : Option (List String) := none
  affectedAssets : Option (List String) := none
  affectedIdentities : Option (List String) := none
  missionImpact : Option String := none
  hypotheses : Option (List String) := none
  unknowns : Option (List String) := none

namespace AssessmentRequest

def listed (name : String) (texts : Option (List String)) : Json.Object :=
  match texts.getD [] with
  | [] => []
  | text :: others => [(name, .arr ((text :: others).map .str))]

def payload (request : AssessmentRequest) (assessmentId : String) : Json.Object :=
  [("assessment_id", .str assessmentId),
    ("investigation_refs", .arr (request.investigationRefs.map .str)),
    ("conclusion", .str request.conclusion),
    ("evidence_refs", .arr (request.evidenceRefs.map .str))] ++
    listed "attack_techniques" request.attackTechniques ++
    listed "affected_assets" request.affectedAssets ++
    listed "affected_identities" request.affectedIdentities ++
    [("mission_impact", optionalStr request.missionImpact)] ++
    listed "hypotheses" request.hypotheses ++
    listed "unknowns" request.unknowns

end AssessmentRequest

variable [Runtime]

/-- `plan_next_context_level`; the error is the text of `InvalidContextLevel`. -/
def planNextContextLevel (currentLevel : Option String) (hypothesisStillOpen : Bool) : Except String (Option String) :=
  match currentLevel with
  | none => .ok contextLevels[0]?
  | some level =>
    if level ∉ contextLevels then .error ("nivel de contexto desconocido: " ++ Runtime.reprStr level)
    else if !hypothesisStillOpen then .ok none
    else
      let index := contextLevels.idxOf level
      if index = contextLevels.length - 1 then .ok none else .ok contextLevels[index + 1]?

def buildThreatAssessment (validate : Json.Object → List String) (context : EnvelopeContext) (request : AssessmentRequest)
    (draw : Draw) : Except AssessmentError Json.Object :=
  if request.investigationRefs = [] then .error .noInvestigationRef
  else if request.evidenceRefs = [] then .error .noEvidenceRef
  else
    let assessmentId := newIdPrefixed "assess" draw.uuid
    let payload := request.payload assessmentId
    let fullPayload := (buildEnvelope context payload assessmentId draw).setAll payload
    if validate fullPayload ≠ [] then .error (.invalidThreatAssessment (validate fullPayload)) else .ok fullPayload

end ArgosCore
