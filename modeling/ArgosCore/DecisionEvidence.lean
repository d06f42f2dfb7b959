import ArgosCore.EvidenceWriter

/-! Anchoring the record of a decision: its text is written as one artifact, and that
artifact alone is the content of an evidence root. -/

namespace ArgosCore

/-- `MissionDecisionEvidence` and `FederationEvidence`. -/
structure DecisionEvidence where
  record : Json.Object
  manifest : Json.Object
  evidenceRoot : EvidenceRoot
  deriving DecidableEq

inductive DecisionEvidenceError where
  | write (error : WriteError)
  | root (error : EvidenceRootError)
  deriving DecidableEq, Repr

structure AnchorDraws where
  written : WriteDraws
  rooted : Draw

/-- `json.dumps(record, sort_keys=True, ensure_ascii=False).encode("utf-8")` -/
def recordContent (record : Json.Object) : ByteArray := (Json.spaced false (.obj record)).toUTF8

def recordRequest (record : Json.Object) : WriteRequest where
  content := recordContent record
  mediaType := "application/json"
  retention := { policy := "365d" }

variable [Runtime]

/-- What both kinds of records have in common: `subjectKey` is the key of the record under which it names
what the decision was about. -/
def anchorRecord (producer subjectKey : String) (record : Json.Object) (writer : EvidenceWriter) (runId : String)
    (draws : AnchorDraws) : Except DecisionEvidenceError DecisionEvidence :=
  match writer.writeBytes (recordRequest record) draws.written with
  | .error error => .error (.write error)
  | .ok manifest =>
    match buildEvidenceRoot [some (Manifest.ofDict manifest)] runId producer (textAt record subjectKey) none true
        draws.rooted with
    | .error error => .error (.root error)
    | .ok evidenceRoot => .ok { record, manifest, evidenceRoot }

/-- `record_mission_decision_evidence` -/
def recordMissionDecisionEvidence := anchorRecord "mission-decision-record" "entity_id"

/-- `record_federation_evidence` -/
def recordFederationEvidence := anchorRecord "federation-decision-record" "artifact_ref"

end ArgosCore
