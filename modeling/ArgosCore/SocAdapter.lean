import ArgosCore.Correlator

/-! Handing a case over to a SOC, and the copy of it that is exported at a traffic light
level. The required fields stay in every copy; what they say is generalised. -/

namespace ArgosCore

def redactedSummary : String :=
  "Resumen redactado por nivel TLP — ver canal autorizado para detalle completo."

/-- Which optional fields a level keeps. -/
def optionalFieldsAllowed : Dict (List String) := [
  ("RED", []),
  ("AMBER", ["actions"]),
  ("GREEN", ["actions", "attack_techniques"]),
  ("CLEAR", ["actions", "attack_techniques", "iocs"])]

def optionalFields : List String := ["actions", "attack_techniques", "iocs"]

inductive HandoverError where
  | unknownTlp (tlp : String)
  | missingKey (key : String)
  | wrongType
  | invalidHandover (errors : List String)
  deriving DecidableEq, Repr

/-- `for item in value`: an object gives its keys, a string its characters. -/
def iterate : Json → Except HandoverError (List Json)
  | .arr items => .ok items
  | .obj members => .ok (members.map fun member => .str member.1)
  | .str text => .ok (text.toList.map fun c => .str (String.singleton c))
  | .null | .bool _ | .int _ => .error .wrongType

/-- `{**entry, "description": ""}` -/
def redactEntry : Json → Except HandoverError Json
  | .obj entry => .ok (.obj (Dict.set entry "description" (.str "")))
  | _ => .error .wrongType

def redactForTlp (payload : Json.Object) (tlp : String) : Except HandoverError Json.Object :=
  match optionalFieldsAllowed.lookup tlp with
  | none => .error (.unknownTlp tlp)
  | some allowedOptional =>
    let redacted := (optionalFields.filter (· ∉ allowedOptional)).foldl Dict.erase payload
    if tlp = "RED" then do
      let summarised := redacted.set "incident_summary" (.str redactedSummary)
      let entries ← iterate (Json.getOr summarised "timeline" (.arr []))
      let timeline ← entries.mapM redactEntry
      return summarised.set "timeline" (.arr timeline)
    else return redacted

structure HandoverRequest where
  incident : Json.Object
  residualRisk : String
  evidenceManifestRef : String
  tlp : String
  iocs : Option (List String) := none
  actions : Option (List String) := none

def assetOf : Json → Except HandoverError (Option Json)
  | .obj entity =>
    if (Json.get entity "type").equals (.str "asset") then
      match entity.lookup "id" with
      | none => .error (.missingKey "id")
      | some id => .ok (some id)
    else .ok none
  | _ => .error .wrongType

def handoverAssets (incident : Json.Object) : Except HandoverError (List Json) := do
  let entities ← iterate (Json.getOr incident "entities" (.arr []))
  let assets ← entities.mapM assetOf
  return assets.filterMap id

def optionalField (name : String) (value : Json) : Json.Object := if value.truthy then [(name, value)] else []

def textsJson (texts : Option (List String)) : Json := .arr ((texts.getD []).map Json.str)

variable [Runtime]

def handoverPayload (request : HandoverRequest) (caseId : String) : Except HandoverError Json.Object := do
  let incidentId ← match request.incident.lookup "incident_id" with
    | none => throw (.missingKey "incident_id")
    | some incidentId => pure incidentId
  let severity := Json.getOr request.incident "severity" (.str "desconocida")
  let assets ← handoverAssets request.incident
  return [
    ("case_id", .str caseId),
    ("incident_summary", .str ("Incidente " ++ strJson incidentId ++ ", severidad " ++ strJson severity)),
    ("timeline", Json.getOr request.incident "timeline" (.arr [])),
    ("assets", .arr assets),
    ("residual_risk", .str request.residualRisk),
    ("evidence_manifest_ref", .str request.evidenceManifestRef),
    ("tlp", .str request.tlp)] ++
    optionalField "attack_techniques" (Json.get request.incident "attack_techniques") ++
    optionalField "iocs" (textsJson request.iocs) ++
    optionalField "actions" (textsJson request.actions)

def buildHandover (validate : Json.Object → List String) (context : EnvelopeContext) (request : HandoverRequest)
    (draw : Draw) : Except HandoverError Json.Object := do
  let caseId := newIdPrefixed "case" draw.uuid
  let payload ← handoverPayload request caseId
  let fullPayload := (buildEnvelope context payload caseId draw).setAll payload
  if validate fullPayload ≠ [] then throw (.invalidHandover (validate fullPayload))
  return fullPayload

end ArgosCore
