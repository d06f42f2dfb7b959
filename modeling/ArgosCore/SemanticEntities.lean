import ArgosCore.SemanticGraph

/-! The entities of the semantic graph that are made from documents of other services. What
an entity says of a document is taken from it, its source included. -/

namespace ArgosCore

/-- `ENTITY_TYPES` -/
def entityTypes : List String :=
  ["Asset", "Identity", "Application", "Service", "MissionCapability", "MissionObjective", "Vulnerability", "Technique",
    "Incident", "Control", "Policy", "Runbook", "Action"]

inductive EntityError where
  | unknownEntityType (message : String)
  | keyError (key : String)
  /-- A producer that is no text, which the code would let through. -/
  | undeclaredType
  deriving DecidableEq, Repr

/-- What the caller says about the statement. -/
structure EntityDetails where
  sourceType : String
  sourceVersion : String
  authority : String
  evidenceRef : Option String := none
  validFrom : Option String := none
  validUntil : Option String := none
  deriving DecidableEq, Repr

/-- A decoded document; no object in it names a key twice. -/
structure Document where
  members : Json.Object
  distinct : (Json.obj members).Distinct

namespace Document

theorem distinct_of_lookup (document : Document) {key : String} {value : Json}
    (found : document.members.lookup key = some value) : value.Distinct :=
  Json.distinctMembers_iff.mp document.distinct.2 (key, value) (Dict.mem_of_lookup found)

/-- `document.get(key)` -/
def get (document : Document) (key : String) : Json := Json.get document.members key

theorem get_distinct (document : Document) (key : String) : (document.get key).Distinct := by
  rw [get, Json.get, Json.getOr]
  cases found : document.members.lookup key with
  | none => trivial
  | some value => exact document.distinct_of_lookup found

/-- `document[key]` -/
def item (document : Document) (key : String) : Except EntityError Json := Json.item document.members key (.keyError key)

/-- `document["producer"]` -/
def producer (document : Document) : Except EntityError String := do
  match ← document.item "producer" with
  | .str producer => return producer
  | _ => throw .undeclaredType

/-- `k: document.get(k) for k in keys` -/
def pick (document : Document) (keys : List String) : Json.Object := keys.map fun key => (key, document.get key)

theorem pick_distinct (document : Document) {keys : List String} (distinct : keys.Nodup) :
    (Json.obj (document.pick keys)).Distinct := by
  refine ⟨?_, Json.distinctMembers_iff.mpr ?_⟩
  · rw [pick, List.map_map]
    simpa [Function.comp_def] using distinct
  · intro member inside
    obtain ⟨key, _, rfl⟩ := List.mem_map.mp inside
    exact document.get_distinct key

end Document

variable [Runtime]

/-- `_make_entity` -/
def makeEntity (entityType : String) (attributes : Json.Object) (distinct : (Json.obj attributes).Distinct)
    (sourceId : String) (details : EntityDetails) (draw : Draw) : Except EntityError CyberSemanticEntity :=
  if entityType ∈ entityTypes then
    .ok {
      entityId := newIdPrefixed "sement" draw.uuid
      entityType
      attributes
      distinct
      sourceId
      sourceType := details.sourceType
      sourceVersion := details.sourceVersion
      observedAt := draw.utcNowIso
      validFrom := orDefault details.validFrom draw.utcNowIso
      validUntil := details.validUntil
      evidenceRef := details.evidenceRef
      authority := details.authority }
  else
    .error (.unknownEntityType (Runtime.reprStr entityType ++ " no es un tipo de entidad soportado: " ++
      reprList (entityTypes.insertionSort (· ≤ ·))))

/-- `entity_from_asset_snapshot` -/
def entityFromAssetSnapshot (assetSnapshot : Document) (details : EntityDetails) (draw : Draw) :
    Except EntityError CyberSemanticEntity := do
  let _ ← assetSnapshot.item "asset_id"
  let producer ← assetSnapshot.producer
  makeEntity "Asset" (assetSnapshot.pick ["asset_id", "workload_id", "namespace", "criticality_esp"])
    (assetSnapshot.pick_distinct (by decide)) producer details draw

/-- `entity_from_vulnerability_finding` -/
def entityFromVulnerabilityFinding (finding : Document) (details : EntityDetails) (draw : Draw) :
    Except EntityError CyberSemanticEntity := do
  let producer ← finding.producer
  makeEntity "Vulnerability"
    (finding.pick (["cve_id", "purl", "severity"].filter fun key => (finding.members.lookup key).isSome))
    (finding.pick_distinct (List.Nodup.filter _ (by decide))) producer details draw

/-- `entity_from_incident` -/
def entityFromIncident (incident : Document) (details : EntityDetails) (draw : Draw) :
    Except EntityError CyberSemanticEntity := do
  let _ ← incident.item "incident_id"
  let producer ← incident.producer
  makeEntity "Incident" (incident.pick ["incident_id", "severity"]) (incident.pick_distinct (by decide)) producer details draw

namespace SemanticGraph
omit [Runtime]

def entitiesByType (graph : SemanticGraph) (entityType : String) : List CyberSemanticEntity :=
  (graph.entities.map Prod.snd).filter fun entity => entity.entityType = entityType

def relationsByType (graph : SemanticGraph) (relationType : String) : List SemanticRelation :=
  graph.relations.filter fun relation => relation.relationType = relationType

end SemanticGraph

end ArgosCore
