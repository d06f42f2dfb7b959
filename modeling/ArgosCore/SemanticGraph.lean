import ArgosCore.Runtime

/-! The semantic graph: entities by their identifier, relations between entities that
are there, and one hash over all of it that leaves out when a statement was observed. -/

namespace ArgosCore

structure CyberSemanticEntity where
  entityId : String
  entityType : String
  attributes : Json.Object
  distinct : (Json.obj attributes).Distinct
  sourceId : String
  sourceType : String
  sourceVersion : String
  observedAt : String
  validFrom : String
  validUntil : Option String
  evidenceRef : Option String
  authority : String

structure SemanticRelation where
  relationId : String
  relationType : String
  sourceEntityId : String
  targetEntityId : String
  sourceId : String
  sourceType : String
  sourceVersion : String
  observedAt : String
  validFrom : String
  validUntil : Option String
  evidenceRef : Option String
  authority : String
  deriving DecidableEq, Repr

structure SemanticGraph where
  entities : Dict CyberSemanticEntity := []
  relations : List SemanticRelation := []

/-- `dataclasses.asdict` -/
def CyberSemanticEntity.asDict (entity : CyberSemanticEntity) : Json.Object :=
  [("entity_id", .str entity.entityId), ("entity_type", .str entity.entityType), ("attributes", .obj entity.attributes),
    ("source_id", .str entity.sourceId), ("source_type", .str entity.sourceType),
    ("source_version", .str entity.sourceVersion), ("observed_at", .str entity.observedAt),
    ("valid_from", .str entity.validFrom), ("valid_until", optionalStr entity.validUntil),
    ("evidence_ref", optionalStr entity.evidenceRef), ("authority", .str entity.authority)]

def SemanticRelation.asDict (relation : SemanticRelation) : Json.Object :=
  [("relation_id", .str relation.relationId), ("relation_type", .str relation.relationType),
    ("source_entity_id", .str relation.sourceEntityId), ("target_entity_id", .str relation.targetEntityId),
    ("source_id", .str relation.sourceId), ("source_type", .str relation.sourceType),
    ("source_version", .str relation.sourceVersion), ("observed_at", .str relation.observedAt),
    ("valid_from", .str relation.validFrom), ("valid_until", optionalStr relation.validUntil),
    ("evidence_ref", optionalStr relation.evidenceRef), ("authority", .str relation.authority)]

/-- What is hashed of a statement: all but `observed_at`. -/
def contentOf (fields : Json.Object) : Json := .obj (fields.filter fun member => member.1 ∉ ["observed_at"])

/-- `RELATION_TYPES` -/
def relationTypes : List String := ["DEPENDS_ON", "CAN_ACCESS", "AFFECTS", "EXPLOITS", "MITIGATES", "SUPPORTS", "IMPACTS"]

inductive GraphError where
  | unknownRelationType (message : String)
  | danglingRelation (message : String)
  deriving DecidableEq, Repr

/-- What `_make_relation` takes by name. -/
structure RelationDetails where
  sourceId : String
  sourceType : String
  sourceVersion : String
  authority : String
  validFrom : Option String := none
  validUntil : Option String := none
  evidenceRef : Option String := none

def SemanticGraph.addEntity (graph : SemanticGraph) (entity : CyberSemanticEntity) : SemanticGraph :=
  { graph with entities := graph.entities.set entity.entityId entity }

variable [Runtime]

def CyberSemanticEntity.contentHash (entity : CyberSemanticEntity) : String := hashJson (contentOf entity.asDict)

def SemanticRelation.contentHash (relation : SemanticRelation) : String := hashJson (contentOf relation.asDict)

/-- `_make_relation` -/
def makeRelation (relationType sourceEntityId targetEntityId : String) (details : RelationDetails) (draw : Draw) :
    Except GraphError SemanticRelation :=
  if relationType ∈ relationTypes then
    .ok {
      relationId := newIdPrefixed "semrel" draw.uuid
      relationType
      sourceEntityId
      targetEntityId
      sourceId := details.sourceId
      sourceType := details.sourceType
      sourceVersion := details.sourceVersion
      observedAt := draw.utcNowIso
      validFrom := orDefault details.validFrom draw.utcNowIso
      validUntil := details.validUntil
      evidenceRef := details.evidenceRef
      authority := details.authority }
  else
    .error (.unknownRelationType (Runtime.reprStr relationType ++ " no es un tipo de relación soportado: " ++
      reprList (relationTypes.insertionSort (· ≤ ·))))

namespace SemanticGraph

/-- `add_relation`, with the graph afterwards; the error is the text of `DanglingRelation`. -/
def addRelation (graph : SemanticGraph) (relation : SemanticRelation) : Except String Unit × SemanticGraph :=
  if (graph.entities.lookup relation.sourceEntityId).isNone then
    (.error ("relación " ++ relation.relationId ++ ": source_entity_id " ++ Runtime.reprStr relation.sourceEntityId ++
      " no existe en el grafo"), graph)
  else if (graph.entities.lookup relation.targetEntityId).isNone then
    (.error ("relación " ++ relation.relationId ++ ": target_entity_id " ++ Runtime.reprStr relation.targetEntityId ++
      " no existe en el grafo"), graph)
  else (.ok (), { graph with relations := graph.relations ++ [relation] })

/-- What the functions `relation_*` do: make a relation, add it, return it. -/
def relate (relationType : String) (graph : SemanticGraph) (sourceEntityId targetEntityId : String)
    (details : RelationDetails) (draw : Draw) : Except GraphError SemanticRelation × SemanticGraph :=
  match makeRelation relationType sourceEntityId targetEntityId details draw with
  | .error error => (.error error, graph)
  | .ok relation =>
    match graph.addRelation relation with
    | (.error message, after) => (.error (.danglingRelation message), after)
    | (.ok _, extended) => (.ok relation, extended)

def relationDependsOn := relate "DEPENDS_ON"

def relationCanAccess := relate "CAN_ACCESS"

def relationAffects := relate "AFFECTS"

def relationExploits := relate "EXPLOITS"

def relationMitigates := relate "MITIGATES"

def relationSupports := relate "SUPPORTS"

def relationImpacts := relate "IMPACTS"

omit [Runtime] in
def relationsForEntity (graph : SemanticGraph) (entityId : String) : List SemanticRelation :=
  graph.relations.filter fun relation => relation.sourceEntityId = entityId ∨ relation.targetEntityId = entityId

def entityHashes (graph : SemanticGraph) : List String :=
  (graph.entities.map fun member => member.2.contentHash).insertionSort (· ≤ ·)

def relationHashes (graph : SemanticGraph) : List String :=
  (graph.relations.map SemanticRelation.contentHash).insertionSort (· ≤ ·)

def snapshotHash (graph : SemanticGraph) : String :=
  hashJson (.obj [("entities", .arr (graph.entityHashes.map .str)), ("relations", .arr (graph.relationHashes.map .str))])

end SemanticGraph

end ArgosCore
