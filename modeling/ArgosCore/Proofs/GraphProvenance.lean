import ArgosCore.Foundations.Buckets
import ArgosCore.Foundations.Fallible
import ArgosCore.Proofs.GraphIntegrity
import ArgosCore.SemanticEntities

/-! A graph that is filled from documents. Every entity says what some document says, and no more;
the queries by type divide the entities and the relations among them. -/

namespace ArgosCore.Proofs

inductive Origin where
  | assetSnapshot
  | vulnerabilityFinding
  | incident
  deriving DecidableEq

def Origin.entityType : Origin → String
  | assetSnapshot => "Asset"
  | vulnerabilityFinding => "Vulnerability"
  | incident => "Incident"

/-- The members of the document that become attributes. Of a finding only those that it has. -/
def Origin.picked (document : Document) : Origin → List String
  | assetSnapshot => ["asset_id", "workload_id", "namespace", "criticality_esp"]
  | vulnerabilityFinding => ["cve_id", "purl", "severity"].filter fun key => (document.members.lookup key).isSome
  | incident => ["incident_id", "severity"]

section
variable [Runtime]

def Origin.entity : Origin → Document → EntityDetails → Draw → Except EntityError CyberSemanticEntity
  | assetSnapshot => entityFromAssetSnapshot
  | vulnerabilityFinding => entityFromVulnerabilityFinding
  | incident => entityFromIncident

inductive Filling where
  | ingest (origin : Origin) (document : Document) (details : EntityDetails) (draw : Draw)
  | relate (function : RelationFunction) (sourceEntityId targetEntityId : String) (details : RelationDetails) (draw : Draw)

def Filling.operation : Filling → Option GraphOperation
  | ingest origin document details draw => (origin.entity document details draw).toOption.map .addEntity
  | relate function sourceEntityId targetEntityId details draw =>
    some (.relate function sourceEntityId targetEntityId details draw)

def graphFilled (fillings : List Filling) : SemanticGraph := graphAfter (fillings.filterMap Filling.operation)

structure TakenFrom (origin : Origin) (document : Document) (details : EntityDetails) (draw : Draw)
    (entity : CyberSemanticEntity) : Prop where
  made : origin.entity document details draw = .ok entity
  entityType : entity.entityType = origin.entityType
  source : document.producer = .ok entity.sourceId
  attributes : entity.attributes = (origin.picked document).map fun key => (key, document.get key)
  evidence : entity.evidenceRef = details.evidenceRef

theorem makeEntity_eq {entityType : String} {attributes : Json.Object} {distinct : (Json.obj attributes).Distinct}
    {sourceId : String} {details : EntityDetails} {draw : Draw} {entity : CyberSemanticEntity}
    (made : makeEntity entityType attributes distinct sourceId details draw = .ok entity) :
    entity.entityType = entityType ∧ entity.attributes = attributes ∧ entity.sourceId = sourceId ∧
      entity.evidenceRef = details.evidenceRef := by
  rw [makeEntity] at made
  split_ifs at made
  cases made
  exact ⟨rfl, rfl, rfl, rfl⟩

theorem takenFrom_of_made {origin : Origin} {document : Document} {details : EntityDetails} {draw : Draw}
    {entity : CyberSemanticEntity} (made : origin.entity document details draw = .ok entity) :
    TakenFrom origin document details draw entity := by
  suffices picked : ∃ distinct producer, document.producer = .ok producer ∧
      makeEntity origin.entityType (document.pick (origin.picked document)) distinct producer details draw = .ok entity by
    obtain ⟨distinct, producer, given, built⟩ := picked
    obtain ⟨type, attributes, source, evidence⟩ := makeEntity_eq built
    exact ⟨made, type, by rw [given, source], attributes, evidence⟩
  cases origin with
  | assetSnapshot =>
    simp only [Origin.entity, entityFromAssetSnapshot, Fallible.bind_ok_iff] at made
    obtain ⟨_, _, producer, given, made⟩ := made
    exact ⟨_, producer, given, made⟩
  | vulnerabilityFinding =>
    simp only [Origin.entity, entityFromVulnerabilityFinding, Fallible.bind_ok_iff] at made
    obtain ⟨producer, given, made⟩ := made
    exact ⟨_, producer, given, made⟩
  | incident =>
    simp only [Origin.entity, entityFromIncident, Fallible.bind_ok_iff] at made
    obtain ⟨_, _, producer, given, made⟩ := made
    exact ⟨_, producer, given, made⟩

structure AskedBy (function : RelationFunction) (sourceEntityId targetEntityId : String) (details : RelationDetails)
    (relation : SemanticRelation) : Prop where
  relationType : relation.relationType ∈ relationTypes ∧ function.call = SemanticGraph.relate relation.relationType
  source : relation.sourceEntityId = sourceEntityId
  target : relation.targetEntityId = targetEntityId
  statedBy : relation.sourceId = details.sourceId

/-- What the calls put into the graph: entities of documents, and relations between entities that are there. -/
structure FilledBy (fillings : List Filling) (graph : SemanticGraph) : Prop where
  taken : ∀ member ∈ graph.entities, member.1 = member.2.entityId ∧ ∃ origin document details draw,
    Filling.ingest origin document details draw ∈ fillings ∧ TakenFrom origin document details draw member.2
  asked : ∀ relation ∈ graph.relations, BothEnds graph relation ∧ ∃ function source target details draw,
    Filling.relate function source target details draw ∈ fillings ∧ AskedBy function source target details relation

theorem relate_cases (graph : SemanticGraph) (function : RelationFunction) (source target : String)
    (details : RelationDetails) (draw : Draw) :
    (function.call graph source target details draw).2 = graph ∨ ∃ relation,
      AskedBy function source target details relation ∧ BothEnds graph relation ∧
        (function.call graph source target details draw).2 = { graph with relations := graph.relations ++ [relation] } := by
  obtain ⟨relationType, known, called⟩ := function.exists_call_eq
  rw [called, SemanticGraph.relate]
  split
  next error _ => exact .inl rfl
  next relation made =>
    rw [makeRelation, if_pos known] at made
    cases made
    rcases addRelation_cases graph _ with ⟨both, added⟩ | ⟨_, message, refused⟩
    · rw [added]
      exact .inr ⟨_, ⟨⟨known, called⟩, rfl, rfl, rfl⟩, both, rfl⟩
    · rw [refused]
      exact .inl rfl

theorem FilledBy.extend {fillings : List Filling} {graph : SemanticGraph} (filled : FilledBy fillings graph)
    (filling : Filling) : FilledBy (fillings ++ [filling]) graph := by
  constructor
  · intro member inside
    obtain ⟨own, origin, document, details, draw, called, taken⟩ := filled.taken member inside
    exact ⟨own, origin, document, details, draw, List.mem_append_left _ called, taken⟩
  · intro relation inside
    obtain ⟨both, function, source, target, details, draw, called, asked⟩ := filled.asked relation inside
    exact ⟨both, function, source, target, details, draw, List.mem_append_left _ called, asked⟩

theorem FilledBy.step {fillings : List Filling} {graph : SemanticGraph} (filled : FilledBy fillings graph)
    {filling : Filling} {operation : GraphOperation} (performs : filling.operation = some operation) :
    FilledBy (fillings ++ [filling]) (operation.perform graph).2 := by
  have before := filled.extend filling
  cases filling with
  | ingest origin document details draw =>
    obtain ⟨entity, made, rfl⟩ := Option.map_eq_some_iff.mp performs
    have made : origin.entity document details draw = .ok entity := by
      cases result : origin.entity document details draw with
      | error error => simp [result, Except.toOption] at made
      | ok other => simpa [result, Except.toOption] using made
    constructor
    · intro member inside
      rcases Dict.mem_of_mem_set inside with rfl | earlier
      · exact ⟨rfl, origin, document, details, draw, by simp, takenFrom_of_made made⟩
      · exact before.taken member earlier
    · intro relation inside
      obtain ⟨both, rest⟩ := before.asked relation inside
      exact ⟨(GraphEffect.entity entity).attached both, rest⟩
  | relate function source target details draw =>
    cases performs
    rcases relate_cases graph function source target details draw with same | ⟨relation, asked, both, grown⟩
    · simp only [GraphOperation.perform, same]
      exact before
    · simp only [GraphOperation.perform, grown]
      have effect := GraphEffect.relation relation both
      refine ⟨before.taken, fun other inside => ?_⟩
      rcases List.mem_append.mp inside with earlier | last
      · obtain ⟨ends, rest⟩ := before.asked other earlier
        exact ⟨effect.attached ends, rest⟩
      · obtain rfl := List.mem_singleton.mp last
        exact ⟨effect.attached both, function, source, target, details, draw, by simp, asked⟩

theorem graphFilled_concat (fillings : List Filling) (filling : Filling) :
    graphFilled (fillings ++ [filling]) =
      (filling.operation.map fun operation => (operation.perform (graphFilled fillings)).2).getD (graphFilled fillings) := by
  rw [graphFilled, List.filterMap_append, graphAfter, List.foldl_append]
  cases performs : filling.operation <;> simp [performs, graphFilled, graphAfter]

theorem filledBy_graphFilled (fillings : List Filling) : FilledBy fillings (graphFilled fillings) := by
  induction fillings using List.reverseRecOn with
  | nil => exact ⟨by simp [graphFilled, graphAfter], by simp [graphFilled, graphAfter]⟩
  | append_singleton fillings filling ih =>
    rw [graphFilled_concat]
    cases performs : filling.operation with
    | none => exact ih.extend filling
    | some operation => exact ih.step performs

theorem present_graphFilled {fillings : List Filling} {origin : Origin} {document : Document} {details : EntityDetails}
    {draw : Draw} (called : .ingest origin document details draw ∈ fillings) {entity : CyberSemanticEntity}
    (made : origin.entity document details draw = .ok entity) : Present (graphFilled fillings) entity.entityId := by
  induction fillings using List.reverseRecOn with
  | nil => cases called
  | append_singleton fillings filling ih =>
    rw [graphFilled_concat]
    rcases List.mem_append.mp called with earlier | last
    · have known := ih earlier
      cases filling.operation with
      | none => exact known
      | some operation => exact (perform_effect _ operation).present known
    · obtain rfl := List.mem_singleton.mp last
      rw [Filling.operation, made]
      exact (Dict.mem_keys_set ..).mpr (.inl rfl)

/-- The graph is what the documents and the calls say, and its queries by type miss nothing. -/
structure Sourced (fillings : List Filling) (graph : SemanticGraph) : Prop extends FilledBy fillings graph where
  kept : ∀ origin document details draw entity, .ingest origin document details draw ∈ fillings →
    origin.entity document details draw = .ok entity → Present graph entity.entityId
  entitiesByType : (entityTypes.flatMap graph.entitiesByType).Perm (graph.entities.map Prod.snd)
  relationsByType : (relationTypes.flatMap graph.relationsByType).Perm graph.relations

/-- Whatever documents and relations a graph is filled with, and whichever of the calls raise, nothing
in it is without a source. -/
theorem graph_sourced (fillings : List Filling) : Sourced fillings (graphFilled fillings) := by
  have filled := filledBy_graphFilled fillings
  refine ⟨filled, fun _ _ _ _ _ called made => present_graphFilled called made, ?_, ?_⟩
  all_goals refine Buckets.flatMap_ofKey_perm_of_mem (by decide) ?_
  · intro entity inside
    obtain ⟨member, held, rfl⟩ := List.mem_map.mp inside
    obtain ⟨_, origin, _, _, _, _, taken⟩ := filled.taken member held
    rw [taken.entityType]
    cases origin <;> decide
  · intro relation inside
    obtain ⟨_, _, _, _, _, _, _, asked⟩ := filled.asked relation inside
    exact asked.relationType.1

end

end ArgosCore.Proofs
