import ArgosCore.Foundations.ByKey
import ArgosCore.SemanticGraph
import Mathlib.Tactic.MkIffOfInductiveProp

/-! What a snapshot hash commits to: the entities by identifier and the relations as a
multiset, each up to its time of observation, and nothing of the order of the calls. -/

namespace ArgosCore.Proofs

/-- Equal but for `observed_at`; attributes are compared as dictionaries. -/
@[mk_iff]
structure SameEntity (left right : CyberSemanticEntity) : Prop where
  entityId : left.entityId = right.entityId
  entityType : left.entityType = right.entityType
  attributes : (Json.obj left.attributes).sortKeys = (Json.obj right.attributes).sortKeys
  sourceId : left.sourceId = right.sourceId
  sourceType : left.sourceType = right.sourceType
  sourceVersion : left.sourceVersion = right.sourceVersion
  validFrom : left.validFrom = right.validFrom
  validUntil : left.validUntil = right.validUntil
  evidenceRef : left.evidenceRef = right.evidenceRef
  authority : left.authority = right.authority

def unobserved (relation : SemanticRelation) : SemanticRelation := { relation with observedAt := "" }

structure SameGraph (left right : SemanticGraph) : Prop where
  entities : ∀ entityId, Option.Rel SameEntity (left.entities.lookup entityId) (right.entities.lookup entityId)
  relations : (left.relations.map unobserved).Perm (right.relations.map unobserved)

structure Indexed (graph : SemanticGraph) : Prop where
  distinct : (graph.entities.map Prod.fst).Nodup
  own : ∀ member ∈ graph.entities, member.1 = member.2.entityId

theorem Indexed.addEntity {graph : SemanticGraph} (indexed : Indexed graph) (entity : CyberSemanticEntity) :
    Indexed (graph.addEntity entity) where
  distinct := Dict.nodup_set indexed.distinct _ _
  own member inside := by
    rcases Dict.mem_of_mem_set inside with rfl | earlier
    · rfl
    · exact indexed.own member earlier

inductive GraphCall where
  | addEntity (entity : CyberSemanticEntity)
  | addRelation (relation : SemanticRelation)

section
variable [Runtime]

/-- A call that raises leaves the graph as it is. -/
def graphStep (graph : SemanticGraph) : GraphCall → SemanticGraph
  | .addEntity entity => graph.addEntity entity
  | .addRelation relation => (graph.addRelation relation).2

def graphOf (calls : List GraphCall) : SemanticGraph := calls.foldl graphStep {}

theorem addRelation_entities (graph : SemanticGraph) (relation : SemanticRelation) :
    (graph.addRelation relation).2.entities = graph.entities := by
  rw [SemanticGraph.addRelation]
  split_ifs <;> rfl

theorem Indexed.step {graph : SemanticGraph} (indexed : Indexed graph) (call : GraphCall) :
    Indexed (graphStep graph call) := by
  cases call with
  | addEntity entity => exact indexed.addEntity entity
  | addRelation relation =>
    have same := addRelation_entities graph relation
    exact ⟨same ▸ indexed.distinct, same ▸ indexed.own⟩

theorem graphOf_indexed (calls : List GraphCall) : Indexed (graphOf calls) := by
  rw [graphOf]
  generalize start : ({} : SemanticGraph) = graph
  have indexed : Indexed graph := start ▸ ⟨List.nodup_nil, by simp⟩
  clear start
  induction calls generalizing graph with
  | nil => exact indexed
  | cons call calls ih => exact ih (graphStep graph call) (indexed.step call)

omit [Runtime] in
private theorem contentOf_entity (entity : CyberSemanticEntity) :
    contentOf entity.asDict =
      .obj [("entity_id", .str entity.entityId), ("entity_type", .str entity.entityType),
        ("attributes", .obj entity.attributes), ("source_id", .str entity.sourceId),
        ("source_type", .str entity.sourceType), ("source_version", .str entity.sourceVersion),
        ("valid_from", .str entity.validFrom), ("valid_until", optionalStr entity.validUntil),
        ("evidence_ref", optionalStr entity.evidenceRef), ("authority", .str entity.authority)] := by
  simp [contentOf, CyberSemanticEntity.asDict]

omit [Runtime] in
private theorem contentOf_relation (relation : SemanticRelation) :
    contentOf relation.asDict =
      .obj [("relation_id", .str relation.relationId), ("relation_type", .str relation.relationType),
        ("source_entity_id", .str relation.sourceEntityId), ("target_entity_id", .str relation.targetEntityId),
        ("source_id", .str relation.sourceId), ("source_type", .str relation.sourceType),
        ("source_version", .str relation.sourceVersion), ("valid_from", .str relation.validFrom),
        ("valid_until", optionalStr relation.validUntil), ("evidence_ref", optionalStr relation.evidenceRef),
        ("authority", .str relation.authority)] := by
  simp [contentOf, SemanticRelation.asDict]

omit [Runtime] in
theorem optionalStr_distinct (text : Option String) : (optionalStr text).Distinct := by
  cases text <;> trivial

omit [Runtime] in
theorem sortKeys_optionalStr (text : Option String) : (optionalStr text).sortKeys = optionalStr text := by
  cases text <;> rfl

omit [Runtime] in
theorem optionalStr_injective : Function.Injective optionalStr := by
  intro left right same
  cases left <;> cases right <;> simp_all [optionalStr]

omit [Runtime] in
theorem content_eq_iff {left right : CyberSemanticEntity} :
    (contentOf left.asDict).sortKeys = (contentOf right.asDict).sortKeys ↔ SameEntity left right := by
  rw [contentOf_entity, contentOf_entity, Json.sortKeys_eq_iff_values (by rfl) (by simp), sameEntity_iff]
  simp [optionalStr_injective.eq_iff, sortKeys_optionalStr, Json.sortKeys]

theorem contentHash_eq_iff (free : CollisionFree) {left right : CyberSemanticEntity} :
    left.contentHash = right.contentHash ↔ SameEntity left right := by
  have distinct (entity : CyberSemanticEntity) : (contentOf entity.asDict).Distinct := by
    rw [contentOf_entity]
    simp only [Json.Distinct, Json.DistinctMembers, optionalStr_distinct, true_and, and_true]
    exact ⟨by simp, entity.distinct⟩
  rw [← content_eq_iff]
  exact free.hashJson_eq_iff (distinct left) (distinct right)

theorem relationHash_eq_iff (free : CollisionFree) {left right : SemanticRelation} :
    left.contentHash = right.contentHash ↔ unobserved left = unobserved right := by
  have distinct (relation : SemanticRelation) : (contentOf relation.asDict).Distinct := by
    rw [contentOf_relation]
    simp [Json.Distinct, Json.DistinctMembers, optionalStr_distinct]
  rw [SemanticRelation.contentHash, SemanticRelation.contentHash, free.hashJson_eq_iff (distinct left) (distinct right),
    contentOf_relation, contentOf_relation, Json.sortKeys_eq_iff_values (by rfl) (by simp)]
  simp [unobserved, optionalStr_injective.eq_iff, sortKeys_optionalStr, Json.sortKeys]

omit [Runtime] in
theorem sortKeys_strings (texts : List String) : (Json.arr (texts.map .str)).sortKeys = .arr (texts.map .str) := by
  rw [Json.sortKeys, Json.sortItems_eq_map, List.map_map]
  rfl

theorem snapshotHash_eq_iff (free : CollisionFree) {left right : SemanticGraph} :
    left.snapshotHash = right.snapshotHash ↔
      left.entityHashes = right.entityHashes ∧ left.relationHashes = right.relationHashes := by
  have texts (hashes : List String) : Json.DistinctItems (hashes.map .str) := by
    rw [Json.distinctItems_iff]
    intro item inside
    obtain ⟨text, _, rfl⟩ := List.mem_map.mp inside
    trivial
  have distinct (graph : SemanticGraph) : (Json.obj [("entities", .arr (graph.entityHashes.map .str)),
      ("relations", .arr (graph.relationHashes.map .str))]).Distinct := by
    simp [Json.Distinct, Json.DistinctMembers, texts]
  rw [SemanticGraph.snapshotHash, SemanticGraph.snapshotHash, free.hashJson_eq_iff (distinct left) (distinct right),
    Json.sortKeys_eq_iff_values (by rfl) (by simp)]
  have same : Function.Injective (List.map Json.str) := List.map_injective_iff.mpr fun _ _ => Json.str.inj
  simp [sortKeys_strings, same.eq_iff]

private def heading (entity : CyberSemanticEntity) : String × Json := (entity.entityId, (contentOf entity.asDict).sortKeys)

omit [Runtime] in
private theorem Indexed.headings {graph : SemanticGraph} (indexed : Indexed graph) :
    graph.entities.map (fun member => heading member.2) =
      graph.entities.map fun member => (member.1, (contentOf member.2.asDict).sortKeys) := by
  apply List.map_congr_left
  intro member inside
  rw [heading, indexed.own member inside]

theorem entityHashes_eq_iff (free : CollisionFree) {left right : SemanticGraph} (first : Indexed left) (second : Indexed right) :
    left.entityHashes = right.entityHashes ↔
      ∀ entityId, Option.Rel SameEntity (left.entities.lookup entityId) (right.entities.lookup entityId) := by
  have hashed (one other : String × CyberSemanticEntity) :
      one.2.contentHash = other.2.contentHash ↔ heading one.2 = heading other.2 := by
    rw [contentHash_eq_iff free, heading, heading, Prod.mk.injEq, content_eq_iff]
    exact ⟨fun same => ⟨same.entityId, same⟩, fun same => same.2⟩
  rw [SemanticGraph.entityHashes, SemanticGraph.entityHashes, ByKey.insertionSort_eq_iff_perm,
    ByKey.perm_map_iff_of_eq_iff hashed, first.headings, second.headings]
  have rel (one other : Option CyberSemanticEntity) : Option.Rel SameEntity one other ↔
      one.map (fun entity => (contentOf entity.asDict).sortKeys) =
        other.map fun entity => (contentOf entity.asDict).sortKeys := by
    cases one <;> cases other <;> simp [content_eq_iff]
  simp only [rel, ← Dict.lookup_map_values]
  constructor
  · intro perm
    exact Dict.lookup_perm perm (by simpa [Function.comp_def] using first.distinct)
  · apply Dict.perm_of_lookup
    · simpa [Function.comp_def] using first.distinct
    · simpa [Function.comp_def] using second.distinct

theorem relationHashes_eq_iff (free : CollisionFree) {left right : SemanticGraph} :
    left.relationHashes = right.relationHashes ↔
      (left.relations.map unobserved).Perm (right.relations.map unobserved) := by
  rw [SemanticGraph.relationHashes, SemanticGraph.relationHashes, ByKey.insertionSort_eq_iff_perm]
  exact ByKey.perm_map_iff_of_eq_iff fun _ _ => relationHash_eq_iff free

/-- Two graphs, however they were built, have one snapshot hash exactly when they hold
the same entities and relations up to the time of observation. -/
theorem snapshot_faithful (free : CollisionFree) (left right : List GraphCall) :
    (graphOf left).snapshotHash = (graphOf right).snapshotHash ↔ SameGraph (graphOf left) (graphOf right) := by
  rw [snapshotHash_eq_iff free, entityHashes_eq_iff free (graphOf_indexed left) (graphOf_indexed right),
    relationHashes_eq_iff free]
  exact ⟨fun same => ⟨same.1, same.2⟩, fun same => ⟨same.entities, same.relations⟩⟩

end

private def workload (entityId observedAt : String) : CyberSemanticEntity where
  entityId
  entityType := "Asset"
  attributes := [("asset_id", .str "asset-a"), ("namespace", .null)]
  distinct := by simp [Json.Distinct, Json.DistinctMembers]
  sourceId := "asset_reconciler"
  sourceType := "NetBox"
  sourceVersion := "1.0"
  observedAt
  validFrom := "2026-08-18T10:00:00+00:00"
  validUntil := none
  evidenceRef := none
  authority := "netbox"

private def dependency (observedAt : String) : SemanticRelation where
  relationId := "semrel-1"
  relationType := "DEPENDS_ON"
  sourceEntityId := "sement-1"
  targetEntityId := "sement-2"
  sourceId := "asset_reconciler"
  sourceType := "manual"
  sourceVersion := "1"
  observedAt
  validFrom := "2026-08-18T10:00:00+00:00"
  validUntil := none
  evidenceRef := none
  authority := "operator"

/-- Another order of insertion, an entity put again, and later observations. -/
theorem snapshot_faithful_reordered :
    letI := Runtime.transparent
    let first := [GraphCall.addEntity (workload "sement-1" "10:00"), .addEntity (workload "sement-2" "10:00"),
      .addRelation (dependency "10:01")]
    let second := [GraphCall.addEntity (workload "sement-2" "11:00"), .addEntity (workload "sement-1" "11:00"),
      .addRelation (dependency "11:01"), .addEntity (workload "sement-2" "11:02")]
    (graphOf first).snapshotHash = (graphOf second).snapshotHash ∧
      (graphOf first).snapshotHash ≠ (graphOf (first ++ [.addRelation (dependency "10:01")])).snapshotHash := by
  let _ := Runtime.transparent
  constructor
  · apply (snapshot_faithful Runtime.transparent_collisionFree _ _).mpr
    constructor
    · intro entityId
      change Option.Rel SameEntity
        (((Dict.set [] "sement-1" (workload "sement-1" "10:00")).set "sement-2"
          (workload "sement-2" "10:00")).lookup entityId)
        ((((Dict.set [] "sement-2" (workload "sement-2" "11:00")).set "sement-1"
          (workload "sement-1" "11:00")).set "sement-2" (workload "sement-2" "11:02")).lookup entityId)
      simp only [Dict.lookup_set]
      split_ifs
      · exact .some ⟨rfl, rfl, rfl, rfl, rfl, rfl, rfl, rfl, rfl, rfl⟩
      · exact .some ⟨rfl, rfl, rfl, rfl, rfl, rfl, rfl, rfl, rfl, rfl⟩
      · exact .none
    · exact .refl _
  · intro same
    have relations := ((snapshot_faithful Runtime.transparent_collisionFree _ _).mp same).relations.length_eq
    exact absurd relations (by decide)

end ArgosCore.Proofs
