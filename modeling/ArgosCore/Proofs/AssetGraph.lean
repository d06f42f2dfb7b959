import ArgosCore.Proofs.AssetDrift
import ArgosCore.Proofs.GraphSnapshot
import ArgosCore.Proofs.MessageSeal
import ArgosCore.SemanticEntities

/-! From the inventory to the graph. The snapshot hash of a graph sees of an asset what the
authority ranking makes of three fields, its name and the producer of the snapshot: not the order
in which the fragments arrived, nor the node and the image. -/

namespace ArgosCore.Proofs

/-- Equal values are written alike wherever they are stated: nobody says `true` where another says `1`. -/
def Unmixed (fragments : List AssetFragment) : Prop :=
  ∀ one ∈ fragments, ∀ other ∈ fragments, ∀ field ∈ mergeableFields, ∀ value value',
    one.fields.lookup field = some value → other.fields.lookup field = some value' →
      value.number = value'.number → value = value'

def attributeFields : List String := ["workload_id", "namespace", "criticality_esp"]

theorem attributeFields_mergeable : ∀ field ∈ attributeFields, field ∈ mergeableFields := by decide

theorem toJson_injective : Function.Injective Scalar.toJson := by
  intro one other same
  cases one <;> cases other <;> simp_all [Scalar.toJson]

theorem sortKeys_toJson (value : Scalar) : value.toJson.sortKeys = value.toJson := by cases value <;> rfl

theorem toJson_distinct (value : Scalar) : value.toJson.Distinct := by cases value <;> trivial

theorem assumed_number_inj {field : String} {value : Scalar} (same : (assumed field).number = value.number) :
    assumed field = value := by
  rw [assumed] at same ⊢
  split_ifs at same ⊢ <;> cases value <;> simp_all [Scalar.number]

section
variable {assetId : String} {ranking : Dict Int} {fragments : List AssetFragment} {draws : String → FieldDraws}
  {merged : Dict Scalar} {conflicts : List FieldConflict}

theorem Reconciled.claimed (reconciled : Reconciled assetId fragments (some ranking) draws merged conflicts)
    {field : String} {value : Scalar} (held : merged.lookup field = some value) :
    ∃ fragment ∈ fragments, fragment.fields.lookup field = some value := by
  suffices spoken : ∃ source, (source, value) ∈ said field fragments by
    obtain ⟨source, inside⟩ := spoken
    obtain ⟨fragment, member, _, claims⟩ := mem_said.mp inside
    exact ⟨fragment, member, claims⟩
  have last : (said field fragments).getLast?.map Prod.snd = some value → ∃ source, (source, value) ∈ said field fragments := by
    intro final
    obtain ⟨⟨source, other⟩, found, rfl⟩ := Option.map_eq_some_iff.mp final
    exact ⟨source, List.mem_of_getLast? found⟩
  rw [reconciled.lookup_merged] at held
  split_ifs at held
  · rw [settledValue] at held
    obtain ⟨source, _, found⟩ := Option.bind_eq_some_iff.mp held
    exact ⟨source, mem_said_of_latest found⟩
  · exact last held

end

def reading (merged : Dict Scalar) (field : String) : Scalar := (merged.lookup field).getD (assumed field)

section
variable [Runtime] {validate : Json.Object → List String} {context : EnvelopeContext} {assetId : String}
  {fragments : List AssetFragment} {ranking : Dict Int} {draws : String → FieldDraws} {draw : Draw} {result : ReconcileResult}

structure Enveloped (context : EnvelopeContext) (assetId : String) (fragments : List AssetFragment) (ranking : Dict Int)
    (result : ReconcileResult) (merged : Dict Scalar) : Prop where
  built : ∃ owner draws, Built owner fragments (some ranking) draws result merged
  owner : result.payload.lookup "asset_id" = some (.str assetId)
  producer : result.payload.lookup "producer" = some (.str context.producer)
  distinct : (Json.obj result.payload).Distinct

omit [Runtime] in
theorem snapshotPayload_distinct (assetId : String) (merged : Dict Scalar) :
    (Json.obj (snapshotPayload assetId merged)).Distinct := by
  refine ⟨snapshotPayload_nodup .., Json.distinctMembers_iff.mpr fun member inside => ?_⟩
  rcases Dict.mem_of_mem_claim inside with rfl | inside
  · trivial
  rcases Dict.mem_of_mem_claim inside with rfl | inside
  · trivial
  rcases Dict.mem_of_mem_setAll inside with field | owner
  · obtain ⟨item, _, rfl⟩ := List.mem_map.mp field
    exact toJson_distinct item.2
  · obtain rfl := List.mem_singleton.mp owner
    trivial

omit [Runtime] in
theorem lookup_snapshotPayload_owner {merged : Dict Scalar}
    (mergeable : ∀ key ∈ merged.map Prod.fst, key ∈ mergeableFields) (assetId : String) :
    (snapshotPayload assetId merged).lookup "asset_id" = some (.str assetId) := by
  have absent : (merged.map fun item => (item.1, item.2.toJson)).reverse.lookup "asset_id" = none := by
    rw [List.lookup_eq_none_iff]
    intro member inside
    obtain ⟨item, held, rfl⟩ := List.mem_map.mp (List.mem_reverse.mp inside)
    have known := mergeable item.1 (List.mem_map_of_mem held)
    rw [bne_iff_ne]
    rintro same
    rw [← same] at known
    exact absurd known (by decide)
  simp [snapshotPayload, Dict.lookup_claim, Dict.lookup_setAll, absent]

theorem build_enveloped
    (returned : buildAssetSnapshotPayload validate context assetId fragments (some ranking) draws draw = .ok result) :
    ∃ merged, Enveloped context assetId fragments ranking result merged := by
  simp only [buildAssetSnapshotPayload, Fallible.bind_ok_iff, Fallible.guarded_ok_iff] at returned
  obtain ⟨⟨merged, conflicts⟩, done, _, rfl⟩ := returned
  obtain ⟨owner, reconciled⟩ := reconcile_ok done
  have mergeable : ∀ key ∈ merged.map Prod.fst, key ∈ mergeableFields := by
    intro key inside
    by_contra other
    obtain ⟨item, held, rfl⟩ := List.mem_map.mp inside
    cases (reconciled.unmergeable other).symm.trans ((Dict.lookup_eq_some_iff reconciled.distinct).mpr held)
  refine ⟨merged, ⟨owner, draws, reconciled, ?_⟩, ?_, ?_, enveloped_distinct _ _ _ (snapshotPayload_distinct ..)⟩
  · intro field inside
    simp only [Dict.lookup_setAll_of_nodup _ (snapshotPayload_nodup assetId merged), lookup_buildEnvelope inside,
      lookup_snapshotPayload reconciled.distinct inside, Option.or_none]
  · rw [Dict.lookup_setAll_of_nodup _ (snapshotPayload_nodup ..), lookup_snapshotPayload_owner mergeable, Option.some_or]
  · exact (buildEnvelope_heads ..).lookup_setAll (snapshotPayload_fits mergeable) (by simp [buildEnvelope])

omit [Runtime] in
/-- Under one spelling of equal values, two merges read alike where the fragments warrant the same. -/
theorem reading_eq_iff {fragments fragments' : List AssetFragment} {ranking ranking' : Dict Int}
    {owner owner' : String} {draws draws' : String → FieldDraws} {result result' : ReconcileResult} {merged merged' : Dict Scalar}
    (built : Built owner fragments (some ranking) draws result merged)
    (built' : Built owner' fragments' (some ranking') draws' result' merged')
    (distinct : (fragments.map AssetFragment.source).Nodup) (distinct' : (fragments'.map AssetFragment.source).Nodup)
    (unmixed : Unmixed (fragments ++ fragments')) {field : String} (mergeable : field ∈ mergeableFields) :
    reading merged field = reading merged' field ↔
      ∀ value, Asserts ranking fragments field value ↔ Asserts ranking' fragments' field value := by
  simp only [built.asserts_iff distinct mergeable, built'.asserts_iff distinct' mergeable, reading]
  constructor
  · intro same value
    rw [same]
  · intro alike
    have equal := ((alike _).mp rfl).symm
    cases held : merged.lookup field with
    | none =>
      rw [held, Option.getD_none] at equal
      rw [Option.getD_none]
      exact assumed_number_inj equal
    | some value =>
      rw [held, Option.getD_some] at equal
      obtain ⟨one, inside, claims⟩ := built.reconciled.claimed held
      cases known : merged'.lookup field with
      | none =>
        rw [known, Option.getD_none] at equal
        exact (assumed_number_inj equal.symm).symm
      | some value' =>
        rw [known, Option.getD_some] at equal
        obtain ⟨other, member, also⟩ := built'.reconciled.claimed known
        exact unmixed one (List.mem_append_left _ inside) other (List.mem_append_right _ member) field mergeable _ _
          claims also equal

end

section
variable [Runtime]

theorem entityFromAssetSnapshot_ok {snapshot : Document} {details : EntityDetails} {draw : Draw}
    {entity : CyberSemanticEntity} (made : entityFromAssetSnapshot snapshot details draw = .ok entity) :
    ∃ producer, snapshot.members.lookup "producer" = some (.str producer) ∧
      makeEntity "Asset" (snapshot.pick ("asset_id" :: attributeFields)) (snapshot.pick_distinct (by decide)) producer
        details draw = .ok entity := by
  simp only [entityFromAssetSnapshot, Fallible.bind_ok_iff] at made
  obtain ⟨_, _, producer, given, made⟩ := made
  refine ⟨producer, ?_, made⟩
  simp only [Document.producer, Document.item, Json.item, Fallible.bind_ok_iff] at given
  obtain ⟨value, found, text⟩ := given
  cases held : snapshot.members.lookup "producer" with
  | none => simp [held] at found
  | some other =>
    simp only [held, Except.ok.injEq] at found
    subst found
    cases other <;> cases text
    rfl

theorem Enveloped.ingested {context : EnvelopeContext} {assetId : String} {fragments : List AssetFragment} {ranking : Dict Int}
    {result : ReconcileResult} {merged : Dict Scalar} (enveloped : Enveloped context assetId fragments ranking result merged)
    (snapshot : Document) (read : snapshot.members = result.payload) (details : EntityDetails) (draw : Draw) :
    ∃ entity, entityFromAssetSnapshot snapshot details draw = .ok entity := by
  have owner : snapshot.item "asset_id" = .ok (.str assetId) := by
    rw [Document.item, Json.item, read, enveloped.owner]
  have producer : snapshot.producer = .ok context.producer := by
    rw [Document.producer, Document.item, Json.item, read, enveloped.producer]
    rfl
  have known : "Asset" ∈ entityTypes := by decide
  simp only [entityFromAssetSnapshot, owner, producer, makeEntity, known, if_true]
  exact ⟨_, rfl⟩

theorem sameEntity_made_iff {entityType : String} {attributes attributes' : Json.Object}
    {distinct : (Json.obj attributes).Distinct} {distinct' : (Json.obj attributes').Distinct} {sourceId sourceId' : String}
    {details : EntityDetails} {draw draw' : Draw} {entity entity' : CyberSemanticEntity}
    (made : makeEntity entityType attributes distinct sourceId details draw = .ok entity)
    (made' : makeEntity entityType attributes' distinct' sourceId' details draw' = .ok entity')
    (uuid : draw.uuid = draw'.uuid)
    (since : orDefault details.validFrom draw.utcNowIso = orDefault details.validFrom draw'.utcNowIso) :
    SameEntity entity entity' ↔ sourceId = sourceId' ∧ (Json.obj attributes).sortKeys = (Json.obj attributes').sortKeys := by
  rw [makeEntity] at made made'
  split_ifs at made made'
  cases made
  cases made'
  simp [sameEntity_iff, uuid, since, and_comm]

theorem makeEntity_entityId {entityType : String} {attributes : Json.Object} {distinct : (Json.obj attributes).Distinct}
    {sourceId : String} {details : EntityDetails} {draw : Draw} {entity : CyberSemanticEntity}
    (made : makeEntity entityType attributes distinct sourceId details draw = .ok entity) :
    entity.entityId = newIdPrefixed "sement" draw.uuid := by
  rw [makeEntity] at made
  split_ifs at made
  cases made
  rfl

omit [Runtime] in
theorem pick_sorted_iff {document other : Document} {keys : List String} (distinct : keys.Nodup) :
    (Json.obj (document.pick keys)).sortKeys = (Json.obj (other.pick keys)).sortKeys ↔
      ∀ key ∈ keys, (document.get key).sortKeys = (other.get key).sortKeys := by
  have named (document : Document) : (document.pick keys).map Prod.fst = keys := by
    rw [Document.pick, List.map_map]
    exact List.map_id keys
  rw [Json.sortKeys_eq_iff_values ((named document).trans (named other).symm) (by rwa [named])]
  simp [Document.pick]

def lastAdded (entityId : String) (calls : List GraphCall) : Option CyberSemanticEntity :=
  calls.reverse.findSome? fun
    | .addEntity entity => if entity.entityId = entityId then some entity else none
    | .addRelation _ => none

theorem lookup_graphStep (graph : SemanticGraph) (call : GraphCall) (entityId : String) :
    (graphStep graph call).entities.lookup entityId =
      (lastAdded entityId [call]).or (graph.entities.lookup entityId) := by
  cases call with
  | addEntity entity =>
    by_cases same : entity.entityId = entityId
    · simp [graphStep, SemanticGraph.addEntity, lastAdded, same]
    · simp [graphStep, SemanticGraph.addEntity, lastAdded, same, Ne.symm same]
  | addRelation relation =>
    simp [graphStep, lastAdded, addRelation_entities]

theorem lookup_graphSteps (graph : SemanticGraph) (calls : List GraphCall) (entityId : String) :
    (calls.foldl graphStep graph).entities.lookup entityId =
      (lastAdded entityId calls).or (graph.entities.lookup entityId) := by
  induction calls generalizing graph with
  | nil => rfl
  | cons call calls ih =>
    rw [List.foldl_cons, ih, lookup_graphStep]
    simp only [lastAdded, List.reverse_cons, List.findSome?_append, List.reverse_nil, List.nil_append, Option.or_assoc]

/-- Whether a relation is added depends on which entities there are, not on what they say. -/
theorem relations_graphSteps (left right : SemanticGraph) (relations : left.relations = right.relations)
    (present : ∀ entityId, (left.entities.lookup entityId).isSome = (right.entities.lookup entityId).isSome)
    (calls : List GraphCall) :
    (calls.foldl graphStep left).relations = (calls.foldl graphStep right).relations := by
  induction calls generalizing left right with
  | nil => exact relations
  | cons call calls ih =>
    refine ih _ _ ?_ ?_
    · cases call with
      | addEntity entity => exact relations
      | addRelation relation =>
        have absent (entityId : String) : (left.entities.lookup entityId).isNone = (right.entities.lookup entityId).isNone := by
          rw [← Option.not_isSome, ← Option.not_isSome, present]
        simp only [graphStep, SemanticGraph.addRelation, absent]
        split_ifs
        · exact relations
        · exact relations
        · simp [relations]
    · intro entityId
      rw [lookup_graphStep, lookup_graphStep, Option.isSome_or, Option.isSome_or, present]

omit [Runtime] in
theorem lastAdded_eq_none_iff {entityId : String} {calls : List GraphCall} :
    lastAdded entityId calls = none ↔ ¬ ∃ entity, .addEntity entity ∈ calls ∧ entity.entityId = entityId := by
  simp only [lastAdded, List.findSome?_eq_none_iff, List.mem_reverse, not_exists, not_and]
  constructor
  · intro none entity inside same
    have missing := none _ inside
    simp [same] at missing
  · intro other call inside
    cases call with
    | addEntity entity => simp [other entity inside]
    | addRelation relation => rfl

omit [Runtime] in
theorem SameEntity.refl (entity : CyberSemanticEntity) : SameEntity entity entity :=
  ⟨rfl, rfl, rfl, rfl, rfl, rfl, rfl, rfl, rfl, rfl⟩

theorem snapshotHash_replaced_iff (free : CollisionFree) {entity entity' : CyberSemanticEntity}
    (named : entity.entityId = entity'.entityId) (before after : List GraphCall) :
    (graphOf (before ++ .addEntity entity :: after)).snapshotHash =
        (graphOf (before ++ .addEntity entity' :: after)).snapshotHash ↔
      (∃ other, .addEntity other ∈ after ∧ other.entityId = entity.entityId) ∨ SameEntity entity entity' := by
  rw [snapshotHash_eq_iff free, entityHashes_eq_iff free (graphOf_indexed _) (graphOf_indexed _),
    relationHashes_eq_iff free]
  simp only [graphOf, List.foldl_append, List.foldl_cons]
  generalize before.foldl graphStep {} = graph
  have relations := relations_graphSteps (graphStep graph (.addEntity entity)) (graphStep graph (.addEntity entity')) rfl
    (fun entityId => by
      simp [graphStep, SemanticGraph.addEntity, named, apply_ite Option.isSome]) after
  rw [relations, and_iff_left (.refl _)]
  simp only [lookup_graphSteps, graphStep, SemanticGraph.addEntity, Dict.lookup_set]
  have refl (found : Option CyberSemanticEntity) : Option.Rel SameEntity found found := by
    cases found with
    | none => exact .none
    | some entity => exact .some (.refl entity)
  constructor
  · intro same
    have here := same entity.entityId
    cases replaced : lastAdded entity.entityId after with
    | none =>
      simp only [replaced, Option.none_or, if_true, if_pos named] at here
      cases here with
      | some equal => exact .inr equal
    | some other =>
      refine .inl (by_contra fun never => ?_)
      cases (lastAdded_eq_none_iff.mpr never).symm.trans replaced
  · intro cases entityId
    by_cases here : entityId = entity.entityId
    · subst here
      cases replaced : lastAdded entity.entityId after with
      | some other => exact refl _
      | none =>
        have equal := cases.resolve_left (lastAdded_eq_none_iff.mp replaced)
        simpa [named] using Option.Rel.some equal
    · rw [if_neg here, if_neg (named ▸ here)]
      exact refl _

/-- What the hash of a graph says of an asset, through all later calls on the graph: its name, who
produced the snapshot, and what the fragments warrant for its workload, namespace and criticality. -/
theorem ingested_asset_sealed (free : CollisionFree) {validate validate' : Json.Object → List String}
    {context context' : EnvelopeContext} {assetId assetId' : String} {ranking ranking' : Dict Int}
    {fragments fragments' : List AssetFragment} {draws draws' : String → FieldDraws} {built built' : Draw}
    {result result' : ReconcileResult}
    (distinct : (fragments.map AssetFragment.source).Nodup) (distinct' : (fragments'.map AssetFragment.source).Nodup)
    (unmixed : Unmixed (fragments ++ fragments'))
    (returned : buildAssetSnapshotPayload validate context assetId fragments (some ranking) draws built = .ok result)
    (returned' : buildAssetSnapshotPayload validate' context' assetId' fragments' (some ranking') draws' built' = .ok result')
    {snapshot snapshot' : Document} (read : snapshot.members = result.payload) (read' : snapshot'.members = result'.payload)
    {details : EntityDetails} {draw draw' : Draw} {entity entity' : CyberSemanticEntity}
    (made : entityFromAssetSnapshot snapshot details draw = .ok entity)
    (made' : entityFromAssetSnapshot snapshot' details draw' = .ok entity')
    (uuid : draw.uuid = draw'.uuid)
    (since : orDefault details.validFrom draw.utcNowIso = orDefault details.validFrom draw'.utcNowIso)
    (before after : List GraphCall) :
    (graphOf (before ++ .addEntity entity :: after)).snapshotHash =
        (graphOf (before ++ .addEntity entity' :: after)).snapshotHash ↔
      (∃ other, .addEntity other ∈ after ∧ other.entityId = entity.entityId) ∨
        assetId = assetId' ∧ context.producer = context'.producer ∧ ∀ field ∈ attributeFields, ∀ value,
          Asserts ranking fragments field value ↔ Asserts ranking' fragments' field value := by
  obtain ⟨merged, ⟨owner, _, snap⟩, named, produced, _⟩ := build_enveloped returned
  obtain ⟨merged', ⟨owner', _, snap'⟩, named', produced', _⟩ := build_enveloped returned'
  obtain ⟨producer, given, made⟩ := entityFromAssetSnapshot_ok made
  obtain ⟨producer', given', made'⟩ := entityFromAssetSnapshot_ok made'
  obtain rfl : context.producer = producer := Json.str.inj (Option.some.inj ((produced.symm.trans (read ▸ rfl)).trans given))
  obtain rfl : context'.producer = producer' := Json.str.inj (Option.some.inj ((produced'.symm.trans (read' ▸ rfl)).trans given'))
  have same := sameEntity_made_iff made made' uuid since
  have identified : entity.entityId = entity'.entityId := by
    rw [makeEntity_entityId made, makeEntity_entityId made', uuid]
  rw [snapshotHash_replaced_iff free identified, same]
  refine or_congr_right ?_
  have alike : (Json.obj (snapshot.pick ("asset_id" :: attributeFields))).sortKeys =
      (Json.obj (snapshot'.pick ("asset_id" :: attributeFields))).sortKeys ↔
        assetId = assetId' ∧ ∀ field ∈ attributeFields, reading merged field = reading merged' field := by
    have name : snapshot.get "asset_id" = .str assetId := by rw [Document.get, read, Json.get, Json.getOr, named]; rfl
    have name' : snapshot'.get "asset_id" = .str assetId' := by rw [Document.get, read', Json.get, Json.getOr, named']; rfl
    rw [pick_sorted_iff (by decide), List.forall_mem_cons, name, name']
    refine and_congr (by simp [Json.sortKeys]) (forall₂_congr fun field inside => ?_)
    have mergeable := attributeFields_mergeable field inside
    rw [Document.get, Document.get, read, read', snap.get_payload mergeable, snap'.get_payload mergeable, sortKeys_toJson,
      sortKeys_toJson, toJson_injective.eq_iff]
    rfl
  rw [alike, and_left_comm]
  refine and_congr_right fun _ => and_congr_right fun _ => forall₂_congr fun field inside => ?_
  exact reading_eq_iff snap snap' distinct distinct' unmixed (attributeFields_mergeable field inside)

end

private def spoken (source space : String) : AssetFragment where
  source := source
  assetId := "a1"
  fields := [("namespace", .str space), ("node", .str source)]

private def ledger : EnvelopeContext where
  producer := "asset-reconciler"
  runId := "run-1"

private def cmdb : EntityDetails where
  sourceType := "CMAM"
  sourceVersion := "1.0"
  authority := "cmam-authoritative"

private def noon (_field : String) : FieldDraws := ⟨⟨0, 0⟩, ⟨0, 0⟩⟩

private theorem spoken_unmixed (one other : String) : Unmixed [spoken "netbox" one, spoken "cmam" other,
    spoken "cmam" other, spoken "netbox" one] := by
  have texts : ∀ fragment ∈ [spoken "netbox" one, spoken "cmam" other, spoken "cmam" other, spoken "netbox" one],
      ∀ field value, fragment.fields.lookup field = some value → value.number = value := by
    intro fragment inside field value stated
    have member := Dict.mem_of_lookup stated
    simp only [List.mem_cons, List.not_mem_nil, or_false] at inside
    rcases inside with rfl | rfl | rfl | rfl
    all_goals
      simp only [spoken, List.mem_cons, List.not_mem_nil, or_false, Prod.mk.injEq] at member
      rcases member with ⟨_, rfl⟩ | ⟨_, rfl⟩ <;> rfl
  intro first inside second member field _ value value' states states' same
  rw [texts first inside field value states, texts second member field value' states'] at same
  exact same

/-- Two fragments in either order, put into a graph that goes on to hold another entity. -/
theorem ingested_asset_sealed_reordered :
    letI := Runtime.transparent
    let ranking := [("cmam", 10), ("netbox", 1)]
    let fragments := [spoken "netbox" "default", spoken "cmam" "prod"]
    ∃ entity entity' : CyberSemanticEntity, ∀ other : CyberSemanticEntity,
      (∃ result, buildAssetSnapshotPayload (fun _ => []) ledger "a1" fragments (some ranking) noon ⟨0, 0⟩ = .ok result ∧
        ∃ snapshot : Document, snapshot.members = result.payload ∧ entityFromAssetSnapshot snapshot cmdb ⟨0, 0⟩ = .ok entity) ∧
      (∃ result, buildAssetSnapshotPayload (fun _ => []) ledger "a1" fragments.reverse (some ranking) noon ⟨0, 0⟩ = .ok result ∧
        ∃ snapshot : Document, snapshot.members = result.payload ∧ entityFromAssetSnapshot snapshot cmdb ⟨0, 0⟩ = .ok entity') ∧
      (graphOf [.addEntity entity, .addEntity other]).snapshotHash =
        (graphOf [.addEntity entity', .addEntity other]).snapshotHash := by
  let _ := Runtime.transparent
  intro ranking fragments
  have first : ∃ result, buildAssetSnapshotPayload (fun _ => []) ledger "a1" fragments (some ranking) noon ⟨0, 0⟩ =
      .ok result := ⟨_, rfl⟩
  have second : ∃ result, buildAssetSnapshotPayload (fun _ => []) ledger "a1" fragments.reverse (some ranking) noon ⟨0, 0⟩ =
      .ok result := ⟨_, rfl⟩
  obtain ⟨result, returned⟩ := first
  obtain ⟨result', returned'⟩ := second
  obtain ⟨_, enveloped⟩ := build_enveloped returned
  obtain ⟨_, enveloped'⟩ := build_enveloped returned'
  let snapshot : Document := ⟨result.payload, enveloped.distinct⟩
  let snapshot' : Document := ⟨result'.payload, enveloped'.distinct⟩
  obtain ⟨entity, made⟩ := enveloped.ingested snapshot rfl cmdb ⟨0, 0⟩
  obtain ⟨entity', made'⟩ := enveloped'.ingested snapshot' rfl cmdb ⟨0, 0⟩
  refine ⟨entity, entity', fun other => ⟨⟨result, returned, snapshot, rfl, made⟩,
    ⟨result', returned', snapshot', rfl, made'⟩, ?_⟩⟩
  have sealing := ingested_asset_sealed Runtime.transparent_collisionFree (by decide) (by decide)
    (spoken_unmixed "default" "prod") returned returned' rfl rfl made made' rfl rfl [] [.addEntity other]
  refine sealing.mpr (.inr ⟨rfl, rfl, fun field _ value => ?_⟩)
  simp only [Asserts, warranted_congr (List.reverse_perm fragments)]

end ArgosCore.Proofs
