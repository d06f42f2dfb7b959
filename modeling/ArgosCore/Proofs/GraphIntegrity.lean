import ArgosCore.SemanticGraph
import Mathlib.Data.List.Induction

/-! The graph as its callers leave it, whatever they call and whatever is raised: no relation
without both ends, and every relation found from each of its ends. -/

namespace ArgosCore.Proofs

inductive RelationFunction where
  | dependsOn
  | canAccess
  | affects
  | exploits
  | mitigates
  | supports
  | impacts

def Present (graph : SemanticGraph) (entityId : String) : Prop := entityId ∈ graph.entities.map Prod.fst

structure BothEnds (graph : SemanticGraph) (relation : SemanticRelation) : Prop where
  source : Present graph relation.sourceEntityId
  target : Present graph relation.targetEntityId

def IncidentTo (entityId : String) (relation : SemanticRelation) : Prop :=
  relation.sourceEntityId = entityId ∨ relation.targetEntityId = entityId

instance (entityId : String) (relation : SemanticRelation) : Decidable (IncidentTo entityId relation) :=
  inferInstanceAs (Decidable (_ ∨ _))

abbrev GraphOutcome := Except GraphError (Option SemanticRelation) × SemanticGraph

def addedBy : Except GraphError (Option SemanticRelation) → List SemanticRelation
  | .ok relation => relation.toList
  | .error _ => []

inductive GraphEffect (graph : SemanticGraph) : GraphOutcome → Prop where
  | raised (error : GraphError) : GraphEffect graph (.error error, graph)
  | untouched : GraphEffect graph (.ok none, graph)
  | entity (entity : CyberSemanticEntity) : GraphEffect graph (.ok none, graph.addEntity entity)
  | relation (relation : SemanticRelation) (attached : BothEnds graph relation) :
      GraphEffect graph (.ok (some relation), { graph with relations := graph.relations ++ [relation] })

def NoDangling (graph : SemanticGraph) : Prop := ∀ relation ∈ graph.relations, BothEnds graph relation

namespace GraphEffect
variable {graph : SemanticGraph} {outcome : GraphOutcome}

theorem unchanged {error : GraphError} (effect : GraphEffect graph outcome) (raised : outcome.1 = .error error) :
    outcome.2 = graph := by
  cases effect with
  | raised error => rfl
  | untouched => rfl
  | entity entity => cases raised
  | relation relation attached => cases raised

theorem present (effect : GraphEffect graph outcome) {entityId : String} (known : Present graph entityId) :
    Present outcome.2 entityId := by
  cases effect with
  | raised error => exact known
  | untouched => exact known
  | entity entity => exact (Dict.mem_keys_set ..).mpr (.inr known)
  | relation relation attached => exact known

theorem attached (effect : GraphEffect graph outcome) {relation : SemanticRelation} (both : BothEnds graph relation) :
    BothEnds outcome.2 relation :=
  ⟨effect.present both.source, effect.present both.target⟩

theorem relations_eq (effect : GraphEffect graph outcome) : outcome.2.relations = graph.relations ++ addedBy outcome.1 := by
  cases effect with
  | raised error => exact (List.append_nil _).symm
  | untouched => exact (List.append_nil _).symm
  | entity entity => exact (List.append_nil _).symm
  | relation relation attached => rfl

theorem noDangling (effect : GraphEffect graph outcome) (intact : NoDangling graph) : NoDangling outcome.2 := by
  intro relation inside
  apply effect.attached
  rw [effect.relations_eq, List.mem_append] at inside
  rcases inside with earlier | added
  · exact intact relation earlier
  · cases effect with
    | raised error => cases added
    | untouched => cases added
    | entity entity => cases added
    | relation last attached =>
      cases List.mem_singleton.mp added
      exact attached

end GraphEffect

theorem present_of_lookup {graph : SemanticGraph} {entityId : String}
    (found : ¬ (graph.entities.lookup entityId).isNone = true) : Present graph entityId := by
  obtain ⟨entity, known⟩ := Option.ne_none_iff_exists'.mp (mt Option.isNone_iff_eq_none.mpr found)
  exact List.mem_map_of_mem (Dict.mem_of_lookup known)

theorem lookup_of_present {graph : SemanticGraph} {entityId : String} (present : Present graph entityId) :
    ¬ (graph.entities.lookup entityId).isNone = true := by
  rw [Option.isNone_iff_eq_none, List.lookup_eq_none_iff]
  intro absent
  obtain ⟨member, inside, rfl⟩ := List.mem_map.mp present
  simpa using absent member inside

theorem count_relationsForEntity (graph : SemanticGraph) (entityId : String) (relation : SemanticRelation) :
    (graph.relationsForEntity entityId).count relation =
      if IncidentTo entityId relation then graph.relations.count relation else 0 := by
  rw [SemanticGraph.relationsForEntity]
  split_ifs with incident
  · exact List.count_filter (decide_eq_true incident)
  · refine List.count_eq_zero_of_not_mem fun inside => incident ?_
    exact of_decide_eq_true (List.mem_filter.mp inside).2

section
variable [Runtime]

namespace RelationFunction

def call : RelationFunction → SemanticGraph → String → String → RelationDetails → Draw →
    Except GraphError SemanticRelation × SemanticGraph
  | dependsOn => SemanticGraph.relationDependsOn
  | canAccess => SemanticGraph.relationCanAccess
  | affects => SemanticGraph.relationAffects
  | exploits => SemanticGraph.relationExploits
  | mitigates => SemanticGraph.relationMitigates
  | supports => SemanticGraph.relationSupports
  | impacts => SemanticGraph.relationImpacts

theorem exists_call_eq (function : RelationFunction) :
    ∃ relationType ∈ relationTypes, function.call = SemanticGraph.relate relationType := by
  cases function with
  | dependsOn => exact ⟨"DEPENDS_ON", by decide, rfl⟩
  | canAccess => exact ⟨"CAN_ACCESS", by decide, rfl⟩
  | affects => exact ⟨"AFFECTS", by decide, rfl⟩
  | exploits => exact ⟨"EXPLOITS", by decide, rfl⟩
  | mitigates => exact ⟨"MITIGATES", by decide, rfl⟩
  | supports => exact ⟨"SUPPORTS", by decide, rfl⟩
  | impacts => exact ⟨"IMPACTS", by decide, rfl⟩

end RelationFunction

/-- A call on a graph. Making a relation touches none, and raises when its type is unknown. -/
inductive GraphOperation where
  | addEntity (entity : CyberSemanticEntity)
  | addRelation (relation : SemanticRelation)
  | makeRelation (relationType sourceEntityId targetEntityId : String) (details : RelationDetails) (draw : Draw)
  | relate (function : RelationFunction) (sourceEntityId targetEntityId : String) (details : RelationDetails) (draw : Draw)

def GraphOperation.perform (graph : SemanticGraph) : GraphOperation → GraphOutcome
  | addEntity entity => (.ok none, graph.addEntity entity)
  | addRelation relation =>
    match graph.addRelation relation with
    | (.error message, after) => (.error (.danglingRelation message), after)
    | (.ok _, extended) => (.ok (some relation), extended)
  | makeRelation relationType sourceEntityId targetEntityId details draw =>
    ((ArgosCore.makeRelation relationType sourceEntityId targetEntityId details draw).map fun _ => none, graph)
  | relate function sourceEntityId targetEntityId details draw =>
    ((function.call graph sourceEntityId targetEntityId details draw).1.map some,
      (function.call graph sourceEntityId targetEntityId details draw).2)

def graphAfter (operations : List GraphOperation) : SemanticGraph :=
  operations.foldl (fun graph operation => (operation.perform graph).2) {}

def insertions (graph : SemanticGraph) : List GraphOperation → List SemanticRelation
  | [] => []
  | operation :: operations => addedBy (operation.perform graph).1 ++ insertions (operation.perform graph).2 operations

theorem addRelation_cases (graph : SemanticGraph) (relation : SemanticRelation) :
    (BothEnds graph relation ∧
      graph.addRelation relation = (.ok (), { graph with relations := graph.relations ++ [relation] })) ∨
    (¬ BothEnds graph relation ∧ ∃ message, graph.addRelation relation = (.error message, graph)) := by
  rw [SemanticGraph.addRelation]
  split_ifs with noSource noTarget
  · exact .inr ⟨fun both => lookup_of_present both.source noSource, _, rfl⟩
  · exact .inr ⟨fun both => lookup_of_present both.target noTarget, _, rfl⟩
  · exact .inl ⟨⟨present_of_lookup noSource, present_of_lookup noTarget⟩, rfl⟩

theorem relate_effect (relationType : String) (graph : SemanticGraph) (sourceEntityId targetEntityId : String)
    (details : RelationDetails) (draw : Draw) :
    GraphEffect graph ((graph.relate relationType sourceEntityId targetEntityId details draw).1.map some,
      (graph.relate relationType sourceEntityId targetEntityId details draw).2) := by
  rw [SemanticGraph.relate]
  split
  next error _ => exact .raised error
  next relation _ =>
    rcases addRelation_cases graph relation with ⟨both, added⟩ | ⟨_, message, refused⟩
    · rw [added]
      exact .relation relation both
    · rw [refused]
      exact .raised (.danglingRelation message)

theorem perform_effect (graph : SemanticGraph) (operation : GraphOperation) :
    GraphEffect graph (operation.perform graph) := by
  cases operation with
  | addEntity entity => exact .entity entity
  | addRelation relation =>
    rw [GraphOperation.perform]
    rcases addRelation_cases graph relation with ⟨both, added⟩ | ⟨_, message, refused⟩
    · rw [added]
      exact .relation relation both
    · rw [refused]
      exact .raised (.danglingRelation message)
  | makeRelation relationType sourceEntityId targetEntityId details draw =>
    rw [GraphOperation.perform]
    cases makeRelation relationType sourceEntityId targetEntityId details draw with
    | error error => exact .raised error
    | ok relation => exact .untouched
  | relate function sourceEntityId targetEntityId details draw =>
    obtain ⟨relationType, _, called⟩ := function.exists_call_eq
    rw [GraphOperation.perform, called]
    exact relate_effect relationType graph sourceEntityId targetEntityId details draw

theorem noDangling_graphAfter (operations : List GraphOperation) : NoDangling (graphAfter operations) := by
  rw [graphAfter]
  induction operations using List.reverseRecOn with
  | nil => simp [NoDangling]
  | append_singleton earlier operation ih =>
    rw [List.foldl_append]
    exact (perform_effect _ operation).noDangling ih

theorem relations_foldl (graph : SemanticGraph) (operations : List GraphOperation) :
    (operations.foldl (fun graph operation => (operation.perform graph).2) graph).relations =
      graph.relations ++ insertions graph operations := by
  induction operations generalizing graph with
  | nil => exact (List.append_nil _).symm
  | cons operation operations ih =>
    rw [List.foldl_cons, ih, (perform_effect graph operation).relations_eq, insertions, List.append_assoc]

structure GraphIntact (operations : List GraphOperation) : Prop where
  attached : NoDangling (graphAfter operations)
  atomic : ∀ (operation : GraphOperation) (error : GraphError),
    (operation.perform (graphAfter operations)).1 = .error error →
      (operation.perform (graphAfter operations)).2 = graphAfter operations
  stored : ∀ relation, BothEnds (graphAfter operations) relation →
    (GraphOperation.addRelation relation).perform (graphAfter operations) =
      (.ok (some relation),
        { graphAfter operations with relations := (graphAfter operations).relations ++ [relation] })
  inserted : (graphAfter operations).relations = insertions {} operations
  inOrder : ∀ entityId, ((graphAfter operations).relationsForEntity entityId).Sublist (insertions {} operations)
  once : ∀ entityId relation, ((graphAfter operations).relationsForEntity entityId).count relation =
    if IncidentTo entityId relation then (insertions {} operations).count relation else 0

/-- No run of calls leaves a relation without an end, or one that its ends do not find. -/
theorem graph_intact (operations : List GraphOperation) : GraphIntact operations := by
  have inserted : (graphAfter operations).relations = insertions {} operations := relations_foldl {} operations
  constructor
  · exact noDangling_graphAfter operations
  · exact fun operation error => (perform_effect _ operation).unchanged
  · intro relation both
    rcases addRelation_cases (graphAfter operations) relation with ⟨_, added⟩ | ⟨dangling, _⟩
    · rw [GraphOperation.perform, added]
    · exact absurd both dangling
  · exact inserted
  · intro entityId
    rw [← inserted]
    exact List.filter_sublist
  · intro entityId relation
    rw [← inserted]
    exact count_relationsForEntity _ entityId relation

end

end ArgosCore.Proofs
