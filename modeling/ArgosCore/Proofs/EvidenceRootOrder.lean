import ArgosCore.EvidenceRoot

/-! The evidence root as a function of the set of manifests. The loop accepts a
list by properties that neither order nor repetition changes, and then keeps, for
each artifact, what the last manifest declared. -/

namespace ArgosCore.Proofs

instance : Std.Total ArtifactRef.Before where
  total left right := by
    rcases lt_trichotomy left.sha256 right.sha256 with less | same | greater
    · exact .inl (.inl less)
    · rcases le_total left.artifactId right.artifactId with before | after
      · exact .inl (.inr ⟨same, before⟩)
      · exact .inr (.inr ⟨same.symm, after⟩)
    · exact .inr (.inl greater)

instance : IsTrans ArtifactRef ArtifactRef.Before where
  trans := by
    rintro first second third (less | ⟨same, before⟩) (later | ⟨again, after⟩)
    · exact .inl (less.trans later)
    · exact .inl (again ▸ less)
    · exact .inl (same ▸ later)
    · exact .inr ⟨same.trans again, before.trans after⟩

theorem mem_sortedRefs {refs : List ArtifactRef} {ref : ArtifactRef} : ref ∈ sortedRefs refs ↔ ref ∈ refs :=
  (List.perm_insertionSort ArtifactRef.Before refs).mem_iff

theorem sortedRefs_idempotent (refs : List ArtifactRef) : sortedRefs (sortedRefs refs) = sortedRefs refs :=
  (List.pairwise_insertionSort ArtifactRef.Before refs).insertionSort_eq

theorem sortedRefs_perm {left right : List ArtifactRef} (perm : left.Perm right)
    (distinct : (left.map ArtifactRef.artifactId).Nodup) : sortedRefs left = sortedRefs right := by
  have first := List.perm_insertionSort ArtifactRef.Before left
  have second := List.perm_insertionSort ArtifactRef.Before right
  apply List.Perm.eq_of_pairwise _ (List.pairwise_insertionSort _ left) (List.pairwise_insertionSort _ right)
    (first.trans (perm.trans second.symm))
  intro one other member among before after
  have same : one.artifactId = other.artifactId := by
    rcases before with less | ⟨_, below⟩ <;> rcases after with greater | ⟨_, above⟩
    · exact absurd (less.trans greater) (lt_irrefl _)
    · exact absurd less (by simp_all)
    · exact absurd greater (by simp_all)
    · exact le_antisymm below above
  exact List.inj_on_of_nodup_map distinct (first.mem_iff.mp member) (perm.mem_iff.mpr (second.mem_iff.mp among)) same

def declared (manifest : Option Manifest) : Option ArtifactRef :=
  (manifest.filter Manifest.complete).bind fun complete => (artifactRefFromManifest complete).toOption

/-- A manifest that the loop does not refuse by itself: it declares an artifact, or is
incomplete outside the critical mode. -/
def Usable (critical : Bool) (manifest : Option Manifest) : Prop :=
  (declared manifest).isSome ∨ manifest.filter Manifest.complete = none ∧ critical = false

def Consistent (byId : Dict ArtifactRef) (refs : List ArtifactRef) : Prop :=
  (∀ ref ∈ refs, ∀ existing, byId.lookup ref.artifactId = some existing → existing.sha256 = ref.sha256) ∧
    refs.Pairwise fun left right => left.artifactId = right.artifactId → left.sha256 = right.sha256

theorem consistent_cons {byId : Dict ArtifactRef} {ref : ArtifactRef} {refs : List ArtifactRef} :
    Consistent byId (ref :: refs) ↔
      (∀ existing, byId.lookup ref.artifactId = some existing → existing.sha256 = ref.sha256) ∧
        Consistent (byId.set ref.artifactId ref) refs := by
  simp only [Consistent, List.forall_mem_cons, List.pairwise_cons, Dict.lookup_set]
  constructor
  · intro ⟨⟨here, later⟩, new, pairwise⟩
    refine ⟨here, ?_, pairwise⟩
    intro other member existing found
    split at found
    next same =>
      cases found
      exact new other member same.symm
    next => exact later other member existing found
  · intro ⟨here, later, pairwise⟩
    refine ⟨⟨here, ?_⟩, ?_, pairwise⟩
    · intro other member existing found
      by_cases same : other.artifactId = ref.artifactId
      · exact (here existing (same ▸ found)).trans (later other member ref (by simp [same]))
      · exact later other member existing (by simp [same, found])
    · intro other member same
      exact later other member ref (by simp [same])

theorem consistent_nil {refs : List ArtifactRef} :
    Consistent [] refs ↔ ∀ left ∈ refs, ∀ right ∈ refs, left.artifactId = right.artifactId → left.sha256 = right.sha256 := by
  simp only [Consistent, List.lookup_nil, reduceCtorEq, false_implies, implies_true, true_and]
  constructor
  · intro pairwise left leftMember right rightMember
    have flipped := pairwise.imp fun {left right} agree (same : right.artifactId = left.artifactId) => (agree same.symm).symm
    exact List.Pairwise.forall_of_forall_of_flip (fun _ _ _ => rfl) pairwise flipped leftMember rightMember
  · exact List.pairwise_of_forall_mem_list

def byArtifactId (refs : List ArtifactRef) : Dict ArtifactRef := Dict.setAll [] (refs.map fun ref => (ref.artifactId, ref))

private theorem mem_byArtifactId {refs : List ArtifactRef} {member : String × ArtifactRef}
    (inside : member ∈ byArtifactId refs) : member.2 ∈ refs ∧ member.1 = member.2.artifactId := by
  have item := (Dict.mem_of_mem_setAll inside).resolve_right (by simp)
  obtain ⟨ref, among, rfl⟩ := List.mem_map.mp item
  exact ⟨among, rfl⟩

private theorem byArtifactId_nodup (refs : List ArtifactRef) : ((byArtifactId refs).map Prod.fst).Nodup :=
  Dict.nodup_setAll (by simp) _

theorem collected_nodup (refs : List ArtifactRef) :
    (((byArtifactId refs).map Prod.snd).map ArtifactRef.artifactId).Nodup := by
  have keys : ((byArtifactId refs).map Prod.snd).map ArtifactRef.artifactId = (byArtifactId refs).map Prod.fst := by
    rw [List.map_map]
    exact List.map_congr_left fun member inside => (mem_byArtifactId inside).2.symm
  rw [keys]
  exact byArtifactId_nodup refs

private theorem last_collected (refs : List ArtifactRef) (ref : ArtifactRef) :
    ref ∈ (byArtifactId (refs ++ [ref])).map Prod.snd := by
  have found : (byArtifactId (refs ++ [ref])).lookup ref.artifactId = some ref := by
    rw [byArtifactId, Dict.lookup_setAll]
    simp
  exact List.mem_map.mpr ⟨_, (Dict.lookup_eq_some_iff (byArtifactId_nodup _)).mp found, rfl⟩

private theorem mem_collected {refs : List ArtifactRef}
    (agree : ∀ left ∈ refs, ∀ right ∈ refs, left.artifactId = right.artifactId → left = right) {ref : ArtifactRef} :
    ref ∈ (byArtifactId refs).map Prod.snd ↔ ref ∈ refs := by
  constructor
  · intro member
    obtain ⟨pair, inside, rfl⟩ := List.mem_map.mp member
    exact (mem_byArtifactId inside).1
  · intro among
    have key : ref.artifactId ∈ (byArtifactId refs).map Prod.fst :=
      (Dict.mem_keys_setAll _ _ _).mpr (.inl (by simpa using ⟨ref, among, rfl⟩))
    obtain ⟨pair, inside, same⟩ := List.mem_map.mp key
    obtain ⟨other, identifier⟩ := mem_byArtifactId inside
    exact List.mem_map.mpr ⟨pair, inside, agree _ other _ among (identifier.symm.trans same)⟩

def Accepted (critical : Bool) (manifests : List (Option Manifest)) : Prop :=
  (∀ manifest ∈ manifests, Usable critical manifest) ∧
    ∀ left ∈ manifests.filterMap declared, ∀ right ∈ manifests.filterMap declared,
      left.artifactId = right.artifactId → left.sha256 = right.sha256

def ObjectRefsAgree (manifests : List (Option Manifest)) : Prop :=
  ∀ left ∈ manifests.filterMap declared, ∀ right ∈ manifests.filterMap declared,
    left.artifactId = right.artifactId → left.sha256 = right.sha256 → left.objectRef = right.objectRef

/-- A permutation of the list and of repeated elements of it. -/
def Rearranged (manifests rearranged : List (Option Manifest)) : Prop :=
  ∃ repeated, repeated ⊆ manifests ∧ rearranged.Perm (manifests ++ repeated)

def SameOutcome : Except EvidenceRootError EvidenceRoot → Except EvidenceRootError EvidenceRoot → Prop
  | .error _, .error _ => True
  | .ok left, .ok right =>
    left.rootHash = right.rootHash ∧ left.artifactRefs = right.artifactRefs ∧ left.artifactCount = right.artifactCount
  | _, _ => False

theorem Rearranged.mem_iff {manifests rearranged : List (Option Manifest)} (same : Rearranged manifests rearranged)
    {manifest : Option Manifest} : manifest ∈ rearranged ↔ manifest ∈ manifests := by
  obtain ⟨repeated, within, perm⟩ := same
  rw [perm.mem_iff, List.mem_append, or_iff_left_of_imp (@within manifest)]

private theorem declared_congr {manifests rearranged : List (Option Manifest)} (same : Rearranged manifests rearranged)
    (ref : ArtifactRef) : ref ∈ rearranged.filterMap declared ↔ ref ∈ manifests.filterMap declared := by
  simp only [List.mem_filterMap, same.mem_iff]

theorem accepted_congr {critical : Bool} {manifests rearranged : List (Option Manifest)}
    (same : Rearranged manifests rearranged) : Accepted critical rearranged ↔ Accepted critical manifests := by
  simp only [Accepted, declared_congr same, same.mem_iff]

def collected (manifests : List (Option Manifest)) : List ArtifactRef :=
  (byArtifactId (manifests.filterMap declared)).map Prod.snd

private theorem collected_perm {critical : Bool} {manifests rearranged : List (Option Manifest)}
    (accepted : Accepted critical manifests) (agree : ObjectRefsAgree manifests) (same : Rearranged manifests rearranged) :
    (collected manifests).Perm (collected rearranged) := by
  have equal : ∀ left ∈ manifests.filterMap declared, ∀ right ∈ manifests.filterMap declared,
      left.artifactId = right.artifactId → left = right := by
    intro left leftMember right rightMember identifier
    have hash := accepted.2 left leftMember right rightMember identifier
    have object := agree left leftMember right rightMember identifier hash
    cases left
    cases right
    simp_all
  have again : ∀ left ∈ rearranged.filterMap declared, ∀ right ∈ rearranged.filterMap declared,
      left.artifactId = right.artifactId → left = right := by
    simpa only [declared_congr same] using equal
  rw [collected, collected, List.perm_ext_iff_of_nodup (collected_nodup _).of_map (collected_nodup _).of_map]
  intro ref
  rw [mem_collected equal, mem_collected again, declared_congr same]

variable [Runtime]

omit [Runtime] in
private theorem toDict_distinct (ref : ArtifactRef) : (Json.obj ref.toDict).Distinct := by
  simp [ArtifactRef.toDict, Json.Distinct, Json.DistinctMembers]

omit [Runtime] in
private theorem toDict_injective : Function.Injective fun ref : ArtifactRef => (Json.obj ref.toDict).sortKeys := by
  intro left right same
  rw [Json.sortKeys_eq_iff_values (by rfl) (toDict_distinct left).1] at same
  simp [ArtifactRef.toDict, Json.sortKeys] at same
  cases left
  cases right
  simp_all

theorem canonicalHash_injective (free : CollisionFree) {left right : List ArtifactRef}
    (same : canonicalHash left = canonicalHash right) : sortedRefs left = sortedRefs right := by
  have distinct (refs : List ArtifactRef) : (Json.arr (refs.map fun ref => .obj ref.toDict)).Distinct := by
    rw [Json.Distinct, Json.distinctItems_iff]
    intro item member
    obtain ⟨ref, _, rfl⟩ := List.mem_map.mp member
    exact toDict_distinct ref
  have documents := free.hashJson (distinct _) (distinct _) same
  simp only [Json.sortKeys, Json.arr.injEq, Json.sortItems_eq_map, List.map_map] at documents
  exact List.map_injective_iff.mpr toDict_injective documents

theorem addManifest_ok_iff {critical : Bool} {byId extended : Dict ArtifactRef} {manifest : Option Manifest} :
    addManifest critical byId manifest = .ok extended ↔
      (declared manifest = none ∧ Usable critical manifest ∧ extended = byId) ∨
      ∃ ref, declared manifest = some ref ∧ extended = byId.set ref.artifactId ref ∧
        ∀ existing, byId.lookup ref.artifactId = some existing → existing.sha256 = ref.sha256 := by
  unfold addManifest Usable declared
  cases manifest.filter Manifest.complete with
  | none => cases critical <;> simp [eq_comm]
  | some complete =>
    simp only [Option.bind_some]
    generalize artifactRefFromManifest complete = built
    cases built with
    | error error => simp [Except.toOption]
    | ok ref =>
      simp only [Except.toOption, reduceCtorEq, false_and, Option.some.injEq, exists_eq_left', false_or]
      generalize byId.lookup ref.artifactId = found
      cases found with
      | none => simp [eq_comm]
      | some existing =>
        by_cases same : existing.sha256 = ref.sha256
        · simp [same, eq_comm]
        · simp [same]

/-- The loop collects what the usable manifests declare, the last of an artifact winning. -/
theorem addManifests_ok_iff {critical : Bool} {byId extended : Dict ArtifactRef} {manifests : List (Option Manifest)} :
    addManifests critical byId manifests = .ok extended ↔
      (∀ manifest ∈ manifests, Usable critical manifest) ∧ Consistent byId (manifests.filterMap declared) ∧
        extended = byId.setAll ((manifests.filterMap declared).map fun ref => (ref.artifactId, ref)) := by
  induction manifests generalizing byId with
  | nil => simp [addManifests, Consistent, Dict.setAll, eq_comm]
  | cons manifest manifests ih =>
    have turn : addManifests critical byId (manifest :: manifests) = .ok extended ↔
        ∃ next, addManifest critical byId manifest = .ok next ∧ addManifests critical next manifests = .ok extended := by
      rw [addManifests]
      cases addManifest critical byId manifest <;> simp
    rw [turn]
    simp only [addManifest_ok_iff, ih, List.forall_mem_cons]
    cases found : declared manifest with
    | none =>
      rw [List.filterMap_cons_none found]
      simp [and_assoc]
    | some ref =>
      rw [List.filterMap_cons_some found, consistent_cons]
      have usable : Usable critical manifest := .inl (by simp [found])
      simp only [usable, true_and, reduceCtorEq, false_and, Option.some.injEq, exists_eq_left', false_or, List.map_cons,
        Dict.setAll, List.foldl_cons]
      constructor
      · rintro ⟨next, ⟨rfl, here⟩, rest, consistent, same⟩
        exact ⟨rest, ⟨here, consistent⟩, same⟩
      · intro ⟨rest, ⟨here, consistent⟩, same⟩
        exact ⟨_, ⟨rfl, here⟩, rest, consistent, same⟩

theorem buildEvidenceRoot_accepted {critical : Bool} {manifests : List (Option Manifest)}
    (accepted : Accepted critical manifests) (runId producer : String) (incidentId releaseRef : Option String) (draw : Draw) :
    ∃ root, buildEvidenceRoot manifests runId producer incidentId releaseRef critical draw = .ok root ∧
      root.artifactRefs = sortedRefs (collected manifests) ∧ root.rootHash = canonicalHash (collected manifests) ∧
      root.artifactCount = (collected manifests).length := by
  have built := addManifests_ok_iff.mpr ⟨accepted.1, consistent_nil.mpr accepted.2, rfl⟩
  rw [buildEvidenceRoot, built]
  exact ⟨_, rfl, rfl, rfl, rfl⟩

theorem buildEvidenceRoot_refused {critical : Bool} {manifests : List (Option Manifest)}
    (refused : ¬ Accepted critical manifests) (runId producer : String) (incidentId releaseRef : Option String) (draw : Draw) :
    ∃ error, buildEvidenceRoot manifests runId producer incidentId releaseRef critical draw = .error error := by
  rw [buildEvidenceRoot]
  cases built : addManifests critical [] manifests with
  | error error => exact ⟨error, rfl⟩
  | ok byId =>
    obtain ⟨usable, consistent, _⟩ := addManifests_ok_iff.mp built
    exact absurd ⟨usable, consistent_nil.mp consistent⟩ refused

private theorem repeated_wins {critical : Bool} {manifests : List (Option Manifest)} {ref : ArtifactRef}
    (accepted : Accepted critical manifests) (member : ref ∈ manifests.filterMap declared)
    {runId producer : String} {incidentId releaseRef : Option String}
    (stable : ∀ rearranged, Rearranged manifests rearranged → ∀ first second : Draw,
      SameOutcome (buildEvidenceRoot manifests runId producer incidentId releaseRef critical first)
        (buildEvidenceRoot rearranged runId producer incidentId releaseRef critical second)) :
    ref ∈ collected manifests := by
  obtain ⟨manifest, inside, declares⟩ := List.mem_filterMap.mp member
  have same : Rearranged manifests (manifests ++ [manifest]) := ⟨[manifest], by simpa using inside, .refl _⟩
  obtain ⟨root, built, refs, _⟩ := buildEvidenceRoot_accepted accepted runId producer incidentId releaseRef ⟨0, 0⟩
  obtain ⟨other, rebuilt, others, _⟩ := buildEvidenceRoot_accepted ((accepted_congr same).mpr accepted) runId producer
    incidentId releaseRef ⟨0, 0⟩
  have outcome := stable _ same ⟨0, 0⟩ ⟨0, 0⟩
  rw [built, rebuilt] at outcome
  have last : ref ∈ collected (manifests ++ [manifest]) := by
    rw [collected, List.filterMap_append, List.filterMap_cons_some declares]
    exact last_collected _ ref
  rw [← mem_sortedRefs, ← others, ← outcome.2.1, refs, mem_sortedRefs] at last
  exact last

/-- The root depends on the set of manifests alone exactly when the list is one that
raises, or manifests of one artifact and hash also name one object. -/
theorem root_depends_on_set_iff (manifests : List (Option Manifest)) (runId producer : String)
    (incidentId releaseRef : Option String) (critical : Bool) :
    (∀ rearranged, Rearranged manifests rearranged → ∀ first second : Draw,
      SameOutcome (buildEvidenceRoot manifests runId producer incidentId releaseRef critical first)
        (buildEvidenceRoot rearranged runId producer incidentId releaseRef critical second)) ↔
      ¬ Accepted critical manifests ∨ ObjectRefsAgree manifests := by
  constructor
  · intro stable
    by_cases accepted : Accepted critical manifests
    · apply Or.inr
      intro left leftMember right rightMember identifier _
      have first := repeated_wins accepted leftMember stable
      have second := repeated_wins accepted rightMember stable
      rw [List.inj_on_of_nodup_map (collected_nodup _) first second identifier]
    · exact .inl accepted
  · intro condition rearranged same first second
    by_cases accepted : Accepted critical manifests
    · have agree := condition.resolve_left (not_not.mpr accepted)
      have perm := collected_perm accepted agree same
      have sorted := sortedRefs_perm perm (collected_nodup _)
      obtain ⟨root, built, refs, hash, count⟩ := buildEvidenceRoot_accepted accepted runId producer incidentId releaseRef first
      obtain ⟨other, rebuilt, others, rehash, recount⟩ := buildEvidenceRoot_accepted ((accepted_congr same).mpr accepted)
        runId producer incidentId releaseRef second
      rw [built, rebuilt]
      refine ⟨?_, ?_, ?_⟩
      · rw [hash, rehash, canonicalHash, canonicalHash, sorted]
      · rw [refs, others, sorted]
      · rw [count, recount, perm.length_eq]
    · obtain ⟨error, raised⟩ := buildEvidenceRoot_refused accepted runId producer incidentId releaseRef first
      obtain ⟨other, again⟩ := buildEvidenceRoot_refused (mt (accepted_congr same).mp accepted) runId producer incidentId
        releaseRef second
      rw [raised, again]
      trivial

omit [Runtime] in
theorem root_depends_on_order :
    letI := Runtime.transparent
    let left : Manifest := { artifactId := some "artifact-1", sha256 := some "00", objectRef := some "store/1" }
    let right : Manifest := { artifactId := some "artifact-1", sha256 := some "00", objectRef := some "store/2" }
    Rearranged [some left, some right] [some right, some left] ∧
      ¬ SameOutcome (buildEvidenceRoot [some left, some right] "run-1" "evidence_root" none none true ⟨0, 0⟩)
        (buildEvidenceRoot [some right, some left] "run-1" "evidence_root" none none true ⟨0, 0⟩) := by
  refine ⟨⟨[], by simp, .swap _ _ _⟩, ?_⟩
  intro outcome
  have objects := congrArg (List.map ArtifactRef.objectRef) outcome.2.1
  exact absurd objects (by decide)

end ArgosCore.Proofs
