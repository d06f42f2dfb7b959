import ArgosCore.Proofs.EvidenceRootOrder

/-! What the root hash commits to. The artifacts of a root have distinct identifiers,
so their sorted list is determined by their set, and any other list of references
put in their place hashes differently. -/

namespace ArgosCore.Proofs

section
variable [Runtime]

def BuiltRoot (manifests : List (Option Manifest)) (root : EvidenceRoot) : Prop :=
  ∃ runId producer incidentId releaseRef critical draw,
    buildEvidenceRoot manifests runId producer incidentId releaseRef critical draw = .ok root

structure Sealed (root : EvidenceRoot) : Prop where
  distinct : (root.artifactRefs.map ArtifactRef.artifactId).Nodup
  sorted : sortedRefs root.artifactRefs = root.artifactRefs
  hash : root.rootHash = canonicalHash root.artifactRefs

omit [Runtime] in
theorem sortedRefs_eq_iff_perm {left right : List ArtifactRef} (distinct : (right.map ArtifactRef.artifactId).Nodup) :
    sortedRefs left = sortedRefs right ↔ left.Perm right := by
  have first := List.perm_insertionSort ArtifactRef.Before left
  have second := List.perm_insertionSort ArtifactRef.Before right
  constructor
  · intro same
    have sorted : (sortedRefs left).Perm right := by
      rw [same]
      exact second
    exact first.symm.trans sorted
  · exact fun perm => (sortedRefs_perm perm.symm distinct).symm

theorem canonicalHash_sorted (refs : List ArtifactRef) : canonicalHash (sortedRefs refs) = canonicalHash refs := by
  rw [canonicalHash, sortedRefs_idempotent, canonicalHash]

theorem canonicalHash_eq_iff_perm (free : CollisionFree) {left right : List ArtifactRef}
    (distinct : (right.map ArtifactRef.artifactId).Nodup) : canonicalHash left = canonicalHash right ↔ left.Perm right := by
  rw [← sortedRefs_eq_iff_perm distinct]
  constructor
  · exact canonicalHash_injective free
  · intro same
    rw [← canonicalHash_sorted left, same, canonicalHash_sorted]

theorem BuiltRoot.sealed {manifests : List (Option Manifest)} {root : EvidenceRoot} (built : BuiltRoot manifests root) :
    Sealed root := by
  obtain ⟨runId, producer, incidentId, releaseRef, critical, draw, returned⟩ := built
  by_cases accepted : Accepted critical manifests
  · obtain ⟨other, again, refs, hash, _⟩ := buildEvidenceRoot_accepted accepted runId producer incidentId releaseRef draw
    cases returned.symm.trans again
    constructor
    · rw [refs]
      have perm := List.perm_insertionSort ArtifactRef.Before (collected manifests)
      exact (perm.map ArtifactRef.artifactId).nodup_iff.mpr (collected_nodup _)
    · rw [refs, sortedRefs_idempotent]
    · rw [hash, refs, canonicalHash_sorted]
  · obtain ⟨error, raised⟩ := buildEvidenceRoot_refused accepted runId producer incidentId releaseRef draw
    cases returned.symm.trans raised

/-- Root hashes are equal exactly for equal sets of artifacts, and a root with other
references verifies exactly when these are its own in some order. -/
theorem root_commits_to_artifacts (free : CollisionFree) :
    (∀ leftManifests rightManifests left right, BuiltRoot leftManifests left → BuiltRoot rightManifests right →
      (left.rootHash = right.rootHash ↔ ∀ ref, ref ∈ left.artifactRefs ↔ ref ∈ right.artifactRefs)) ∧
    (∀ manifests root, BuiltRoot manifests root → ∀ refs : List ArtifactRef,
      verifyEvidenceRoot { root with artifactRefs := refs } = true ↔ refs.Perm root.artifactRefs) := by
  constructor
  · intro _ _ left right leftBuilt rightBuilt
    have first := leftBuilt.sealed
    have second := rightBuilt.sealed
    rw [first.hash, second.hash, canonicalHash_eq_iff_perm free second.distinct,
      List.perm_ext_iff_of_nodup first.distinct.of_map second.distinct.of_map]
  · intro _ root built refs
    have own := built.sealed
    rw [← canonicalHash_eq_iff_perm free own.distinct, ← own.hash]
    exact decide_eq_true_iff

end

def samplePair : List (Option Manifest) :=
  [some ⟨some "artifact-1", some "00", some "store/1"⟩, some ⟨some "artifact-2", some "01", some "store/2"⟩]

theorem root_commits_to_two_artifacts :
    letI := Runtime.transparent
    ∃ root other : EvidenceRoot, BuiltRoot samplePair root ∧ BuiltRoot (samplePair.take 1) other ∧ root.rootHash ≠ other.rootHash ∧
      verifyEvidenceRoot { root with artifactRefs := root.artifactRefs.reverse } = true ∧
      verifyEvidenceRoot { root with artifactRefs := root.artifactRefs ++ root.artifactRefs } = false := by
  let _ := Runtime.transparent
  have commits := root_commits_to_artifacts Runtime.transparent_collisionFree
  have whole : BuiltRoot samplePair _ := ⟨"run-1", "evidence_root", none, none, true, ⟨0, 0⟩, rfl⟩
  have part : BuiltRoot (samplePair.take 1) _ := ⟨"run-1", "evidence_root", none, none, true, ⟨0, 0⟩, rfl⟩
  refine ⟨_, _, whole, part, ?_, ?_, ?_⟩
  · intro same
    have second := (commits.1 _ _ _ _ whole part).mp same ⟨"artifact-2", "01", "store/2"⟩
    exact absurd second (by decide)
  · exact (commits.2 _ _ whole _).mpr (List.reverse_perm _)
  · rw [Bool.eq_false_iff]
    intro verified
    exact absurd ((commits.2 _ _ whole _).mp verified).length_eq (by decide)

end ArgosCore.Proofs
