import ArgosCore.Proofs.EvidenceRootOrder

/-! How `build_evidence_root` fails. The loop stops at the first manifest it cannot
add, and a manifest without an object reference is neither reported nor skipped. -/

namespace ArgosCore.Proofs

def Documented : EvidenceRootError → Prop
  | .missingCriticalEvidence _ | .inconsistentEvidenceRoot _ => True
  | .keyError _ => False

def Conflict (manifests : List (Option Manifest)) : Prop :=
  ∃ left ∈ manifests.filterMap declared, ∃ right ∈ manifests.filterMap declared,
    left.artifactId = right.artifactId ∧ left.sha256 ≠ right.sha256

/-- Complete for the loop, but without the reference that it goes on to read. -/
def LacksObjectRef (manifest : Option Manifest) : Prop :=
  ∃ complete, manifest.filter Manifest.complete = some complete ∧ complete.objectRef = none

theorem declared_none_iff {manifest : Option Manifest} :
    declared manifest = none ↔ manifest.filter Manifest.complete = none ∨ LacksObjectRef manifest := by
  rw [declared, LacksObjectRef]
  cases found : manifest.filter Manifest.complete with
  | none => simp
  | some complete =>
    have holds := (Option.filter_eq_some_iff.mp found).2
    simp only [Manifest.complete, ne_eq, decide_not, Bool.and_eq_true, Bool.not_eq_true', decide_eq_false_iff_not] at holds
    obtain ⟨artifactId, sha256, objectRef⟩ := complete
    cases artifactId <;> cases sha256 <;> cases objectRef <;> simp_all [artifactRefFromManifest, Except.toOption]

private theorem artifactRefFromManifest_error {manifest : Manifest} {error : EvidenceRootError}
    (failed : artifactRefFromManifest manifest = .error error) : ∃ key, error = .keyError key := by
  unfold artifactRefFromManifest at failed
  split at failed
  · exact ⟨_, (Except.error.inj failed).symm⟩
  · exact ⟨_, (Except.error.inj failed).symm⟩
  · exact ⟨_, (Except.error.inj failed).symm⟩
  · cases failed

section
variable [Runtime]

theorem addManifest_error_cases {critical : Bool} {byId : Dict ArtifactRef} {manifest : Option Manifest}
    {error : EvidenceRootError} (failed : addManifest critical byId manifest = .error error) :
    (declared manifest = none ∧ critical = true ∧ error = .missingCriticalEvidence manifest) ∨
      (LacksObjectRef manifest ∧ ∃ key, error = .keyError key) ∨
      ((declared manifest).isSome ∧ ∃ message, error = .inconsistentEvidenceRoot message) := by
  unfold addManifest at failed
  cases found : manifest.filter Manifest.complete with
  | none =>
    rw [found] at failed
    cases critical with
    | true =>
      cases failed
      exact .inl ⟨declared_none_iff.mpr (.inl found), rfl, rfl⟩
    | false => cases failed
  | some complete =>
    simp only [found] at failed
    cases built : artifactRefFromManifest complete with
    | error missing =>
      simp only [built] at failed
      cases failed
      have undeclared : declared manifest = none := by simp [declared, found, built, Except.toOption]
      have lacks := (declared_none_iff.mp undeclared).resolve_left (by simp [found])
      exact .inr (.inl ⟨lacks, artifactRefFromManifest_error built⟩)
    | ok ref =>
      have declares : (declared manifest).isSome := by simp [declared, found, built, Except.toOption]
      simp only [built] at failed
      split at failed
      next => cases failed
      next existing known =>
        split_ifs at failed
        · cases failed
          exact .inr (.inr ⟨declares, _, rfl⟩)

theorem addManifest_lacks (critical : Bool) (byId : Dict ArtifactRef) {manifest : Option Manifest}
    (lacks : LacksObjectRef manifest) : ∃ key, addManifest critical byId manifest = .error (.keyError key) := by
  have undeclared := declared_none_iff.mpr (.inr lacks)
  obtain ⟨complete, found, _⟩ := lacks
  rw [declared, found, Option.bind_some] at undeclared
  rw [addManifest, found]
  cases built : artifactRefFromManifest complete with
  | error missing =>
    obtain ⟨key, rfl⟩ := artifactRefFromManifest_error built
    exact ⟨key, by simp only [built]⟩
  | ok ref => simp [built, Except.toOption] at undeclared

theorem addManifests_error_iff {critical : Bool} {byId : Dict ArtifactRef} {manifests : List (Option Manifest)}
    {error : EvidenceRootError} :
    addManifests critical byId manifests = .error error ↔
      ∃ earlier manifest later before, manifests = earlier ++ manifest :: later ∧
        addManifests critical byId earlier = .ok before ∧ addManifest critical before manifest = .error error := by
  induction manifests generalizing byId with
  | nil => simp [addManifests]
  | cons first rest ih =>
    rw [addManifests]
    cases turn : addManifest critical byId first with
    | error failed =>
      constructor
      · intro same
        exact ⟨[], first, rest, byId, rfl, rfl, turn.trans same⟩
      · rintro ⟨earlier, manifest, later, before, split, reached, stopped⟩
        cases earlier with
        | nil =>
          cases split
          cases reached
          exact turn.symm.trans stopped
        | cons other earlier =>
          cases split
          rw [addManifests, turn] at reached
          cases reached
    | ok extended =>
      simp only [ih]
      constructor
      · rintro ⟨earlier, manifest, later, before, split, reached, stopped⟩
        refine ⟨first :: earlier, manifest, later, before, by rw [split, List.cons_append], ?_, stopped⟩
        rw [addManifests, turn]
        exact reached
      · rintro ⟨earlier, manifest, later, before, split, reached, stopped⟩
        cases earlier with
        | nil =>
          cases split
          cases reached
          cases turn.symm.trans stopped
        | cons other earlier =>
          cases split
          rw [addManifests, turn] at reached
          exact ⟨earlier, manifest, later, before, rfl, reached, stopped⟩

theorem addManifests_accepted_iff {critical : Bool} {manifests : List (Option Manifest)} :
    (∃ byId, addManifests critical [] manifests = .ok byId) ↔ Accepted critical manifests := by
  simp only [addManifests_ok_iff, consistent_nil, Accepted, exists_and_left, exists_eq, and_true]

theorem build_error_iff {critical : Bool} {manifests : List (Option Manifest)} {runId producer : String}
    {incidentId releaseRef : Option String} {draw : Draw} {error : EvidenceRootError} :
    buildEvidenceRoot manifests runId producer incidentId releaseRef critical draw = .error error ↔
      addManifests critical [] manifests = .error error := by
  rw [buildEvidenceRoot]
  cases addManifests critical [] manifests <;> simp

/-- The manifests that lack a reference come too late to be reached. -/
def ObjectRefsPresent (critical : Bool) (manifests : List (Option Manifest)) : Prop :=
  ∀ earlier manifest later, manifests = earlier ++ manifest :: later → LacksObjectRef manifest → ¬ Accepted critical earlier

theorem addManifests_keyError_iff {critical : Bool} {manifests : List (Option Manifest)} :
    (∃ key, addManifests critical [] manifests = .error (.keyError key)) ↔ ¬ ObjectRefsPresent critical manifests := by
  simp only [ObjectRefsPresent, addManifests_error_iff, not_forall, not_not, exists_prop]
  constructor
  · intro ⟨key, earlier, manifest, later, before, split, reached, stopped⟩
    refine ⟨earlier, manifest, later, split, ?_, addManifests_accepted_iff.mp ⟨before, reached⟩⟩
    rcases addManifest_error_cases stopped with ⟨_, _, other⟩ | ⟨lacks, _⟩ | ⟨_, message, other⟩
    · cases other
    · exact lacks
    · cases other
  · intro ⟨earlier, manifest, later, split, ⟨complete, found, absent⟩, accepted⟩
    obtain ⟨before, reached⟩ := addManifests_accepted_iff.mpr accepted
    obtain ⟨key, stopped⟩ := addManifest_lacks critical before ⟨complete, found, absent⟩
    exact ⟨key, earlier, manifest, later, before, split, reached, stopped⟩

theorem conflict_of_inconsistent {critical : Bool} {manifests : List (Option Manifest)} {message : String}
    (failed : addManifests critical [] manifests = .error (.inconsistentEvidenceRoot message)) : Conflict manifests := by
  obtain ⟨earlier, manifest, later, before, rfl, reached, stopped⟩ := addManifests_error_iff.mp failed
  have usable := (addManifests_accepted_iff.mp ⟨before, reached⟩).1
  have refused : ¬ Accepted critical (earlier ++ [manifest]) := by
    rw [← addManifests_accepted_iff]
    intro ⟨byId, done⟩
    have again := addManifests_error_iff.mpr ⟨earlier, manifest, [], before, rfl, reached, stopped⟩
    cases done.symm.trans again
  have declares : (declared manifest).isSome := by
    rcases addManifest_error_cases stopped with ⟨_, _, other⟩ | ⟨_, _, other⟩ | ⟨declares, _⟩
    · cases other
    · cases other
    · exact declares
  by_contra agree
  apply refused
  refine ⟨?_, ?_⟩
  · rw [List.forall_mem_append, List.forall_mem_singleton]
    exact ⟨usable, .inl declares⟩
  · intro left leftMember right rightMember same
    by_contra different
    have whole : (earlier ++ [manifest]).Sublist (earlier ++ manifest :: later) :=
      (List.Sublist.refl earlier).append (List.singleton_sublist.mpr List.mem_cons_self)
    have within := (whole.filterMap declared).subset
    exact agree ⟨left, within leftMember, right, within rightMember, same, different⟩

omit [Runtime] in
theorem not_accepted_of_conflict {manifests : List (Option Manifest)} (conflict : Conflict manifests) (critical : Bool) :
    ¬ Accepted critical manifests := by
  intro accepted
  obtain ⟨left, leftMember, right, rightMember, same, different⟩ := conflict
  exact different (accepted.2 left leftMember right rightMember same)

/-- Outside the critical mode incomplete manifests are skipped until one lacks only
its reference. -/
theorem addManifests_skips (byId : Dict ArtifactRef) (manifests : List (Option Manifest)) :
    (∃ key, addManifests false byId manifests = .error (.keyError key)) ∨
      addManifests false byId manifests = addManifests false byId (manifests.filter fun manifest => (declared manifest).isSome) := by
  induction manifests generalizing byId with
  | nil => exact .inr rfl
  | cons first rest ih =>
    by_cases declares : (declared first).isSome
    · rw [List.filter_cons_of_pos (by simpa using declares), addManifests, addManifests]
      cases addManifest false byId first with
      | error error => exact .inr rfl
      | ok extended => exact ih extended
    · rw [List.filter_cons_of_neg (by simpa using declares), addManifests]
      rw [Bool.not_eq_true, Option.isSome_eq_false_iff, Option.isNone_iff_eq_none] at declares
      rcases declared_none_iff.mp declares with incomplete | lacks
      · have skipped : addManifest false byId first = .ok byId := by simp [addManifest, incomplete]
        rw [skipped]
        exact ih byId
      · obtain ⟨key, stopped⟩ := addManifest_lacks false byId lacks
        rw [stopped]
        exact .inl ⟨key, rfl⟩

/-- The documented failures of one mode, for one way to call it. -/
structure FailsAsDocumented (critical : Bool) (build : List (Option Manifest) → Except EvidenceRootError EvidenceRoot)
    (manifests : List (Option Manifest)) : Prop where
  strict : critical = true → ((∃ error, build manifests = .error error ∧ Documented error) ↔
    (∃ manifest ∈ manifests, declared manifest = none) ∨ Conflict manifests)
  lenient : critical = false → ((∃ message, build manifests = .error (.inconsistentEvidenceRoot message)) ↔ Conflict manifests)
  skipped : critical = false → build manifests = build (manifests.filter fun manifest => (declared manifest).isSome)
  only : ∀ error, build manifests = .error error → Documented error

theorem documented_of_present {critical : Bool} {manifests : List (Option Manifest)}
    (present : ObjectRefsPresent critical manifests) {error : EvidenceRootError}
    (failed : addManifests critical [] manifests = .error error) : Documented error := by
  cases error with
  | keyError key => exact addManifests_keyError_iff.mp ⟨key, failed⟩ present
  | _ => trivial

theorem addManifests_refused {critical : Bool} {manifests : List (Option Manifest)}
    (refused : ¬ Accepted critical manifests) : ∃ error, addManifests critical [] manifests = .error error := by
  cases ran : addManifests critical [] manifests with
  | ok byId => exact absurd (addManifests_accepted_iff.mp ⟨byId, ran⟩) refused
  | error error => exact ⟨error, rfl⟩

theorem strict_fails_iff {manifests : List (Option Manifest)} (present : ObjectRefsPresent true manifests) :
    (∃ error, addManifests true [] manifests = .error error ∧ Documented error) ↔
      (∃ manifest ∈ manifests, declared manifest = none) ∨ Conflict manifests := by
  constructor
  · intro ⟨error, failed, documented⟩
    obtain ⟨earlier, manifest, later, before, split, reached, stopped⟩ := addManifests_error_iff.mp failed
    rcases addManifest_error_cases stopped with ⟨undeclared, _⟩ | ⟨_, key, rfl⟩ | ⟨_, message, rfl⟩
    · exact .inl ⟨manifest, by simp [split], undeclared⟩
    · exact documented.elim
    · exact .inr (conflict_of_inconsistent failed)
  · intro faulty
    have refused : ¬ Accepted true manifests := by
      intro accepted
      rcases faulty with ⟨manifest, inside, undeclared⟩ | conflict
      · rcases accepted.1 manifest inside with declares | ⟨_, lenient⟩
        · simp [undeclared] at declares
        · cases lenient
      · exact not_accepted_of_conflict conflict true accepted
    obtain ⟨error, failed⟩ := addManifests_refused refused
    exact ⟨error, failed, documented_of_present present failed⟩

theorem lenient_fails_iff {manifests : List (Option Manifest)} (present : ObjectRefsPresent false manifests) :
    (∃ message, addManifests false [] manifests = .error (.inconsistentEvidenceRoot message)) ↔ Conflict manifests := by
  constructor
  · intro ⟨message, failed⟩
    exact conflict_of_inconsistent failed
  · intro conflict
    obtain ⟨error, failed⟩ := addManifests_refused (not_accepted_of_conflict conflict false)
    have documented := documented_of_present present failed
    obtain ⟨_, _, _, _, _, _, stopped⟩ := addManifests_error_iff.mp failed
    rcases addManifest_error_cases stopped with ⟨_, strict, _⟩ | ⟨_, key, rfl⟩ | ⟨_, message, rfl⟩
    · cases strict
    · exact documented.elim
    · exact ⟨message, failed⟩

/-- The call fails as documented exactly when no manifest that lacks only its object
reference is reached. -/
theorem fails_as_documented_iff (critical : Bool) (manifests : List (Option Manifest)) (runId producer : String)
    (incidentId releaseRef : Option String) (draw : Draw) :
    FailsAsDocumented critical (fun manifests => buildEvidenceRoot manifests runId producer incidentId releaseRef critical draw)
        manifests ↔ ObjectRefsPresent critical manifests := by
  constructor
  · intro documented
    by_contra absent
    obtain ⟨key, failed⟩ := addManifests_keyError_iff.mpr absent
    exact documented.only _ (build_error_iff.mpr failed)
  · intro present
    constructor
    · rintro rfl
      simp only [build_error_iff]
      exact strict_fails_iff present
    · rintro rfl
      simp only [build_error_iff]
      exact lenient_fails_iff present
    · rintro rfl
      rcases addManifests_skips [] manifests with ⟨key, failed⟩ | same
      · exact (documented_of_present present failed).elim
      · simp only [buildEvidenceRoot, same]
    · intro error failed
      exact documented_of_present present (build_error_iff.mp failed)

end

def unreferenced : Manifest := { artifactId := some "artifact-1", sha256 := some "00", objectRef := none }

/-- A manifest without an object reference is a key error in either mode. -/
theorem unreferenced_manifest_raises :
    letI := Runtime.transparent
    let build := fun critical manifests =>
      buildEvidenceRoot manifests "run-1" "evidence_root" none none critical ⟨0, 0⟩
    build true [some unreferenced] = .error (.keyError "object_ref") ∧
      ¬ FailsAsDocumented true (build true) [some unreferenced] ∧
      ¬ FailsAsDocumented false (build false) [some unreferenced] := by
  let _ := Runtime.transparent
  have failed (critical : Bool) :
      buildEvidenceRoot [some unreferenced] "run-1" "evidence_root" none none critical ⟨0, 0⟩ =
        .error (.keyError "object_ref") := rfl
  refine ⟨failed true, ?_, ?_⟩
  · exact fun documented => documented.only _ (failed true)
  · exact fun documented => documented.only _ (failed false)

end ArgosCore.Proofs
