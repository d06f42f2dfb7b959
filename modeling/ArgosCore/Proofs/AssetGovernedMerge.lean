import ArgosCore.Proofs.AssetArrivalOrder

/-! The merge under a ranking of authority, when every fragment is of a source of its own:
then each source speaks once about a field, and its last word is all that it says. -/

namespace ArgosCore.Proofs
open Testimony

def Says (fragment : AssetFragment) (field : String) (value : Scalar) : Prop :=
  ∃ spoken, fragment.fields.lookup field = some spoken ∧ spoken.number = value.number

def Provides (fragment : AssetFragment) (field : String) : Prop := fragment.fields.lookup field ≠ none

def ProvidersAgree (fragments : List AssetFragment) (field : String) : Prop :=
  ∀ one ∈ fragments, ∀ other ∈ fragments, ∀ value value', one.fields.lookup field = some value →
    other.fields.lookup field = some value' → value.number = value'.number

def Highest (ranking : Dict Int) (fragments : List AssetFragment) (field : String) (provider : AssetFragment) : Prop :=
  ∀ other ∈ fragments, Provides other field → ∃ rank rest,
    ranking.lookup provider.source = some rank ∧ ranking.lookup other.source = some rest ∧ rest ≤ rank

/-- All providers say the value, or all are ranked and those of the highest rank say it. -/
def Warranted (ranking : Dict Int) (fragments : List AssetFragment) (field : String) (value : Scalar) : Prop :=
  (∃ provider ∈ fragments, Provides provider field) ∧
    ((∀ provider ∈ fragments, Provides provider field → Says provider field value) ∨
      (∀ provider ∈ fragments, Provides provider field → ranking.lookup provider.source ≠ none) ∧
        ∀ provider ∈ fragments, Provides provider field → Highest ranking fragments field provider →
          Says provider field value)

structure GovernedMerge (ranking : Dict Int) (fragments : List AssetFragment) (merged : Dict Scalar)
    (conflicts : List FieldConflict) : Prop where
  holds : ∀ field ∈ mergeableFields, ∀ value : Scalar,
    (merged.lookup field).map Scalar.number = some value.number ↔ Warranted ranking fragments field value
  omits : ∀ field ∈ mergeableFields, (∃ provider ∈ fragments, Provides provider field) →
    (merged.lookup field = none ↔
      ¬ ProvidersAgree fragments field ∧ ∀ value, ¬ Warranted ranking fragments field value)
  lists : ∀ field ∈ mergeableFields, field ∈ conflicts.map FieldConflict.field ↔ ¬ ProvidersAgree fragments field
  nothingElse : ∀ field, field ∉ mergeableFields →
    merged.lookup field = none ∧ field ∉ conflicts.map FieldConflict.field

section
variable {ranking : Dict Int} {fragments : List AssetFragment} {field : String}

theorem oneVoice_statements (distinct : (fragments.map AssetFragment.source).Nodup) :
    OneVoice (statements field fragments) fun _ => True := by
  intro source _ one other first second
  obtain ⟨left, inside, value, found, same⟩ := mem_statements.mp first
  obtain ⟨right, member, value', known, also⟩ := mem_statements.mp second
  obtain ⟨rfl, rfl⟩ := Prod.mk.inj same
  obtain ⟨source, rfl⟩ := Prod.mk.inj also
  obtain rfl := List.inj_on_of_nodup_map distinct member inside source
  rw [Option.some.inj (found.symm.trans known)]

theorem providersAgree_iff : ProvidersAgree fragments field ↔ ¬ Disputed (statements field fragments) := by
  rw [disputed_statements_iff, ProvidersAgree]
  push Not
  exact Iff.rfl

theorem forall_statements {holds : String × Scalar → Prop} :
    (∀ vote ∈ statements field fragments, holds vote) ↔ ∀ provider ∈ fragments, ∀ value,
      provider.fields.lookup field = some value → holds (provider.source, value.number) := by
  constructor
  · intro all provider inside value found
    exact all _ (mem_statements.mpr ⟨provider, inside, value, found, rfl⟩)
  · intro all vote member
    obtain ⟨provider, inside, value, found, rfl⟩ := mem_statements.mp member
    exact all provider inside value found

theorem forall_speakers {holds : String → Prop} :
    (∀ source ∈ (statements field fragments).map Prod.fst, holds source) ↔
      ∀ provider ∈ fragments, Provides provider field → holds provider.source := by
  rw [List.forall_mem_map, forall_statements]
  simp only [Provides, Option.ne_none_iff_exists', forall_exists_index]

theorem says_iff {provider : AssetFragment} {value : Scalar} :
    (Provides provider field → Says provider field value) ↔
      ∀ spoken, provider.fields.lookup field = some spoken → spoken.number = value.number := by
  simp only [Provides, Says, Option.ne_none_iff_exists']
  constructor
  · intro speaks spoken found
    obtain ⟨also, again, same⟩ := speaks ⟨spoken, found⟩
    rwa [Option.some.inj (found.symm.trans again)]
  · intro all ⟨spoken, found⟩
    exact ⟨spoken, found, all spoken found⟩

theorem ranked_iff : Ranked (authority ranking) (statements field fragments) ↔
    ∀ provider ∈ fragments, Provides provider field → ranking.lookup provider.source ≠ none := by
  rw [Ranked, forall_speakers]
  simp only [authority, Option.isSome_iff_ne_none]

theorem top_iff (ranked : Ranked (authority ranking) (statements field fragments)) {provider : AssetFragment}
    (inside : provider ∈ fragments) (provides : Provides provider field) :
    Testimony.Top (authority ranking) (statements field fragments) provider.source ↔ Highest ranking fragments field provider := by
  have known := ranked_iff.mp ranked
  obtain ⟨rank, found⟩ := Option.ne_none_iff_exists'.mp (known provider inside provides)
  rw [Testimony.Top, forall_speakers, Highest]
  refine forall₃_congr fun other member gives => ?_
  obtain ⟨rest, also⟩ := Option.ne_none_iff_exists'.mp (known other member gives)
  simp [authority, found, also]

theorem warranted_iff (value : Scalar) :
    Warranted ranking fragments field value ↔
      Decides (authority ranking) (statements field fragments) value.number := by
  have spoken : (∃ provider ∈ fragments, Provides provider field) ↔ statements field fragments ≠ [] := by
    rw [← not_iff_not, not_not, ← List.map_eq_nil_iff (f := Prod.fst), List.eq_nil_iff_forall_not_mem]
    exact (not_exists.trans (by simp)).trans forall_speakers.symm
  rw [Warranted, Decides, spoken, forall_statements]
  refine and_congr_right fun _ => or_congr ?_ ?_
  · exact forall₂_congr fun provider _ => says_iff
  · rw [← ranked_iff, forall_statements]
    refine and_congr_right fun ranked => forall₂_congr fun provider inside => ?_
    constructor
    · intro speaks spoken found top
      have provides : Provides provider field := Option.ne_none_iff_exists'.mpr ⟨spoken, found⟩
      exact says_iff.mp (fun _ => speaks provides ((top_iff ranked inside provides).mp top)) spoken found
    · intro all provides highest
      exact says_iff.mpr (fun spoken found => all spoken found ((top_iff ranked inside provides).mpr highest)) provides

theorem decides_votes_iff (distinct : (fragments.map AssetFragment.source).Nodup) (value : Scalar) :
    Decides (authority ranking) (votes field fragments) value ↔ Decides (authority ranking) (statements field fragments) value :=
  (hearing_votes field fragments).decides_iff_of_settled (.inl (oneVoice_statements distinct)) value

theorem disputed_votes_iff (distinct : (fragments.map AssetFragment.source).Nodup) :
    Disputed (votes field fragments) ↔ Disputed (statements field fragments) := by
  have settled : Settled (authority []) (statements field fragments) := .inl (oneVoice_statements distinct)
  exact (hearing_votes field fragments).disputed_iff_of_settled settled

theorem warranted_of_agree (agree : ProvidersAgree fragments field) {provider : AssetFragment} (inside : provider ∈ fragments)
    {value : Scalar} (found : provider.fields.lookup field = some value) : Warranted ranking fragments field value := by
  refine ⟨⟨provider, inside, Option.ne_none_iff_exists'.mpr ⟨value, found⟩⟩, .inl ?_⟩
  intro other member
  exact says_iff.mpr fun spoken known => agree other member provider inside spoken value known found

end

theorem reconcile_governed {fragments : List AssetFragment} (nonempty : fragments ≠ []) {assetId : String}
    (oneAsset : ∀ fragment ∈ fragments, fragment.assetId = assetId)
    (distinct : (fragments.map AssetFragment.source).Nodup) (ranking : Dict Int) (draws : String → FieldDraws) :
    ∃ merged conflicts, reconcile fragments (some ranking) draws = .ok (merged, conflicts) ∧
      GovernedMerge ranking fragments merged conflicts := by
  obtain ⟨merged, conflicts, done⟩ := reconcile_total nonempty oneAsset (some ranking) draws
  obtain ⟨_, reconciled⟩ := reconcile_ok done
  have holds : ∀ field ∈ mergeableFields, ∀ value : Scalar,
      (merged.lookup field).map Scalar.number = some value.number ↔ Warranted ranking fragments field value := by
    intro field mergeable value
    rw [reconciled.decides_iff mergeable, decides_votes_iff distinct, warranted_iff]
  refine ⟨merged, conflicts, done, holds, ?_, ?_, ?_⟩
  · intro field mergeable ⟨provider, inside, provides⟩
    obtain ⟨value, found⟩ := Option.ne_none_iff_exists'.mp provides
    constructor
    · intro omitted
      have unwarranted (value : Scalar) : ¬ Warranted ranking fragments field value := by
        rw [← holds field mergeable, omitted]
        simp
      exact ⟨fun agree => unwarranted value (warranted_of_agree agree inside found), unwarranted⟩
    · intro ⟨_, undecided⟩
      by_contra held
      obtain ⟨spoken, known⟩ := Option.ne_none_iff_exists'.mp held
      exact undecided spoken ((holds field mergeable spoken).mp (by rw [known, Option.map_some]))
  · intro field mergeable
    rw [reconciled.listed_iff, disputed_votes_iff distinct, providersAgree_iff, not_not]
    exact and_iff_right mergeable
  · intro field unmergeable
    refine ⟨reconciled.unmergeable unmergeable, ?_⟩
    rw [reconciled.listed_iff]
    exact fun listed => unmergeable listed.1

private def placed (source space : String) : AssetFragment where
  source := source
  assetId := "a1"
  fields := [("namespace", .str space)]

theorem reconcile_governed_three_sources :
    let fragments := [placed "netbox" "argos-cyber-range", placed "cmam" "default", placed "kubernetes" "default"]
    let ranking := [("cmam", 10), ("netbox", 1), ("kubernetes", 10)]
    fragments ≠ [] ∧ (∀ fragment ∈ fragments, fragment.assetId = "a1") ∧ (fragments.map AssetFragment.source).Nodup ∧
      ∃ merged conflicts, reconcile fragments (some ranking) (fun _ => ⟨⟨0, 0⟩, ⟨0, 0⟩⟩) = .ok (merged, conflicts) ∧
        GovernedMerge ranking fragments merged conflicts := by
  intro fragments ranking
  have nonempty : fragments ≠ [] := by decide
  have oneAsset : ∀ fragment ∈ fragments, fragment.assetId = "a1" := by decide
  have distinct : (fragments.map AssetFragment.source).Nodup := by decide
  exact ⟨nonempty, oneAsset, distinct, reconcile_governed nonempty oneAsset distinct _ _⟩

end ArgosCore.Proofs
