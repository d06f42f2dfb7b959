import ArgosCore.Foundations.Fallible
import ArgosCore.Proofs.AssetMerge

/-! What a snapshot asserts of the fields on which the sources disagree. The merge leaves
out a field that no authority decides; the required fields then get their default. -/

namespace ArgosCore.Proofs
open Testimony

/-- A value that some fragment claims, or none, and none where an authority is missing. -/
structure AssertsOnlyClaims (fragments : List AssetFragment) (result : ReconcileResult) : Prop where
  claimed : ∀ conflict ∈ result.conflicts, ∀ asserted, result.payload.lookup conflict.field = some asserted →
    ∃ fragment ∈ fragments, ∃ value, fragment.fields.lookup conflict.field = some value ∧ value.toJson = asserted
  governed : ∀ conflict ∈ result.conflicts, ∀ resolution, conflict.resolution = some resolution →
    resolution.state = .requiresAuthority → result.payload.lookup conflict.field = none

/-- The ranking does not decide among the last words of the sources. -/
def LeftOpen (authorityRanking : Option (Dict Int)) (fragments : List AssetFragment) (field : String) : Prop :=
  ∃ ranking, authorityRanking = some ranking ∧ Undecided (authority ranking) (votes field fragments)

def snapshotDefaults : Dict Json := [("namespace", .str "unknown"), ("criticality_esp", .str "medium")]

theorem lookup_snapshotPayload {merged : Dict Scalar} (distinct : (merged.map Prod.fst).Nodup) {field : String}
    (mergeable : field ∈ mergeableFields) (assetId : String) :
    (snapshotPayload assetId merged).lookup field =
      ((merged.lookup field).map Scalar.toJson).or (snapshotDefaults.lookup field) := by
  have keys : ((merged.map fun item => (item.1, item.2.toJson)).map Prod.fst).Nodup := by
    rw [List.map_map]
    exact distinct
  have apart : field ≠ "asset_id" := by
    rintro rfl
    exact absurd mergeable (by decide)
  simp only [snapshotPayload, Dict.lookup_claim, Dict.lookup_setAll_of_nodup _ keys, Dict.lookup_map_values,
    List.lookup_cons, List.lookup_nil, beq_false_of_ne apart, Option.or_none, Option.or_assoc, snapshotDefaults]
  by_cases space : field = "namespace"
  · simp [space]
  · by_cases criticality : field = "criticality_esp" <;> simp [space, criticality, beq_false_of_ne]

theorem snapshotPayload_nodup (assetId : String) (merged : Dict Scalar) :
    ((snapshotPayload assetId merged).map Prod.fst).Nodup :=
  Dict.nodup_claim (Dict.nodup_claim (Dict.nodup_setAll (by simp) _) _ _) _ _

/-- A snapshot is a reconciliation whose missing fields have their default. -/
structure Built (assetId : String) (fragments : List AssetFragment) (authorityRanking : Option (Dict Int))
    (draws : String → FieldDraws) (result : ReconcileResult) (merged : Dict Scalar) : Prop where
  reconciled : Reconciled assetId fragments authorityRanking draws merged result.conflicts
  payload : ∀ field ∈ mergeableFields, result.payload.lookup field =
    ((merged.lookup field).map Scalar.toJson).or (snapshotDefaults.lookup field)

theorem mem_said_of_latest {field source : String} {value : Scalar} {fragments : List AssetFragment}
    (found : (latest field fragments).lookup source = some value) : (source, value) ∈ said field fragments := by
  rcases Dict.mem_of_mem_setAll (Dict.mem_of_lookup found) with spoken | nothing
  · exact spoken
  · cases nothing

section
variable {assetId : String} {fragments : List AssetFragment} {draws : String → FieldDraws} {result : ReconcileResult}
  {merged : Dict Scalar}

theorem Built.contested_cases {authorityRanking : Option (Dict Int)}
    (built : Built assetId fragments authorityRanking draws result merged) {field : String}
    (mergeable : field ∈ mergeableFields) (contested : Contested (latest field fragments)) :
    (∃ source value, (source, value) ∈ said field fragments ∧ result.payload.lookup field = some value.toJson ∧
        ¬ LeftOpen authorityRanking fragments field ∧ ∀ ranking, authorityRanking = some ranking →
          (resolveField assetId field (latest field fragments) ranking (draws field)).state ≠ .requiresAuthority) ∨
      (LeftOpen authorityRanking fragments field ∧ result.payload.lookup field = snapshotDefaults.lookup field ∧
        ∀ ranking, authorityRanking = some ranking →
          (resolveField assetId field (latest field fragments) ranking (draws field)).state = .requiresAuthority) := by
  have held := built.reconciled.lookup_merged field
  rw [if_pos mergeable, if_pos contested] at held
  have nonempty := ne_nil_of_contested contested
  cases authorityRanking with
  | none =>
    left
    obtain ⟨⟨source, last⟩, final⟩ := Option.ne_none_iff_exists'.mp
      (List.getLast?_eq_none_iff.not.mpr (latest_eq_nil_iff.not.mp nonempty))
    refine ⟨source, last, List.mem_of_getLast? final, ?_, ?_, ?_⟩
    · simp [built.payload field mergeable, held, settledValue, final]
    · simp [LeftOpen]
    · simp
  | some ranking =>
    rcases resolveField_outcome assetId field ranking (draws field) (latest_nodup field fragments) nonempty with
      ⟨source, value, found, wins, governed, decides⟩ | ⟨lost, pending, divided⟩
    · left
      refine ⟨source, value, mem_said_of_latest found, ?_, ?_, ?_⟩
      · simp [built.payload field mergeable, held, settledValue, wins, found]
      · rintro ⟨other, given, undecided⟩
        obtain rfl := Option.some.inj given
        exact (undecided_iff.mp undecided).2 _ decides
      · simpa using governed
    · right
      refine ⟨⟨ranking, rfl, undecided_iff.mpr ⟨(contested_iff _).mp contested, divided⟩⟩, ?_, ?_⟩
      · simp [built.payload field mergeable, held, settledValue, lost]
      · simpa using pending

end

section
variable [Runtime]

theorem lookup_buildEnvelope {field : String} (mergeable : field ∈ mergeableFields) (context : EnvelopeContext)
    (payload : Json.Object) (messageId : String) (draw : Draw) :
    (buildEnvelope context payload messageId draw).lookup field = none := by
  simp only [mergeableFields, List.mem_cons, List.not_mem_nil, or_false] at mergeable
  rw [buildEnvelope, List.lookup_append]
  rcases mergeable with rfl | rfl | rfl | rfl | rfl <;> cases context.traceId.filter (· ≠ "") <;> rfl

theorem build_ok {validate : Json.Object → List String} {context : EnvelopeContext} {assetId : String}
    {fragments : List AssetFragment} {authorityRanking : Option (Dict Int)} {draws : String → FieldDraws} {draw : Draw}
    {result : ReconcileResult}
    (built : buildAssetSnapshotPayload validate context assetId fragments authorityRanking draws draw = .ok result) :
    ∃ owner merged, Built owner fragments authorityRanking draws result merged := by
  simp only [buildAssetSnapshotPayload, Fallible.bind_ok_iff, Fallible.guarded_ok_iff] at built
  obtain ⟨⟨merged, conflicts⟩, done, _, rfl⟩ := built
  obtain ⟨owner, reconciled⟩ := reconcile_ok done
  refine ⟨owner, merged, reconciled, ?_⟩
  intro field mergeable
  simp only [Dict.lookup_setAll_of_nodup _ (snapshotPayload_nodup assetId merged), lookup_buildEnvelope mergeable,
    lookup_snapshotPayload reconciled.distinct mergeable, Option.or_none]

/-- A default is asserted exactly for a required field that is left open. -/
theorem asserts_only_claims_iff {validate : Json.Object → List String} {context : EnvelopeContext} {assetId : String}
    {fragments : List AssetFragment} {authorityRanking : Option (Dict Int)} {draws : String → FieldDraws} {draw : Draw}
    {result : ReconcileResult}
    (returned : buildAssetSnapshotPayload validate context assetId fragments authorityRanking draws draw = .ok result) :
    AssertsOnlyClaims fragments result ↔ ¬ LeftOpen authorityRanking fragments "namespace" ∧
      ¬ LeftOpen authorityRanking fragments "criticality_esp" := by
  obtain ⟨owner, merged, built⟩ := build_ok returned
  constructor
  · intro asserts
    have closed (field : String) {value : Json} (mergeable : field ∈ mergeableFields)
        (required : snapshotDefaults.lookup field = some value) : ¬ LeftOpen authorityRanking fragments field := by
      intro pending
      obtain ⟨ranking, given, undecided⟩ := id pending
      have contested : Contested (latest field fragments) := (contested_iff _).mpr undecided.1
      have member := (built.reconciled.mem_conflicts _).mpr ⟨field, mergeable, contested, rfl⟩
      rcases built.contested_cases mergeable contested with ⟨_, _, _, _, decided, _⟩ | ⟨_, held, unresolved⟩
      · exact decided pending
      · have absent := asserts.governed _ member _ (by rw [conflictOf, given]; rfl) (unresolved ranking given)
        cases (required.symm.trans held.symm).trans absent
    exact ⟨closed "namespace" (by decide) rfl, closed "criticality_esp" (by decide) rfl⟩
  · rintro ⟨space, criticality⟩
    have undefaulted {field : String} (pending : LeftOpen authorityRanking fragments field) :
        snapshotDefaults.lookup field = none := by
      have first : field ≠ "namespace" := fun same => space (same ▸ pending)
      have second : field ≠ "criticality_esp" := fun same => criticality (same ▸ pending)
      simp [snapshotDefaults, first, second]
    constructor
    · intro conflict member asserted found
      obtain ⟨field, mergeable, contested, rfl⟩ := (built.reconciled.mem_conflicts conflict).mp member
      rcases built.contested_cases mergeable contested with ⟨source, value, spoken, held, _⟩ | ⟨pending, held, _⟩
      · obtain ⟨fragment, inside, _, claims⟩ := mem_said.mp spoken
        exact ⟨fragment, inside, value, claims, Option.some.inj (held.symm.trans found)⟩
      · cases (found.symm.trans held).trans (undefaulted pending)
    · intro conflict member resolution resolved unresolved
      obtain ⟨field, mergeable, contested, rfl⟩ := (built.reconciled.mem_conflicts conflict).mp member
      obtain ⟨ranking, given, rfl⟩ := Option.map_eq_some_iff.mp resolved
      rcases built.contested_cases mergeable contested with ⟨_, _, _, _, _, governed⟩ | ⟨pending, held, _⟩
      · exact absurd unresolved (governed ranking given)
      · exact held.trans (undefaulted pending)

end

private def zoneA : AssetFragment where
  source := "cmam-a"
  assetId := "a1"
  fields := [("namespace", .str "zone-a")]

private def zoneB : AssetFragment where
  source := "cmam-b"
  assetId := "a1"
  fields := [("namespace", .str "zone-b")]

private def reconciler : EnvelopeContext where
  producer := "asset-reconciler"
  runId := "run-1"

private def midnight (_field : String) : FieldDraws := ⟨⟨0, 0⟩, ⟨0, 0⟩⟩

theorem asserts_only_claims_ranked :
    letI := Runtime.transparent
    ∃ result, buildAssetSnapshotPayload (fun _ => []) reconciler "a1" [zoneA, zoneB]
        (some [("cmam-a", 10), ("cmam-b", 1)]) midnight ⟨0, 0⟩ = .ok result ∧
      (AssertsOnlyClaims [zoneA, zoneB] result ↔
        ¬ LeftOpen (some [("cmam-a", 10), ("cmam-b", 1)]) [zoneA, zoneB] "namespace" ∧
          ¬ LeftOpen (some [("cmam-a", 10), ("cmam-b", 1)]) [zoneA, zoneB] "criticality_esp") := by
  let _ := Runtime.transparent
  have built : ∃ result, buildAssetSnapshotPayload (fun _ => []) reconciler "a1" [zoneA, zoneB]
      (some [("cmam-a", 10), ("cmam-b", 1)]) midnight ⟨0, 0⟩ = .ok result := ⟨_, rfl⟩
  obtain ⟨result, returned⟩ := built
  exact ⟨result, returned, asserts_only_claims_iff returned⟩

/-- Two sources of one rank: nobody said "unknown". -/
theorem default_namespace_asserted :
    letI := Runtime.transparent
    ∃ result, buildAssetSnapshotPayload (fun _ => []) reconciler "a1" [zoneA, zoneB]
        (some [("cmam-a", 10), ("cmam-b", 10)]) midnight ⟨0, 0⟩ = .ok result ∧
      result.payload.lookup "namespace" = some (.str "unknown") ∧ ¬ AssertsOnlyClaims [zoneA, zoneB] result := by
  let _ := Runtime.transparent
  refine ⟨_, rfl, rfl, ?_⟩
  intro asserts
  obtain ⟨fragment, member, value, claims, same⟩ := asserts.claimed _ List.mem_cons_self _ rfl
  simp only [List.mem_cons, List.not_mem_nil, or_false] at member
  rcases member with rfl | rfl <;> obtain rfl := Option.some.inj claims <;> simp [Scalar.toJson] at same

end ArgosCore.Proofs
