import ArgosCore.Proofs.AssetGovernedMerge
import ArgosCore.Proofs.AssetSnapshot

/-! Drift between two governed snapshots. What is reported of a field are the values that the
fragments of either side warrant, or the default; fragments that only arrive in another order
are no drift. -/

namespace ArgosCore.Proofs

/-- What a reader of a snapshot takes a field for that no fragment settles. -/
def assumed (field : String) : Scalar :=
  if field = "namespace" then .str "unknown" else if field = "criticality_esp" then .str "medium" else .null

def Asserts (ranking : Dict Int) (fragments : List AssetFragment) (field : String) (value : Scalar) : Prop :=
  Warranted ranking fragments field value ∨
    (∀ other, ¬ Warranted ranking fragments field other) ∧ (assumed field).number = value.number

theorem toJson_equals_iff {one other : Scalar} : one.toJson.equals other.toJson = true ↔ one.number = other.number := by
  cases one <;> cases other <;> simp [Scalar.toJson, Scalar.number, Json.equals, Json.numeric, Json.sortKeys]

section
variable {assetId : String} {ranking : Dict Int} {fragments : List AssetFragment} {draws : String → FieldDraws}
  {result : ReconcileResult} {merged : Dict Scalar} {field : String}

theorem Reconciled.warranted_iff (reconciled : Reconciled assetId fragments (some ranking) draws merged result.conflicts)
    (distinct : (fragments.map AssetFragment.source).Nodup) (mergeable : field ∈ mergeableFields) (value : Scalar) :
    (merged.lookup field).map Scalar.number = some value.number ↔ Warranted ranking fragments field value := by
  rw [reconciled.decides_iff mergeable, decides_votes_iff distinct, Proofs.warranted_iff]

theorem Built.asserts_iff (built : Built assetId fragments (some ranking) draws result merged)
    (distinct : (fragments.map AssetFragment.source).Nodup) (mergeable : field ∈ mergeableFields) (value : Scalar) :
    Asserts ranking fragments field value ↔ ((merged.lookup field).getD (assumed field)).number = value.number := by
  have warranted := built.reconciled.warranted_iff distinct mergeable
  simp only [Asserts, ← warranted]
  cases merged.lookup field with
  | none => simp
  | some held =>
    simp only [Option.map_some, Option.some.injEq, Option.getD_some, or_iff_left_iff_imp, and_imp]
    exact fun lacks => absurd rfl (lacks held)

theorem Built.get_payload (built : Built assetId fragments (some ranking) draws result merged)
    (mergeable : field ∈ mergeableFields) :
    Json.get result.payload field = ((merged.lookup field).getD (assumed field)).toJson := by
  rw [Json.get, Json.getOr, built.payload field mergeable]
  cases merged.lookup field with
  | some held => rfl
  | none =>
    simp only [mergeableFields, List.mem_cons, List.not_mem_nil, or_false] at mergeable
    rcases mergeable with rfl | rfl | rfl | rfl | rfl <;> rfl

end

structure FaithfulDrift (ranking otherRanking : Dict Int) (designed built : List AssetFragment)
    (drift : List (String × Json × Json)) : Prop where
  reported : ∀ entry ∈ drift, entry.1 ∈ mergeableFields ∧ ∃ value value' : Scalar,
    entry.2 = (value.toJson, value'.toJson) ∧ Asserts ranking designed entry.1 value ∧
      Asserts otherRanking built entry.1 value' ∧ value.number ≠ value'.number
  unreported : ∀ field ∈ mergeableFields, field ∉ drift.map Prod.fst →
    ∀ value, Asserts ranking designed field value ↔ Asserts otherRanking built field value
  once : (drift.map Prod.fst).Nodup
  /-- The same fragments in another order are no drift. -/
  arrival : ranking = otherRanking → designed.Perm built → drift = []

theorem detectDrift_fields (asDesigned asBuilt : Json.Object) :
    (detectDrift asDesigned asBuilt).map Prod.fst =
      mergeableFields.filter fun field => !(Json.get asDesigned field).equals (Json.get asBuilt field) := by
  rw [detectDrift, List.map_filterMap]
  induction mergeableFields with
  | nil => rfl
  | cons field fields ih =>
    cases same : (Json.get asDesigned field).equals (Json.get asBuilt field) <;> simp [same, ih]

theorem mem_detectDrift {asDesigned asBuilt : Json.Object} {entry : String × Json × Json} :
    entry ∈ detectDrift asDesigned asBuilt ↔ entry.1 ∈ mergeableFields ∧
      entry.2 = (Json.get asDesigned entry.1, Json.get asBuilt entry.1) ∧
        (Json.get asDesigned entry.1).equals (Json.get asBuilt entry.1) = false := by
  obtain ⟨field, values⟩ := entry
  rw [detectDrift, List.mem_filterMap]
  constructor
  · rintro ⟨other, mergeable, found⟩
    cases same : (Json.get asDesigned other).equals (Json.get asBuilt other) with
    | true => simp [same] at found
    | false =>
      simp only [same, Bool.false_eq_true, if_false, Option.some.injEq, Prod.mk.injEq] at found
      obtain ⟨rfl, rfl⟩ := found
      exact ⟨mergeable, rfl, same⟩
  · rintro ⟨mergeable, same, differ⟩
    dsimp only at same differ
    exact ⟨field, mergeable, by simp [differ, same]⟩

theorem warranted_congr {ranking : Dict Int} {designed built : List AssetFragment} (same : designed.Perm built)
    (field : String) (value : Scalar) :
    Warranted ranking designed field value ↔ Warranted ranking built field value := by
  simp only [Warranted, Highest, same.mem_iff]

section
variable [Runtime]

theorem governed_drift {validate validate' : Json.Object → List String} {context context' : EnvelopeContext}
    {assetId assetId' : String} {ranking ranking' : Dict Int} {designed built : List AssetFragment}
    {draws draws' : String → FieldDraws} {draw draw' : Draw} {asDesigned asBuilt : ReconcileResult}
    (distinct : (designed.map AssetFragment.source).Nodup) (distinct' : (built.map AssetFragment.source).Nodup)
    (first : buildAssetSnapshotPayload validate context assetId designed (some ranking) draws draw = .ok asDesigned)
    (second : buildAssetSnapshotPayload validate' context' assetId' built (some ranking') draws' draw' = .ok asBuilt) :
    FaithfulDrift ranking ranking' designed built (detectDrift asDesigned.payload asBuilt.payload) := by
  obtain ⟨_, merged, before⟩ := build_ok first
  obtain ⟨_, merged', after⟩ := build_ok second
  have unreported : ∀ field ∈ mergeableFields,
      field ∉ (detectDrift asDesigned.payload asBuilt.payload).map Prod.fst ↔
        ∀ value, Asserts ranking designed field value ↔ Asserts ranking' built field value := by
    intro field mergeable
    simp only [before.asserts_iff distinct mergeable, after.asserts_iff distinct' mergeable, detectDrift_fields,
      List.mem_filter, mergeable, true_and, before.get_payload mergeable, after.get_payload mergeable,
      Bool.not_eq_true', Bool.not_eq_false, toJson_equals_iff]
    constructor
    · intro same value
      rw [same]
    · exact fun alike => ((alike _).mp rfl).symm
  constructor
  · intro entry inside
    obtain ⟨mergeable, values, differ⟩ := mem_detectDrift.mp inside
    rw [before.get_payload mergeable, after.get_payload mergeable] at values differ
    refine ⟨mergeable, _, _, values, (before.asserts_iff distinct mergeable _).mpr rfl,
      (after.asserts_iff distinct' mergeable _).mpr rfl, fun same => ?_⟩
    rw [toJson_equals_iff.mpr same] at differ
    cases differ
  · exact fun field mergeable => (unreported field mergeable).mp
  · rw [detectDrift_fields]
    exact List.Nodup.filter _ (by decide)
  · rintro rfl perm
    rw [← List.map_eq_nil_iff (f := Prod.fst), List.eq_nil_iff_forall_not_mem]
    intro field inside
    have mergeable : field ∈ mergeableFields := by
      rw [detectDrift_fields] at inside
      exact List.mem_of_mem_filter inside
    refine (unreported field mergeable).mpr (fun value => ?_) inside
    simp only [Asserts, warranted_congr perm]

end

private def deployed (source space : String) : AssetFragment where
  source := source
  assetId := "a1"
  fields := [("namespace", .str space)]

private def inventory : EnvelopeContext where
  producer := "asset-reconciler"
  runId := "run-1"

private def midday (_field : String) : FieldDraws := ⟨⟨0, 0⟩, ⟨0, 0⟩⟩

/-- The workload may run in a namespace that the inventory does not plan for it. -/
theorem governed_drift_moved :
    letI := Runtime.transparent
    let ranking := [("cmam", 10), ("netbox", 1), ("kubernetes", 10)]
    let designed := [deployed "netbox" "default", deployed "cmam" "prod"]
    let built := [deployed "kubernetes" "default"]
    ∃ asDesigned asBuilt,
      buildAssetSnapshotPayload (fun _ => []) inventory "a1" designed (some ranking) midday ⟨0, 0⟩ = .ok asDesigned ∧
      buildAssetSnapshotPayload (fun _ => []) inventory "a1" built (some ranking) midday ⟨0, 0⟩ = .ok asBuilt ∧
      FaithfulDrift ranking ranking designed built (detectDrift asDesigned.payload asBuilt.payload) := by
  let _ := Runtime.transparent
  intro ranking designed built
  have first : ∃ result, buildAssetSnapshotPayload (fun _ => []) inventory "a1" designed (some ranking) midday ⟨0, 0⟩ =
      .ok result := ⟨_, rfl⟩
  have second : ∃ result, buildAssetSnapshotPayload (fun _ => []) inventory "a1" built (some ranking) midday ⟨0, 0⟩ =
      .ok result := ⟨_, rfl⟩
  obtain ⟨asDesigned, returned⟩ := first
  obtain ⟨asBuilt, also⟩ := second
  exact ⟨asDesigned, asBuilt, returned, also, governed_drift (by decide) (by decide) returned also⟩

end ArgosCore.Proofs
