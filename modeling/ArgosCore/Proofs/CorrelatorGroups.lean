import ArgosCore.Foundations.GapGroups
import ArgosCore.Proofs.CorrelatorCollapse

/-! Which events share a group: those of one asset that are linked by gaps of at most the
window. -/

namespace ArgosCore.Proofs
open Relation

theorem splitGaps_eq_cut (window : Int) (timed : List (Int × SecurityEvent)) (current : List SecurityEvent) (last : Option Int) :
    splitGaps window timed current last = Gaps.cut window timed current last := by
  induction timed generalizing current last with
  | nil => simp [splitGaps, Gaps.cut]
  | cons event later ih =>
    rw [splitGaps, Gaps.cut]
    simp only [ih]

abbrev ofAsset (events : List SecurityEvent) (asset : String) : List SecurityEvent :=
  ByKey.members (fun event => some event.assetKey) events asset

theorem mem_ofAsset {events : List SecurityEvent} {asset : String} {event : SecurityEvent} :
    event ∈ ofAsset events asset ↔ event ∈ events ∧ event.assetKey = asset := by
  simp [ByKey.members, List.mem_filter]

def assetRuns (window : Int) (events : List SecurityEvent) : List (List SecurityEvent) :=
  Gaps.runs (fun event => timeOf event.observedAt) window (oldestFirst events)

/-- The specification of `group_by_asset_and_window`. -/
theorem groupByAssetAndWindow_ok_iff {events : List SecurityEvent} {window : Int} {groups : List (List SecurityEvent)} :
    groupByAssetAndWindow events window = .ok groups ↔
      (∀ asset, Comparable (ofAsset events asset)) ∧
        Gaps.grouped SecurityEvent.assetKey (fun event => timeOf event.observedAt) window events = groups := by
  have everywhere : (∀ asset ∈ Buckets.keys SecurityEvent.assetKey events,
      Comparable (Buckets.ofKey SecurityEvent.assetKey events asset)) ↔ ∀ asset, Comparable (ofAsset events asset) := by
    simp only [ofAsset, ByKey.members_some]
    refine ⟨fun comparable asset => ?_, fun comparable asset _ => comparable asset⟩
    by_cases known : asset ∈ Buckets.keys SecurityEvent.assetKey events
    · exact comparable asset known
    · rw [Buckets.ofKey_eq_nil known]
      exact .nil
  simp only [groupByAssetAndWindow, ByKey.groupBy_some, splitGaps_eq_cut, ← everywhere]
  exact Gaps.mapM_buckets_ok_iff fun _ _ => sortByTime_ok_iff

theorem groupByAssetAndWindow_ok {events : List SecurityEvent} (comparable : ∀ asset, Comparable (ofAsset events asset))
    (window : Int) :
    groupByAssetAndWindow events window =
      .ok (Gaps.grouped SecurityEvent.assetKey (fun event => timeOf event.observedAt) window events) :=
  groupByAssetAndWindow_ok_iff.mpr ⟨comparable, rfl⟩

theorem group_ok {events : List SecurityEvent} (comparable : ∀ asset, Comparable (ofAsset events asset)) (window : Int) :
    ∃ groups, groupByAssetAndWindow events window = .ok groups ∧
      ∀ group, group ∈ groups ↔ ∃ asset, group ∈ assetRuns window (ofAsset events asset) := by
  refine ⟨_, groupByAssetAndWindow_ok comparable window, ?_⟩
  intro group
  simp only [Gaps.mem_grouped, ofAsset, ByKey.members_some]
  rfl

theorem group_error {events : List SecurityEvent} {asset : String} (incomparable : ¬ Comparable (ofAsset events asset))
    (window : Int) : ∃ error, groupByAssetAndWindow events window = .error error := by
  cases done : groupByAssetAndWindow events window with
  | error error => exact ⟨error, rfl⟩
  | ok groups => exact absurd ((groupByAssetAndWindow_ok_iff.mp done).1 asset) incomparable

structure Beside (events : List SecurityEvent) (window : Int) (left right : SecurityEvent) : Prop where
  leftMem : left ∈ events
  rightMem : right ∈ events
  sameAsset : left.assetKey = right.assetKey
  near : timeOf left.observedAt - timeOf right.observedAt ≤ window ∧
    timeOf right.observedAt - timeOf left.observedAt ≤ window

theorem oldestFirst_ordered (events : List SecurityEvent) :
    Gaps.Ordered (fun event => timeOf event.observedAt) (oldestFirst events) := ByKey.pairwise_sortedOn ..

theorem linked_iff_beside {events : List SecurityEvent} {window : Int} {asset : String} {left right : SecurityEvent}
    (inside : left ∈ ofAsset events asset) :
    ReflTransGen (Gaps.Step (fun event => timeOf event.observedAt) window (oldestFirst (ofAsset events asset))) left right ↔
      ReflTransGen (Beside events window) left right := by
  constructor
  · apply ReflTransGen.mono
    intro before after step
    have first := mem_ofAsset.mp (ByKey.mem_sortedOn.mp step.leftMem)
    have second := mem_ofAsset.mp (ByKey.mem_sortedOn.mp step.rightMem)
    exact ⟨first.1, second.1, first.2.trans second.2.symm, step.near⟩
  · intro linked
    -- every event on the way is one of the asset
    suffices both : right ∈ ofAsset events asset ∧ ReflTransGen (Gaps.Step (fun event => timeOf event.observedAt) window
        (oldestFirst (ofAsset events asset))) left right from both.2
    induction linked with
    | refl => exact ⟨inside, .refl⟩
    | tail _ beside ih =>
      obtain ⟨before, reached⟩ := ih
      have after := mem_ofAsset.mpr ⟨beside.rightMem, beside.sameAsset.symm.trans (mem_ofAsset.mp before).2⟩
      exact ⟨after, reached.tail ⟨ByKey.mem_sortedOn.mpr before, ByKey.mem_sortedOn.mpr after, beside.near⟩⟩

theorem mem_group_iff {events group : List SecurityEvent} {window : Int} {asset : String}
    (found : group ∈ assetRuns window (ofAsset events asset)) {left right : SecurityEvent} (inside : left ∈ group) :
    right ∈ group ↔ ReflTransGen (Beside events window) left right := by
  have among : left ∈ ofAsset events asset := ByKey.mem_sortedOn.mp (Gaps.mem_of_mem_run found inside)
  rw [← linked_iff_beside among]
  exact Gaps.mem_run_iff_linked (oldestFirst_ordered _) found inside

theorem exists_group {events : List SecurityEvent} {event : SecurityEvent} (inside : event ∈ events) (window : Int) :
    ∃ group ∈ assetRuns window (ofAsset events event.assetKey), event ∈ group :=
  Gaps.exists_run (ByKey.mem_sortedOn.mpr (mem_ofAsset.mpr ⟨inside, rfl⟩))

end ArgosCore.Proofs
