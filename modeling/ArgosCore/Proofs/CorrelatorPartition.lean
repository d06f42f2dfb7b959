import ArgosCore.Proofs.CorrelatorGroups

/-! The groups are the partition of the events by asset and by gaps wider than the window:
nothing is lost or repeated where the loop closes a group, and only events of one time
depend on the order in which the events came. -/

namespace ArgosCore.Proofs
open Relation

/-- Every event in one group, a group of one asset and without a gap, and such a gap between
any two groups of one asset. -/
structure GapPartition (window : Int) (events : List SecurityEvent) (groups : List (List SecurityEvent)) : Prop where
  whole : groups.flatten.Perm events
  filled : [] ∉ groups
  oneAsset : ∀ group ∈ groups, ∀ one ∈ group, ∀ other ∈ group, one.assetKey = other.assetKey
  sorted : ∀ group ∈ groups, group.Pairwise fun before after => timeOf before.observedAt ≤ timeOf after.observedAt
  close : ∀ group ∈ groups, group.IsChain fun before after => timeOf after.observedAt - timeOf before.observedAt ≤ window
  apart : groups.Pairwise fun first second => ∀ before ∈ first, ∀ after ∈ second, before.assetKey = after.assetKey →
    window < timeOf after.observedAt - timeOf before.observedAt

/-- The groups of the one are those of the other, in some order and with events of one time
in some order. -/
def SameGroups (left right : List (List SecurityEvent)) : Prop :=
  ∃ arranged, arranged.Perm right ∧
    List.Forall₂ (ReflTransGen (ByKey.Exchange fun event => timeOf event.observedAt)) left arranged

theorem gapPartition_grouped (window : Int) (events : List SecurityEvent) :
    GapPartition window events
      (Gaps.grouped SecurityEvent.assetKey (fun event => timeOf event.observedAt) window events) where
  whole := Gaps.flatten_grouped_perm ..
  filled none := (Gaps.group_of_mem none).nonempty rfl
  oneAsset _ found := (Gaps.group_of_mem found).oneKey
  sorted _ found := (Gaps.group_of_mem found).ordered
  close _ found := (Gaps.group_of_mem found).near.imp fun _ _ near => of_decide_eq_true near
  apart := Gaps.grouped_apart ..

theorem comparable_ofAsset_perm {events arrived : List SecurityEvent} (perm : arrived.Perm events) {asset : String}
    (comparable : Comparable (ofAsset events asset)) : Comparable (ofAsset arrived asset) :=
  comparable.subset (perm.filter _).subset

/-- The grouping is the partition by gaps, in whatever order the events come. -/
theorem grouping_gapPartition {events : List SecurityEvent} {window : Int}
    (comparable : ∀ asset, Comparable (ofAsset events asset)) (forward : 0 ≤ window) :
    ∃ groups, groupByAssetAndWindow events window = .ok groups ∧ GapPartition window events groups ∧
      ∀ arrived : List SecurityEvent, arrived.Perm events →
        ∃ others, groupByAssetAndWindow arrived window = .ok others ∧ SameGroups others groups := by
  refine ⟨_, groupByAssetAndWindow_ok comparable window, gapPartition_grouped window events, ?_⟩
  intro arrived perm
  have also (asset : String) := comparable_ofAsset_perm perm (comparable asset)
  exact ⟨_, groupByAssetAndWindow_ok also window, Gaps.grouped_perm forward perm⟩

private def sensorAlert (number asset observedAt : String) : SecurityEvent where
  id := "env-" ++ number
  eventId := "wazuh-" ++ number
  observedAt := observedAt
  source := "wazuh"
  assetId := some asset

theorem grouping_gapPartition_two_assets :
    let events := [sensorAlert "1" "a1" "2026-08-11T10:04:00Z", sensorAlert "2" "a2" "2026-08-11T10:02:00Z",
      sensorAlert "3" "a1" "2026-08-11T10:00:00Z"]
    (∀ asset, Comparable (ofAsset events asset)) ∧ (0 : Int) ≤ 300000000 ∧
      ∃ groups, groupByAssetAndWindow events 300000000 = .ok groups ∧ GapPartition 300000000 events groups ∧
        ∀ arrived : List SecurityEvent, arrived.Perm events →
          ∃ others, groupByAssetAndWindow arrived 300000000 = .ok others ∧ SameGroups others groups := by
  intro events
  have all : Comparable events := ⟨by decide, .inl (by decide)⟩
  have comparable (asset : String) : Comparable (ofAsset events asset) := all.subset List.filter_sublist.subset
  exact ⟨comparable, by decide, grouping_gapPartition comparable (by decide)⟩

end ArgosCore.Proofs
