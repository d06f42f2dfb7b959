import ArgosCore.Foundations.GapBatches
import ArgosCore.Proofs.CorrelatorPartition

/-! Correlating batch by batch. Where every asset is quiet for a window between the batches, the
groups of the whole history are those of the batches. -/

namespace ArgosCore.Proofs

/-- What the later batch has of an asset comes more than the window after what the earlier one has. -/
abbrev QuietBetween (window : Int) (earlier later : List SecurityEvent) : Prop :=
  Gaps.Quiet SecurityEvent.assetKey (fun event => timeOf event.observedAt) window earlier later

theorem batched_correlation {batches : List (List SecurityEvent)} {window : Int} (forward : 0 ≤ window)
    (quiet : batches.Pairwise (QuietBetween window)) {groups : List (List SecurityEvent)}
    (whole : groupByAssetAndWindow batches.flatten window = .ok groups) :
    ∃ parts, batches.mapM (fun batch => groupByAssetAndWindow batch window) = .ok parts ∧ groups.Perm parts.flatten := by
  obtain ⟨comparable, rfl⟩ := groupByAssetAndWindow_ok_iff.mp whole
  let groupsOf := Gaps.grouped SecurityEvent.assetKey (fun event => timeOf event.observedAt) window
  refine ⟨batches.map groupsOf, ?_, ?_⟩
  · rw [Fallible.mapM_ok_iff, List.forall₂_map_right_iff, List.forall₂_same]
    intro batch inside
    apply groupByAssetAndWindow_ok
    intro asset
    apply (comparable asset).subset
    intro event held
    obtain ⟨member, same⟩ := mem_ofAsset.mp held
    exact mem_ofAsset.mpr ⟨List.mem_flatten_of_mem inside member, same⟩
  · rw [← List.flatMap_def]
    exact Gaps.grouped_batches_perm forward quiet

private def shiftAlert (number observedAt : String) : SecurityEvent where
  id := "env-" ++ number
  eventId := "wazuh-" ++ number
  observedAt := observedAt
  source := "wazuh"
  assetId := some "a1"

/-- Two alerts of the morning and one of the evening of one asset. -/
theorem batched_correlation_two_shifts :
    let batches := [[shiftAlert "1" "2026-08-11T08:01:00Z", shiftAlert "2" "2026-08-11T08:00:00Z"],
      [shiftAlert "3" "2026-08-11T20:00:00Z"]]
    (0 : Int) ≤ 300000000 ∧ batches.Pairwise (QuietBetween 300000000) ∧
      ∃ groups, groupByAssetAndWindow batches.flatten 300000000 = .ok groups ∧
        ∃ parts, batches.mapM (fun batch => groupByAssetAndWindow batch 300000000) = .ok parts ∧
          groups.Perm parts.flatten := by
  intro batches
  have quiet : batches.Pairwise (QuietBetween 300000000) := by
    unfold batches
    simp only [List.pairwise_cons, List.mem_singleton, forall_eq, List.not_mem_nil, false_implies, implies_true,
      List.Pairwise.nil, and_true]
    intro before inside after inside' _
    rcases List.mem_pair.mp inside with rfl | rfl <;> rcases List.mem_singleton.mp inside' with rfl <;> decide
  have all : Comparable batches.flatten := ⟨by decide, .inl (by decide)⟩
  have whole := groupByAssetAndWindow_ok (fun asset => all.subset List.filter_sublist.subset) 300000000
  exact ⟨by decide, quiet, _, whole, batched_correlation (by decide) quiet whole⟩

end ArgosCore.Proofs
