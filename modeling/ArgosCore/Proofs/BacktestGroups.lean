import ArgosCore.Proofs.CorrelatorGroups
import ArgosCore.Proofs.StormGate

/-! The backtest groups a history as the correlator groups the events of production. The
two loops are copies of each other; with the same key they give the same groups, and a
key that also tells sources or users apart gives parts of them. -/

namespace ArgosCore.Proofs
open IsoTime Backtest

def happened (event : BacktestEvent) : Int := timeOf event.observedAt

theorem readAs_iff_stamps {members : List BacktestEvent} {times : List DateTime} :
    ReadAs members times ↔ ReadStamps (members.map BacktestEvent.observedAt) times := by
  rw [ReadStamps, List.forall₂_map_left_iff, ReadAs]

theorem orderByTime_ok_iff {members : List BacktestEvent} {ordered : List (Int × BacktestEvent)} :
    orderByTime members = .ok ordered ↔ ComparableStamps (members.map BacktestEvent.observedAt) ∧
      (ByKey.sortedOn happened members).map (fun event => (happened event, event)) = ordered := by
  have points (times : List DateTime) : times.map (fun time => time.wall - time.offset.getD 0) = times.map point := rfl
  rw [orderByTime, Fallible.bind_ok_iff]
  simp only [mapM_parse_ok_iff, readAs_iff_stamps, points]
  constructor
  · intro ⟨times, read, done⟩
    by_cases oneKind : (times.all (·.offset.isSome) || times.all (·.offset.isNone)) = true
    · rw [if_pos oneKind, read.sortedOn_points] at done
      exact ⟨read.comparable_iff.mpr oneKind, Except.ok.inj done⟩
    · rw [if_neg oneKind] at done
      cases done
  · rintro ⟨comparable, rfl⟩
    obtain ⟨times, read⟩ := exists_readStamps comparable.readable
    refine ⟨times, read, ?_⟩
    rw [if_pos (read.comparable_iff.mp comparable), read.sortedOn_points]
    rfl

section
variable {κ : Type} [DecidableEq κ]

private theorem addTo_eq_put (value : κ) (event : BacktestEvent) (groups : List (κ × List BacktestEvent)) :
    addTo value event groups = Buckets.put value event groups := by
  induction groups with
  | nil => rfl
  | cons group groups ih => rw [addTo, Buckets.put, ih]

private theorem splitWindow_eq_cut (window : Int) (timed : List (Int × BacktestEvent)) (current : List BacktestEvent)
    (last : Option Int) : splitWindow window timed current last = Gaps.cut window timed current last := by
  induction timed generalizing current last with
  | nil => simp [splitWindow, Gaps.cut]
  | cons event later ih =>
    rw [splitWindow, Gaps.cut]
    simp only [ih]

/-- The specification of `_group_by_key_and_window`. -/
theorem groupByKeyAndWindow_ok_iff {keyFn : BacktestEvent → κ} {window : Int} {events : List BacktestEvent}
    {groups : List (List BacktestEvent)} :
    groupByKeyAndWindow keyFn window events = .ok groups ↔
      (∀ value ∈ Buckets.keys keyFn events,
        ComparableStamps ((Buckets.ofKey keyFn events value).map BacktestEvent.observedAt)) ∧
      Gaps.grouped keyFn happened window events = groups := by
  have byKey : events.foldl (fun groups event => addTo (keyFn event) event groups) [] = Buckets.buckets keyFn events := by
    simp only [addTo_eq_put]
    rfl
  simp only [groupByKeyAndWindow, byKey, splitWindow_eq_cut]
  exact Gaps.mapM_buckets_ok_iff fun _ _ => orderByTime_ok_iff

end

structure SharedEvent where
  security : SecurityEvent
  history : BacktestEvent
  sameTime : history.observedAt = security.observedAt
  sameAsset : history.assetId = security.assetId.map some

namespace SharedEvent

theorem happened_history : happened ∘ history = (fun event => timeOf event.observedAt) ∘ security := by
  funext event
  exact congrArg timeOf event.sameTime

theorem assetId_correlationKey (sameSourceIp sameUser : Bool) (event : SharedEvent) :
    (correlationKey sameSourceIp sameUser event.history).assetId = some event.security.assetKey := by
  rw [correlationKey, event.sameAsset, SecurityEvent.assetKey]
  cases event.security.assetId <;> rfl

/-- The key of production, as the backtest writes it. -/
def keyOfAsset (asset : String) : CorrelationKey := ⟨some asset, none, none⟩

theorem keyOfAsset_injective : Function.Injective keyOfAsset := by
  intro one other same
  exact Option.some.inj (congrArg CorrelationKey.assetId same)

theorem correlationKey_history : correlationKey false false ∘ history = keyOfAsset ∘ SecurityEvent.assetKey ∘ security := by
  funext event
  rw [Function.comp_apply, Function.comp_apply, Function.comp_apply, keyOfAsset, ← assetId_correlationKey false false]
  rfl

theorem assetKey_of_correlationKey {sameSourceIp sameUser : Bool} {one other : SharedEvent}
    (same : correlationKey sameSourceIp sameUser one.history = correlationKey sameSourceIp sameUser other.history) :
    one.security.assetKey = other.security.assetKey := by
  have assets := congrArg CorrelationKey.assetId same
  rwa [assetId_correlationKey, assetId_correlationKey, Option.some.injEq] at assets

theorem comparable_ofKey {events : List SharedEvent}
    (comparable : ∀ asset, Comparable (ofAsset (events.map security) asset)) (sameSourceIp sameUser : Bool) :
    ∀ value ∈ Buckets.keys (correlationKey sameSourceIp sameUser) (events.map history),
      ComparableStamps ((Buckets.ofKey (correlationKey sameSourceIp sameUser) (events.map history) value).map
        BacktestEvent.observedAt) := by
  intro value known
  obtain ⟨_, member, rfl⟩ := Buckets.mem_keys.mp known
  obtain ⟨event, _, rfl⟩ := List.mem_map.mp member
  apply (comparable_iff_stamps.mp (comparable event.security.assetKey)).subset
  intro stamp inside
  obtain ⟨_, found, rfl⟩ := List.mem_map.mp inside
  obtain ⟨among, same⟩ := Buckets.mem_ofKey.mp found
  obtain ⟨one, oneInside, rfl⟩ := List.mem_map.mp among
  have asset := mem_ofAsset.mpr ⟨List.mem_map_of_mem oneInside, assetKey_of_correlationKey same⟩
  exact List.mem_map.mpr ⟨one.security, asset, one.sameTime.symm⟩

end SharedEvent

open SharedEvent in
/-- The backtest groups as production does, and with a finer key into parts of those groups. -/
theorem backtest_groups_like_production {events : List SharedEvent}
    (comparable : ∀ asset, Comparable (ofAsset (events.map security) asset)) (window : Int) :
    ∃ groups : List (List SharedEvent),
      groupByAssetAndWindow (events.map security) window = .ok (groups.map (List.map security)) ∧
      groupByKeyAndWindow (correlationKey false false) window (events.map history) = .ok (groups.map (List.map history)) ∧
      ∀ sameSourceIp sameUser, ∃ parts : List (List SharedEvent),
        groupByKeyAndWindow (correlationKey sameSourceIp sameUser) window (events.map history) =
            .ok (parts.map (List.map history)) ∧
          ∀ part ∈ parts, ∃ group ∈ groups, part.Sublist group := by
  refine ⟨Gaps.grouped (SecurityEvent.assetKey ∘ security) (happened ∘ history) window events, ?_, ?_, ?_⟩
  · rw [groupByAssetAndWindow_ok comparable, Gaps.grouped_map, happened_history]
  · rw [groupByKeyAndWindow_ok_iff]
    refine ⟨comparable_ofKey comparable false false, ?_⟩
    rw [Gaps.grouped_map, correlationKey_history, Gaps.grouped_relabel keyOfAsset_injective]
  · intro sameSourceIp sameUser
    refine ⟨Gaps.grouped (correlationKey sameSourceIp sameUser ∘ history) (happened ∘ history) window events, ?_, ?_⟩
    · rw [groupByKeyAndWindow_ok_iff]
      exact ⟨comparable_ofKey comparable sameSourceIp sameUser, Gaps.grouped_map ..⟩
    · intro part found
      exact Gaps.grouped_refines (fun one other same => assetKey_of_correlationKey same) found

private def attempt (number : String) (asset : Option String) (observedAt sourceIp : String) : SharedEvent where
  security := { id := "env-" ++ number, eventId := "wazuh-" ++ number, observedAt, source := "wazuh", assetId := asset }
  history := { wazuhRuleId := some "5710", observedAt, assetId := asset.map some, sourceIp := some sourceIp }
  sameTime := rfl
  sameAsset := rfl

/-- Three attempts on one asset from two sources, the oldest one last. -/
theorem backtest_groups_like_production_two_sources :
    let events := [attempt "1" (some "a1") "2026-08-11T10:00:10Z" "1.1.1.1",
      attempt "2" (some "a1") "2026-08-11T10:00:20Z" "2.2.2.2", attempt "3" (some "a1") "2026-08-11T10:00:00Z" "1.1.1.1"]
    (∀ asset, Comparable (ofAsset (events.map SharedEvent.security) asset)) ∧
      ∃ groups : List (List SharedEvent),
        groupByAssetAndWindow (events.map SharedEvent.security) 120000000 =
            .ok (groups.map (List.map SharedEvent.security)) ∧
        groupByKeyAndWindow (correlationKey false false) 120000000 (events.map SharedEvent.history) =
            .ok (groups.map (List.map SharedEvent.history)) ∧
        ∀ sameSourceIp sameUser, ∃ parts : List (List SharedEvent),
          groupByKeyAndWindow (correlationKey sameSourceIp sameUser) 120000000 (events.map SharedEvent.history) =
              .ok (parts.map (List.map SharedEvent.history)) ∧
            ∀ part ∈ parts, ∃ group ∈ groups, part.Sublist group := by
  intro events
  have all : Comparable (events.map SharedEvent.security) := ⟨by decide, .inl (by decide)⟩
  have comparable (asset : String) : Comparable (ofAsset (events.map SharedEvent.security) asset) :=
    all.subset List.filter_sublist.subset
  exact ⟨comparable, backtest_groups_like_production comparable 120000000⟩

end ArgosCore.Proofs
