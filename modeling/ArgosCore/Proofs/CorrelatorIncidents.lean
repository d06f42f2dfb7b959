import ArgosCore.Proofs.CorrelatorGroups

/-! What an incident says about the events behind it. The groups hold one event for each
correlation key, its oldest, so only what the oldest events of a group say gets through. -/

namespace ArgosCore.Proofs
open Relation

/-- The asset an event names; an empty identifier names none, as for the incident. -/
def namedAsset (event : SecurityEvent) : Option String := event.assetId.filter (· ≠ "")

structure Covers (incident : Json.Object) (event : SecurityEvent) : Prop where
  severity : ∃ severity, incident.lookup "severity" = some (.str severity) ∧
    severityRank event.severity ≤ severityRank severity
  asset : ∀ asset, namedAsset event = some asset → ∃ entities, incident.lookup "entities" = some (.arr entities) ∧
    .obj [("type", .str "asset"), ("id", .str asset)] ∈ entities

theorem incidentSeverity_max {members : List SecurityEvent} {severity : String}
    (chosen : incidentSeverity members = some severity) :
    (∃ member ∈ members, member.severity = severity) ∧
      ∀ member ∈ members, severityRank member.severity ≤ severityRank severity := by
  constructor
  · exact List.mem_map.mp (List.argmax_mem chosen)
  · intro member inside
    exact List.le_of_mem_argmax (List.mem_map.mpr ⟨member, inside, rfl⟩) chosen

theorem mem_seenAssetIds {members : List SecurityEvent} {asset : String} :
    asset ∈ seenAssetIds members ↔ ∃ member ∈ members, namedAsset member = some asset := by
  rw [seenAssetIds, List.mem_eraseDups, List.mem_filterMap]
  rfl

section
variable [Runtime]

theorem incident_built {validate : Json.Object → List String} {context : EnvelopeContext}
    {members : List SecurityEvent} {attackTechniques : List String} {confidence : String} {draw : Draw}
    {incident : Json.Object}
    (built : buildIncidentPayload validate context members attackTechniques confidence draw = .ok incident) :
    ∃ severity, incidentSeverity members = some severity ∧ incident.lookup "severity" = some (.str severity) ∧
      incident.lookup "entities" = some (.arr ((seenAssetIds members).map fun asset =>
        .obj [("type", .str "asset"), ("id", .str asset)])) := by
  rw [buildIncidentPayload] at built
  cases chosen : incidentSeverity members with
  | none => simp [chosen] at built
  | some severity =>
    simp only [chosen] at built
    split at built
    next => cases built
    next =>
      cases built
      refine ⟨severity, rfl, ?_, ?_⟩
      · rw [Dict.lookup_setAll, incidentPayload]
        split <;> rfl
      · rw [Dict.lookup_setAll, incidentPayload]
        split <;> rfl

theorem covers_iff {validate : Json.Object → List String} {context : EnvelopeContext}
    {members : List SecurityEvent} {attackTechniques : List String} {confidence : String} {draw : Draw}
    {incident : Json.Object} {event : SecurityEvent}
    (built : buildIncidentPayload validate context members attackTechniques confidence draw = .ok incident) :
    Covers incident event ↔
      (∃ member ∈ members, severityRank event.severity ≤ severityRank member.severity) ∧
        ∀ asset, namedAsset event = some asset → ∃ member ∈ members, namedAsset member = some asset := by
  obtain ⟨severity, chosen, rank, listed⟩ := incident_built built
  obtain ⟨⟨top, topMem, topIs⟩, most⟩ := incidentSeverity_max chosen
  constructor
  · intro ⟨severe, assets⟩
    obtain ⟨written, found, outranked⟩ := severe
    obtain rfl : severity = written := by simpa [rank] using found
    refine ⟨⟨top, topMem, topIs ▸ outranked⟩, ?_⟩
    intro asset named
    obtain ⟨entities, found, inside⟩ := assets asset named
    obtain rfl : _ = entities := by simpa [listed] using found
    obtain ⟨seen, known, same⟩ := List.mem_map.mp inside
    obtain rfl : seen = asset := by simpa using same
    exact mem_seenAssetIds.mp known
  · intro ⟨⟨member, inside, outranked⟩, assets⟩
    refine ⟨⟨severity, rank, outranked.trans (most member inside)⟩, ?_⟩
    intro asset named
    exact ⟨_, listed, List.mem_map.mpr ⟨asset, mem_seenAssetIds.mpr (assets asset named), rfl⟩⟩

end

def correlate (events : List SecurityEvent) (window : Int) : Except CorrelatorError (List (List SecurityEvent)) := do
  groupByAssetAndWindow (← dedupeByCorrelationKey events) window

/-- The event that goes into the groups in place of this one, as it arrived: the oldest
of its key, or the event itself. -/
def front (events : List SecurityEvent) (event : SecurityEvent) : SecurityEvent :=
  event.correlationKey.elim event fun key =>
    (ByKey.least (fun other => timeOf other.observedAt) (keyed events key)).getD event

def stands (events : List SecurityEvent) (event : SecurityEvent) : SecurityEvent :=
  event.correlationKey.elim event (representative events)

theorem stands_unkeyed {events : List SecurityEvent} {event : SecurityEvent} (unkeyed : event.correlationKey = none) :
    stands events event = event := by
  rw [stands, unkeyed, Option.elim_none]

theorem stands_keyed {events : List SecurityEvent} {event : SecurityEvent} {key : String}
    (found : event.correlationKey = some key) : stands events event = representative events key := by
  rw [stands, found, Option.elim_some]

theorem stands_eq {events : List SecurityEvent} {event : SecurityEvent} (inside : event ∈ events) :
    ∃ correlation, stands events event = { front events event with correlation } := by
  cases found : event.correlationKey with
  | none => exact ⟨event.correlation, by rw [stands_unkeyed found, front, found]; rfl⟩
  | some key =>
    obtain ⟨base, others, ordered⟩ := List.exists_cons_of_ne_nil (oldestFirst_ne_nil (keyed_ne_nil inside found))
    have oldest : ByKey.least (fun other => timeOf other.observedAt) (keyed events key) = some base := by
      rw [← ByKey.head?_sortedOn, ← oldestFirst, ordered, List.head?_cons]
    rw [stands_keyed found, front, found, Option.elim_some, oldest, Option.getD_some, representative, ordered]
    exact ⟨_, rfl⟩

theorem correlationKey_stands (events : List SecurityEvent) (event : SecurityEvent) :
    (stands events event).correlationKey = event.correlationKey := by
  cases found : event.correlationKey with
  | none => rw [stands_unkeyed found, found]
  | some key =>
    rw [stands_keyed found]
    exact correlationKey_collapsed (correlationKey_ne_empty found) _ _

theorem mem_collapsed {events : List SecurityEvent} {member : SecurityEvent} :
    member ∈ afterCollapse events ↔ ∃ event ∈ events, stands events event = member := by
  constructor
  · intro inside
    rcases ByKey.mem_firstOfEach inside with ⟨kept, unkeyed⟩ | ⟨first, among, key, found, same⟩
    · exact ⟨member, kept, stands_unkeyed unkeyed⟩
    · exact ⟨first, among, (stands_keyed found).trans same.symm⟩
  · intro ⟨event, inside, same⟩
    rw [← same]
    cases found : event.correlationKey with
    | none =>
      rw [stands_unkeyed found]
      exact ByKey.unkeyed_mem_firstOfEach inside found []
    | some key =>
      have alone := keyed_dedupe events key
      rw [if_neg (keyed_ne_nil inside found)] at alone
      rw [stands_keyed found]
      exact List.mem_of_mem_filter (alone ▸ List.mem_singleton_self _)

def StandsFor (member event : SecurityEvent) : Prop :=
  match event.correlationKey with
  | none => member = event
  | some key => member.correlationKey = some key

theorem standsFor_iff {events : List SecurityEvent} {member event : SecurityEvent}
    (inside : member ∈ afterCollapse events) : StandsFor member event ↔ member = stands events event := by
  obtain ⟨origin, _, same⟩ := mem_collapsed.mp inside
  have originKey := correlationKey_stands events origin
  rw [same] at originKey
  cases found : event.correlationKey with
  | none => rw [StandsFor, found, stands_unkeyed found]
  | some key =>
    rw [StandsFor, found, stands_keyed found]
    constructor
    · intro memberKey
      rw [← same, stands_keyed (originKey.symm.trans memberKey)]
    · intro memberIs
      rw [memberIs]
      exact correlationKey_collapsed (correlationKey_ne_empty found) _ _

structure Groupable (events : List SecurityEvent) : Prop where
  keys : Collapsible events
  assets : ∀ asset, Comparable (ofAsset (events.map (front events)) asset)

private theorem seen_collapsed {events : List SecurityEvent} {asset : String} {member : SecurityEvent}
    (inside : member ∈ ofAsset (afterCollapse events) asset) :
    ∃ other ∈ ofAsset (events.map (front events)) asset, other.observedAt = member.observedAt := by
  obtain ⟨among, named⟩ := mem_ofAsset.mp inside
  obtain ⟨event, found, same⟩ := mem_collapsed.mp among
  obtain ⟨correlation, equal⟩ := stands_eq found
  subst same
  rw [equal] at named ⊢
  exact ⟨front events event, mem_ofAsset.mpr ⟨List.mem_map.mpr ⟨event, found, rfl⟩, named⟩, rfl⟩

private theorem seen_front {events : List SecurityEvent} {asset : String} {member : SecurityEvent}
    (inside : member ∈ ofAsset (events.map (front events)) asset) :
    ∃ other ∈ ofAsset (afterCollapse events) asset, other.observedAt = member.observedAt := by
  obtain ⟨among, named⟩ := mem_ofAsset.mp inside
  obtain ⟨event, found, same⟩ := List.mem_map.mp among
  obtain ⟨correlation, equal⟩ := stands_eq found
  subst same
  refine ⟨stands events event, mem_ofAsset.mpr ⟨mem_collapsed.mpr ⟨event, found, rfl⟩, ?_⟩, ?_⟩
  · rw [equal]
    exact named
  · rw [equal]

theorem correlate_ok {events : List SecurityEvent} (groupable : Groupable events) (window : Int) :
    ∃ groups, correlate events window = .ok groups ∧
      ∀ group, group ∈ groups ↔ ∃ asset, group ∈ assetRuns window (ofAsset (afterCollapse events) asset) := by
  rw [correlate, dedupe_ok groupable.keys]
  exact group_ok (fun asset => (groupable.assets asset).of_seen fun _ => seen_collapsed) window

theorem groupable_of_ok {events : List SecurityEvent} {window : Int} {groups : List (List SecurityEvent)}
    (done : correlate events window = .ok groups) : Groupable events := by
  by_cases keys : Collapsible events
  · rw [correlate, dedupe_ok keys] at done
    refine ⟨keys, ?_⟩
    intro asset
    refine Comparable.of_seen ?_ fun _ => seen_front
    by_contra incomparable
    obtain ⟨error, failed⟩ := group_error incomparable window
    cases failed.symm.trans done
  · obtain ⟨error, failed⟩ := dedupe_error keys
    rw [correlate, failed] at done
    cases done

structure Near (events : List SecurityEvent) (window : Int) (left right : SecurityEvent) : Prop where
  leftMem : left ∈ events
  rightMem : right ∈ events
  sameAsset : (front events left).assetKey = (front events right).assetKey
  near : timeOf (front events left).observedAt - timeOf (front events right).observedAt ≤ window ∧
    timeOf (front events right).observedAt - timeOf (front events left).observedAt ≤ window

def Linked (events : List SecurityEvent) (window : Int) : SecurityEvent → SecurityEvent → Prop :=
  ReflTransGen (Near events window)

theorem near_iff {events : List SecurityEvent} {window : Int} {left right : SecurityEvent} (leftMem : left ∈ events)
    (rightMem : right ∈ events) :
    Near events window left right ↔
      Beside (afterCollapse events) window (stands events left) (stands events right) := by
  obtain ⟨leftCorrelation, leftIs⟩ := stands_eq leftMem
  obtain ⟨rightCorrelation, rightIs⟩ := stands_eq rightMem
  constructor
  · intro near
    refine ⟨mem_collapsed.mpr ⟨left, leftMem, rfl⟩, mem_collapsed.mpr ⟨right, rightMem, rfl⟩, ?_, ?_⟩
    · rw [leftIs, rightIs]
      exact near.sameAsset
    · rw [leftIs, rightIs]
      exact near.near
  · intro beside
    obtain ⟨-, -, sameAsset, near⟩ := beside
    rw [leftIs, rightIs] at sameAsset near
    exact ⟨leftMem, rightMem, sameAsset, near⟩

/-- The members of a group that an event's front is in are the fronts of the events it
is linked with. -/
theorem linked_iff {events : List SecurityEvent} {window : Int} {event member : SecurityEvent} (inside : event ∈ events) :
    ReflTransGen (Beside (afterCollapse events) window) (stands events event) member ↔
      ∃ peer ∈ events, Linked events window event peer ∧ stands events peer = member := by
  constructor
  · intro linked
    induction linked with
    | refl => exact ⟨event, inside, .refl, rfl⟩
    | tail _ beside ih =>
      obtain ⟨peer, peerMem, linked, same⟩ := ih
      obtain ⟨next, nextMem, nextSame⟩ := mem_collapsed.mp beside.rightMem
      rw [← same, ← nextSame] at beside
      exact ⟨next, nextMem, linked.tail ((near_iff peerMem nextMem).mpr beside), nextSame⟩
  · intro ⟨peer, _, linked, same⟩
    rw [← same]
    apply linked.lift
    intro left right near
    exact (near_iff near.leftMem near.rightMem).mp near

section
variable [Runtime]

/-- For every event, the groups hold the event that stands for it, and the incident of
that group covers it. -/
def NothingHidden (events : List SecurityEvent) (window : Int) : Prop :=
  ∀ groups, correlate events window = .ok groups → ∀ event ∈ events,
    (∃ group ∈ groups, ∃ member ∈ group, StandsFor member event) ∧
    ∀ group ∈ groups, (∃ member ∈ group, StandsFor member event) →
      ∀ validate context attackTechniques confidence draw incident,
        buildIncidentPayload validate context group attackTechniques confidence draw = .ok incident →
        Covers incident event

/-- Some linked front is at least as severe, and some linked front names the asset. -/
structure Shown (events : List SecurityEvent) (window : Int) (event : SecurityEvent) : Prop where
  severity : ∃ peer ∈ events, Linked events window event peer ∧
    severityRank event.severity ≤ severityRank (front events peer).severity
  asset : ∀ asset, namedAsset event = some asset →
    ∃ peer ∈ events, Linked events window event peer ∧ namedAsset (front events peer) = some asset

omit [Runtime] in
theorem mem_group_of_stands {events group : List SecurityEvent} {window : Int} {asset : String} {event : SecurityEvent}
    (found : group ∈ assetRuns window (ofAsset (afterCollapse events) asset)) (inside : event ∈ events)
    (standing : stands events event ∈ group) (member : SecurityEvent) :
    member ∈ group ↔ ∃ peer ∈ events, Linked events window event peer ∧ stands events peer = member := by
  rw [mem_group_iff found standing, linked_iff inside]

omit [Runtime] in
theorem mem_collapsed_of_group {events group : List SecurityEvent} {window : Int} {asset : String}
    (found : group ∈ assetRuns window (ofAsset (afterCollapse events) asset)) {member : SecurityEvent}
    (inside : member ∈ group) : member ∈ afterCollapse events :=
  (mem_ofAsset.mp (ByKey.mem_sortedOn.mp (Gaps.mem_of_mem_run found inside))).1

theorem covers_iff_shown {events group : List SecurityEvent} {window : Int} {asset : String} {event : SecurityEvent}
    (found : group ∈ assetRuns window (ofAsset (afterCollapse events) asset)) (inside : event ∈ events)
    (standing : stands events event ∈ group) {validate : Json.Object → List String} {context : EnvelopeContext}
    {attackTechniques : List String} {confidence : String} {draw : Draw} {incident : Json.Object}
    (built : buildIncidentPayload validate context group attackTechniques confidence draw = .ok incident) :
    Covers incident event ↔ Shown events window event := by
  have members := mem_group_of_stands found inside standing
  rw [covers_iff built]
  constructor
  · intro ⟨⟨member, memberInside, outranked⟩, assets⟩
    constructor
    · obtain ⟨peer, peerMem, linked, same⟩ := (members member).mp memberInside
      obtain ⟨correlation, equal⟩ := stands_eq peerMem
      rw [← same, equal] at outranked
      exact ⟨peer, peerMem, linked, outranked⟩
    · intro name named
      obtain ⟨other, otherInside, otherNamed⟩ := assets name named
      obtain ⟨peer, peerMem, linked, same⟩ := (members other).mp otherInside
      obtain ⟨correlation, equal⟩ := stands_eq peerMem
      rw [← same, equal] at otherNamed
      exact ⟨peer, peerMem, linked, otherNamed⟩
  · intro ⟨⟨peer, peerMem, linked, outranked⟩, assets⟩
    constructor
    · obtain ⟨correlation, equal⟩ := stands_eq peerMem
      refine ⟨stands events peer, (members _).mpr ⟨peer, peerMem, linked, rfl⟩, ?_⟩
      rw [equal]
      exact outranked
    · intro name named
      obtain ⟨other, otherMem, otherLinked, otherNamed⟩ := assets name named
      obtain ⟨correlation, equal⟩ := stands_eq otherMem
      refine ⟨stands events other, (members _).mpr ⟨other, otherMem, otherLinked, rfl⟩, ?_⟩
      rw [equal]
      exact otherNamed

theorem exists_incident {group : List SecurityEvent} {member : SecurityEvent} (inside : member ∈ group)
    (context : EnvelopeContext) (draw : Draw) :
    ∃ incident, buildIncidentPayload (fun _ => []) context group [] "low" draw = .ok incident := by
  cases chosen : incidentSeverity group with
  | none =>
    have empty : group = [] := by simpa [incidentSeverity] using chosen
    simp [empty] at inside
  | some severity =>
    rw [buildIncidentPayload]
    simp only [chosen]
    exact ⟨_, if_neg (by simp)⟩

/-- Collapsing hides nothing exactly when, for every event, the oldest events of the keys
it shares a group with already show its severity and its asset. -/
theorem nothingHidden_iff (events : List SecurityEvent) (window : Int) :
    NothingHidden events window ↔ (Groupable events → ∀ event ∈ events, Shown events window event) := by
  constructor
  · intro covered groupable event inside
    obtain ⟨groups, done, shape⟩ := correlate_ok groupable window
    obtain ⟨⟨group, found, member, memberInside, standsFor⟩, all⟩ := covered groups done event inside
    obtain ⟨asset, run⟩ := (shape group).mp found
    have same := (standsFor_iff (mem_collapsed_of_group run memberInside)).mp standsFor
    obtain ⟨incident, built⟩ := exists_incident memberInside ⟨"", "", "", none, ""⟩ ⟨0, 0⟩
    exact (covers_iff_shown run inside (same ▸ memberInside) built).mp
      (all group found ⟨member, memberInside, standsFor⟩ _ _ _ _ _ _ built)
  · intro shown groups done event inside
    have groupable := groupable_of_ok done
    obtain ⟨known, alsoDone, shape⟩ := correlate_ok groupable window
    obtain rfl : known = groups := Except.ok.inj (alsoDone.symm.trans done)
    have among : stands events event ∈ afterCollapse events := mem_collapsed.mpr ⟨event, inside, rfl⟩
    constructor
    · obtain ⟨group, run, standing⟩ := exists_group among window
      exact ⟨group, (shape group).mpr ⟨_, run⟩, _, standing, (standsFor_iff among).mpr rfl⟩
    · intro group found ⟨member, memberInside, standsFor⟩ validate context attackTechniques confidence draw incident built
      obtain ⟨asset, run⟩ := (shape group).mp found
      have same := (standsFor_iff (mem_collapsed_of_group run memberInside)).mp standsFor
      exact (covers_iff_shown run inside (same ▸ memberInside) built).mpr (shown groupable event inside)

end

private def probe : SecurityEvent where
  id := "env-1"
  eventId := "falco-1"
  observedAt := "2026-08-18T10:00:00Z"
  source := "falco"
  assetId := some "a1"
  severityNormalized := some "low"
  correlation := some { correlationKey := some "attack-xyz" }

private def breach : SecurityEvent :=
  { probe with id := "env-2", eventId := "falco-2", observedAt := "2026-08-18T10:00:01Z", severityNormalized := some "critical" }

/-- The incident of an attack that began with a low alert stays low after a critical one. -/
theorem critical_alert_hidden :
    letI := Runtime.transparent
    correlate [probe, breach] 600000000 = .ok [[collapsed "attack-xyz" probe [breach]]] ∧
      ¬ NothingHidden [probe, breach] 600000000 := by
  let _ := Runtime.transparent
  have done : correlate [probe, breach] 600000000 = .ok [[collapsed "attack-xyz" probe [breach]]] := by rfl
  refine ⟨done, ?_⟩
  intro covered
  obtain ⟨incident, built⟩ := exists_incident (List.mem_singleton_self (collapsed "attack-xyz" probe [breach]))
    ⟨"correlator", "run-1", "internal", none, "1.0.0"⟩ ⟨0, 0⟩
  have covers := (covered _ done breach (by simp)).2 _ (List.mem_singleton_self _)
    ⟨_, List.mem_singleton_self _, by rfl⟩ _ _ _ _ _ _ built
  obtain ⟨⟨member, inside, outranked⟩, -⟩ := (covers_iff built).mp covers
  rw [List.mem_singleton.mp inside] at outranked
  revert outranked
  decide

end ArgosCore.Proofs
