import ArgosCore.Proofs.CorrelatorCollapse
import Mathlib.Data.Finset.Dedup
import Mathlib.Data.Finset.Insert

/-! Collapsing what has been collapsed before: what a second pass reports of a key is
recomputed from the events it is given, so it agrees with the whole stream as long as
the first pass had nothing to merge. -/

namespace ArgosCore.Proofs

structure Summary where
  occurrenceCount : Option Nat
  firstSeen : Option String
  lastSeen : Option String
  relatedEventRefs : Option (Finset String)
  deriving DecidableEq

def summary (event : SecurityEvent) : Summary :=
  let correlation := event.correlation.getD {}
  { occurrenceCount := correlation.occurrenceCount
    firstSeen := correlation.firstSeen
    lastSeen := correlation.lastSeen
    relatedEventRefs := correlation.relatedEventRefs.map List.toFinset }

def sighting (event : SecurityEvent) : String × String := (event.observedAt, event.id)

def summaryOf (sightings : List (String × String)) : Summary where
  occurrenceCount := some sightings.length
  firstSeen := sightings.head?.map Prod.fst
  lastSeen := sightings.getLast?.map Prod.fst
  relatedEventRefs := some (sightings.map Prod.snd).toFinset

theorem summary_collapsed (key : String) (base : SecurityEvent) (others : List SecurityEvent) :
    summary (collapsed key base others) = summaryOf ((base :: others).map sighting) := by
  have last : ((base :: others).map sighting).getLast? =
      some (sighting ((base :: others).getLast (List.cons_ne_nil _ _))) := by
    rw [List.getLast?_map, List.getLast?_eq_some_getLast (List.cons_ne_nil _ _), Option.map_some]
  rw [summaryOf, last, List.map_map, List.length_map]
  rfl

theorem oldestFirst_sightings (events : List SecurityEvent) :
    (oldestFirst events).map sighting = ByKey.sortedOn (fun seen => timeOf seen.1) (events.map sighting) :=
  (ByKey.sortedOn_map (fun seen : String × String => timeOf seen.1) sighting events).symm

theorem summary_representative {events : List SecurityEvent} {key : String} (occurs : keyed events key ≠ []) :
    summary (representative events key) =
      summaryOf (ByKey.sortedOn (fun seen => timeOf seen.1) ((keyed events key).map sighting)) := by
  obtain ⟨base, others, found⟩ := List.exists_cons_of_ne_nil (oldestFirst_ne_nil occurs)
  rw [← oldestFirst_sightings, representative, found]
  exact summary_collapsed key base others

theorem occurrenceCount_representative {events : List SecurityEvent} {key : String} (occurs : keyed events key ≠ []) :
    (summary (representative events key)).occurrenceCount = some (keyed events key).length := by
  rw [summary_representative occurs, summaryOf, ByKey.length_sortedOn, List.length_map]

def marked (event : SecurityEvent) : SecurityEvent :=
  event.correlationKey.elim event fun key => collapsed key event []

theorem marked_unkeyed {event : SecurityEvent} (unkeyed : event.correlationKey = none) : marked event = event := by
  rw [marked, unkeyed, Option.elim_none]

theorem marked_keyed {event : SecurityEvent} {key : String} (found : event.correlationKey = some key) :
    marked event = collapsed key event [] := by
  rw [marked, found, Option.elim_some]

theorem correlationKey_marked (event : SecurityEvent) : (marked event).correlationKey = event.correlationKey := by
  cases found : event.correlationKey with
  | none => rw [marked_unkeyed found, found]
  | some key =>
    rw [marked_keyed found]
    exact correlationKey_collapsed (correlationKey_ne_empty found) event []

theorem sighting_marked (event : SecurityEvent) : sighting (marked event) = sighting event := by
  cases found : event.correlationKey with
  | none => rw [marked_unkeyed found]
  | some key =>
    rw [marked_keyed found]
    rfl

theorem marked_marked (event : SecurityEvent) : marked (marked event) = marked event := by
  cases found : event.correlationKey with
  | none => rw [marked_unkeyed found, marked_unkeyed found]
  | some key =>
    rw [marked_keyed ((correlationKey_marked event).trans found), marked_keyed found]
    rfl

theorem representative_alone {events : List SecurityEvent} {event : SecurityEvent} {key : String}
    (alone : keyed events key = [event]) : representative events key = collapsed key event [] := by
  rw [representative, alone]
  rfl

theorem dedupe_of_nodup {events : List SecurityEvent} (collapsible : Collapsible events)
    (fresh : (events.filterMap SecurityEvent.correlationKey).Nodup) :
    dedupeByCorrelationKey events = .ok (events.map marked) := by
  rw [dedupe_ok collapsible, afterCollapse, ByKey.firstOfEach_of_nodup fresh fun _ _ => List.not_mem_nil]
  congr 1
  apply List.map_congr_left
  intro event inside
  cases found : event.correlationKey with
  | none => rw [marked_unkeyed found, Option.elim_none]
  | some key =>
    rw [marked_keyed found, Option.elim_some]
    exact representative_alone (ByKey.members_of_nodup fresh inside found)

theorem sightings_map_marked (events : List SecurityEvent) (key : String) :
    (keyed (events.map marked) key).map sighting = (keyed events key).map sighting := by
  have keys : (fun event => decide (event.correlationKey = some key)) ∘ marked =
      fun event => decide (event.correlationKey = some key) := by
    funext event
    rw [Function.comp_apply, correlationKey_marked]
  have seen : sighting ∘ marked = sighting := funext sighting_marked
  rw [keyed, ByKey.members, List.filter_map, keys, List.map_map, seen]
  rfl

theorem keyed_append (left right : List SecurityEvent) (key : String) :
    keyed (left ++ right) key = keyed left key ++ keyed right key := ByKey.members_append ..

theorem Comparable.congr {left right : List SecurityEvent} (comparable : Comparable left)
    (same : left.map sighting = right.map sighting) : Comparable right := by
  apply comparable.of_seen
  intro event inside
  have among : sighting event ∈ right.map sighting := List.mem_map.mpr ⟨event, inside, rfl⟩
  rw [← same] at among
  obtain ⟨other, found, equal⟩ := List.mem_map.mp among
  exact ⟨other, found, congrArg Prod.fst equal⟩

def SameSummaries : Except CorrelatorError (List SecurityEvent) → Except CorrelatorError (List SecurityEvent) → Prop
  | .ok left, .ok right => ∀ key, (keyed left key).map summary = (keyed right key).map summary
  | .error _, .error _ => True
  | _, _ => False

theorem sameSummaries_of_sightings {left right : List SecurityEvent}
    (same : ∀ key, (keyed left key).map sighting = (keyed right key).map sighting) :
    SameSummaries (dedupeByCorrelationKey left) (dedupeByCorrelationKey right) := by
  by_cases collapsible : Collapsible left
  · have also : Collapsible right := fun key => (collapsible key).congr (same key)
    rw [dedupe_ok collapsible, dedupe_ok also]
    intro key
    have occurs : keyed left key = [] ↔ keyed right key = [] := by
      simpa only [List.map_eq_nil_iff] using iff_of_eq (congrArg (· = []) (same key))
    rw [keyed_dedupe, keyed_dedupe]
    by_cases absent : keyed left key = []
    · rw [if_pos absent, if_pos (occurs.mp absent)]
    · rw [if_neg absent, if_neg (mt occurs.mpr absent), List.map_singleton, List.map_singleton,
        summary_representative absent, summary_representative (mt occurs.mpr absent), same]
  · have neither : ¬ Collapsible right := fun also => collapsible fun key => (also key).congr (same key).symm
    obtain ⟨leftError, leftFailed⟩ := dedupe_error collapsible
    obtain ⟨rightError, rightFailed⟩ := dedupe_error neither
    rw [leftFailed, rightFailed]
    trivial

/-- Collapsing `xs` before the events of `ys` arrive changes nothing. -/
def BatchIndependent (xs ys : List SecurityEvent) : Prop :=
  (dedupeByCorrelationKey xs >>= dedupeByCorrelationKey) = dedupeByCorrelationKey xs ∧
    SameSummaries (dedupeByCorrelationKey xs >>= fun first => dedupeByCorrelationKey (first ++ ys))
      (dedupeByCorrelationKey (xs ++ ys))

theorem batchIndependent_of_nodup {xs : List SecurityEvent} (collapsible : Collapsible xs)
    (fresh : (xs.filterMap SecurityEvent.correlationKey).Nodup) (ys : List SecurityEvent) : BatchIndependent xs ys := by
  have keys : (xs.map marked).filterMap SecurityEvent.correlationKey = xs.filterMap SecurityEvent.correlationKey := by
    rw [List.filterMap_map, show SecurityEvent.correlationKey ∘ marked = _ from funext correlationKey_marked]
  have again : dedupeByCorrelationKey (xs.map marked) = .ok (xs.map marked) := by
    have alike : Collapsible (xs.map marked) := fun key =>
      (collapsible key).congr (sightings_map_marked xs key).symm
    rw [dedupe_of_nodup alike (keys ▸ fresh), List.map_map,
      show marked ∘ marked = marked from funext marked_marked]
  rw [BatchIndependent, dedupe_of_nodup collapsible fresh]
  refine ⟨again, sameSummaries_of_sightings ?_⟩
  intro key
  rw [keyed_append, keyed_append, List.map_append, List.map_append, sightings_map_marked]

/-- A second pass finds the representative alone under its key, and counts it once. -/
theorem nodup_of_idempotent {xs : List SecurityEvent} (collapsible : Collapsible xs)
    (idempotent : (dedupeByCorrelationKey xs >>= dedupeByCorrelationKey) = dedupeByCorrelationKey xs) :
    (xs.filterMap SecurityEvent.correlationKey).Nodup := by
  rw [dedupe_ok collapsible] at idempotent
  obtain ⟨_, fixed⟩ := dedupe_ok_iff.mp idempotent
  rw [List.nodup_iff_count_le_one]
  intro key
  rw [ByKey.count_filterMap]
  have first := keyed_dedupe xs key
  have second := keyed_dedupe (afterCollapse xs) key
  rw [← fixed, first] at second
  by_cases absent : keyed xs key = []
  · simp [absent]
  · rw [if_neg absent, if_neg (List.cons_ne_nil _ _), List.singleton_inj] at second
    have counts := congrArg (fun event => (summary event).occurrenceCount) second
    have found : keyed (afterCollapse xs) key ≠ [] := by
      rw [first, if_neg absent]
      exact List.cons_ne_nil _ _
    rw [occurrenceCount_representative absent, occurrenceCount_representative found, first, if_neg absent] at counts
    exact (Option.some.inj counts).le

/-- Batches can be collapsed one by one exactly as long as a batch holds no key twice
(or its timestamps keep it from being collapsed at all). -/
theorem batchIndependent_iff (xs ys : List SecurityEvent) :
    BatchIndependent xs ys ↔ ¬ Collapsible xs ∨ (xs.filterMap SecurityEvent.correlationKey).Nodup := by
  by_cases collapsible : Collapsible xs
  · rw [or_iff_right (not_not_intro collapsible)]
    constructor
    · intro independent
      exact nodup_of_idempotent collapsible independent.1
    · intro fresh
      exact batchIndependent_of_nodup collapsible fresh ys
  · rw [iff_true_right (.inl collapsible), BatchIndependent]
    obtain ⟨error, failed⟩ := dedupe_error collapsible
    have whole : ¬ Collapsible (xs ++ ys) := by
      intro all
      apply collapsible
      intro key
      apply (all key).subset
      rw [keyed_append]
      exact List.subset_append_left ..
    obtain ⟨wholeError, wholeFailed⟩ := dedupe_error whole
    rw [failed, wholeFailed]
    exact ⟨rfl, trivial⟩

private def alert (number observedAt : String) : SecurityEvent where
  id := "env-" ++ number
  eventId := "falco-" ++ number
  observedAt := observedAt
  source := "falco"
  assetId := some "a1"
  severityNormalized := some "high"
  correlation := some { correlationKey := some "attack-xyz" }

/-- Two alerts of one attack: the second pass counts one, and drops a reference. -/
theorem second_pass_forgets :
    let alerts := [alert "1" "2026-08-18T10:00:00Z", alert "2" "2026-08-18T10:00:01Z"]
    ¬ BatchIndependent alerts [] ∧
      (dedupeByCorrelationKey alerts).map (·.map summary) =
        .ok [⟨some 2, some "2026-08-18T10:00:00Z", some "2026-08-18T10:00:01Z", some {"env-1", "env-2"}⟩] ∧
      (dedupeByCorrelationKey alerts >>= dedupeByCorrelationKey).map (·.map summary) =
        .ok [⟨some 1, some "2026-08-18T10:00:00Z", some "2026-08-18T10:00:00Z", some {"env-1"}⟩] := by
  refine ⟨?_, ?_, ?_⟩
  · intro independent
    have same := congrArg (fun result => result.map (·.map summary)) independent.1
    revert same
    decide
  · decide
  · decide

end ArgosCore.Proofs
