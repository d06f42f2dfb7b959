import ArgosCore.Proofs.Timestamps

/-! What the collapse of correlated events computes: whether it raises depends on the
timestamps of every key, and otherwise each key is left with its representative. -/

namespace ArgosCore.Proofs
open IsoTime

structure Comparable (events : List SecurityEvent) : Prop where
  readable : ∀ event ∈ events, (fromisoformat event.observedAt).isSome
  oneKind : (∀ event ∈ events, isAware event.observedAt = true) ∨ ∀ event ∈ events, isAware event.observedAt = false

theorem Comparable.of_seen {events others : List SecurityEvent} (comparable : Comparable events)
    (seen : ∀ event ∈ others, ∃ other ∈ events, other.observedAt = event.observedAt) : Comparable others where
  readable event inside := by
    obtain ⟨other, found, same⟩ := seen event inside
    exact same ▸ comparable.readable other found
  oneKind := by
    apply comparable.oneKind.imp
    · intro all event inside
      obtain ⟨other, found, same⟩ := seen event inside
      exact same ▸ all other found
    · intro all event inside
      obtain ⟨other, found, same⟩ := seen event inside
      exact same ▸ all other found

theorem Comparable.subset {events others : List SecurityEvent} (comparable : Comparable events)
    (subset : others ⊆ events) : Comparable others :=
  comparable.of_seen fun event inside => ⟨event, subset inside, rfl⟩

theorem Comparable.nil : Comparable [] := ⟨by simp, .inl (by simp)⟩

def oldestFirst (events : List SecurityEvent) : List SecurityEvent :=
  ByKey.sortedOn (fun event => timeOf event.observedAt) events

theorem oldestFirst_ne_nil {events : List SecurityEvent} (nonempty : events ≠ []) : oldestFirst events ≠ [] := by
  rwa [oldestFirst, Ne, ← List.length_eq_zero_iff, ByKey.length_sortedOn, List.length_eq_zero_iff]

theorem mapM_parse_iff {events : List SecurityEvent} {times : List DateTime} :
    events.mapM (fun event => parse event.observedAt) = .ok times ↔
      ReadStamps (events.map SecurityEvent.observedAt) times := by
  have read (stamp : String) (time : DateTime) : parse stamp = .ok time ↔ fromisoformat stamp = some time := by
    rw [parse]
    cases fromisoformat stamp <;> simp
  simp only [Fallible.mapM_ok_iff, read, ReadStamps, List.forall₂_map_left_iff]

theorem comparable_iff_stamps {events : List SecurityEvent} :
    Comparable events ↔ ComparableStamps (events.map SecurityEvent.observedAt) := by
  constructor
  · intro ⟨readable, oneKind⟩
    exact ⟨by simpa using readable, by simpa using oneKind⟩
  · intro ⟨readable, oneKind⟩
    exact ⟨by simpa using readable, by simpa using oneKind⟩

theorem sortByTime_ok_iff {events : List SecurityEvent} {ordered : List (Int × SecurityEvent)} :
    sortByTime events = .ok ordered ↔
      Comparable events ∧ (oldestFirst events).map (fun event => (timeOf event.observedAt, event)) = ordered := by
  rw [sortByTime, Fallible.bind_ok_iff, comparable_iff_stamps]
  constructor
  · intro ⟨times, parsed, done⟩
    have read := mapM_parse_iff.mp parsed
    by_cases oneKind : (times.all (·.offset.isSome) || times.all (·.offset.isNone)) = true
    · rw [orderBy, if_pos oneKind, read.sortedOn_points] at done
      exact ⟨read.comparable_iff.mpr oneKind, Except.ok.inj done⟩
    · rw [orderBy, if_neg oneKind] at done
      cases done
  · rintro ⟨comparable, rfl⟩
    obtain ⟨times, read⟩ := exists_readStamps comparable.readable
    refine ⟨times, mapM_parse_iff.mpr read, ?_⟩
    rw [orderBy, if_pos (read.comparable_iff.mp comparable), read.sortedOn_points]
    rfl

theorem sortByTime_ok {events : List SecurityEvent} (comparable : Comparable events) :
    sortByTime events = .ok ((oldestFirst events).map fun event => (timeOf event.observedAt, event)) :=
  sortByTime_ok_iff.mpr ⟨comparable, rfl⟩

theorem sortByTime_error {events : List SecurityEvent} (incomparable : ¬ Comparable events) :
    ∃ error, sortByTime events = .error error := by
  cases sorted : sortByTime events with
  | error error => exact ⟨error, rfl⟩
  | ok ordered => exact absurd (sortByTime_ok_iff.mp sorted).1 incomparable

theorem correlationKey_ne_empty {event : SecurityEvent} {key : String} (found : event.correlationKey = some key) :
    key ≠ "" := by
  rw [SecurityEvent.correlationKey, Option.filter_eq_some_iff] at found
  exact of_decide_eq_true found.2

theorem correlationKey_collapsed {key : String} (truthy : key ≠ "") (base : SecurityEvent)
    (others : List SecurityEvent) : (collapsed key base others).correlationKey = some key := by
  rw [SecurityEvent.correlationKey, Option.filter_eq_some_iff]
  exact ⟨rfl, decide_eq_true truthy⟩

abbrev keyed (events : List SecurityEvent) (key : String) : List SecurityEvent :=
  ByKey.members SecurityEvent.correlationKey events key

def representative (events : List SecurityEvent) (key : String) : SecurityEvent :=
  let ordered := oldestFirst (keyed events key)
  collapsed key (ordered.headD default) ordered.tail

abbrev afterCollapse (events : List SecurityEvent) : List SecurityEvent :=
  ByKey.firstOfEach SecurityEvent.correlationKey (representative events) events []

theorem collapse_ok {group : List SecurityEvent} (comparable : Comparable group) (nonempty : group ≠ []) (key : String) :
    collapse key group = .ok (collapsed key ((oldestFirst group).headD default) (oldestFirst group).tail) := by
  rw [collapse, sortByTime_ok comparable]
  obtain ⟨base, others, found⟩ := List.exists_cons_of_ne_nil (oldestFirst_ne_nil nonempty)
  simp [found, bind, Except.bind, Function.comp_def]
  rfl

theorem collapse_error {group : List SecurityEvent} (incomparable : ¬ Comparable group) (key : String) :
    ∃ error, collapse key group = .error error := by
  obtain ⟨error, failed⟩ := sortByTime_error incomparable
  rw [collapse, failed]
  exact ⟨error, rfl⟩

/-- No key has timestamps that cannot be read or compared. -/
def Collapsible (events : List SecurityEvent) : Prop := ∀ key, Comparable (keyed events key)

theorem emit_ok {grouped : Dict (List SecurityEvent)} {stands : String → SecurityEvent} {events : List SecurityEvent}
    (collapses : ∀ event ∈ events, ∀ key, event.correlationKey = some key →
      collapse key ((grouped.lookup key).getD []) = .ok (stands key)) (emitted : List String) :
    emit grouped events emitted = .ok (ByKey.firstOfEach SecurityEvent.correlationKey stands events emitted) := by
  induction events generalizing emitted with
  | nil => rfl
  | cons event events ih =>
    have rest := ih fun other inside => collapses other (List.mem_cons_of_mem _ inside)
    rw [emit]
    cases found : event.correlationKey with
    | none =>
      rw [ByKey.firstOfEach_unkeyed found]
      simp only [rest]
      rfl
    | some key =>
      by_cases old : key ∈ emitted
      · rw [ByKey.firstOfEach_seen found old]
        simp only [if_pos old, rest]
      · rw [ByKey.firstOfEach_new found old]
        simp only [if_neg old, collapses event List.mem_cons_self key found, rest]
        rfl

/-- A loop that comes to its end has collapsed every key that it met for the first time. -/
theorem collapse_of_emit {grouped : Dict (List SecurityEvent)} {events result : List SecurityEvent} {emitted : List String}
    (done : emit grouped events emitted = .ok result) {event : SecurityEvent} (inside : event ∈ events) {key : String}
    (found : event.correlationKey = some key) (new : key ∉ emitted) :
    ∃ standing, collapse key ((grouped.lookup key).getD []) = .ok standing := by
  induction events generalizing emitted result with
  | nil => cases inside
  | cons head events ih =>
    rw [emit] at done
    cases headKey : head.correlationKey with
    | none =>
      simp only [headKey, Fallible.bind_ok_iff] at done
      obtain ⟨others, rest, _⟩ := done
      rcases List.mem_cons.mp inside with rfl | later
      · cases headKey.symm.trans found
      · exact ih rest later new
    | some other =>
      simp only [headKey] at done
      by_cases same : other = key
      · subst same
        simp only [if_neg new, Fallible.bind_ok_iff] at done
        obtain ⟨standing, collapses, _⟩ := done
        exact ⟨standing, collapses⟩
      · have later : event ∈ events := by
          rcases List.mem_cons.mp inside with rfl | later
          · exact absurd (Option.some.inj (headKey.symm.trans found)) same
          · exact later
        split at done
        next => exact ih done later new
        next =>
          simp only [Fallible.bind_ok_iff] at done
          obtain ⟨_, _, others, rest, _⟩ := done
          exact ih rest later (by simp [new, Ne.symm same])

theorem grouped_getD (events : List SecurityEvent) (key : String) :
    ((ByKey.groupBy SecurityEvent.correlationKey events).lookup key).getD [] = keyed events key := by
  rw [ByKey.lookup_groupBy]
  split <;> simp_all

theorem keyed_ne_nil {events : List SecurityEvent} {event : SecurityEvent} {key : String} (inside : event ∈ events)
    (found : event.correlationKey = some key) : keyed events key ≠ [] := by
  intro none
  exact ByKey.members_eq_nil_iff.mp none event inside found

/-- The specification of `dedupe_by_correlation_key`. -/
theorem dedupe_ok {events : List SecurityEvent} (collapsible : Collapsible events) :
    dedupeByCorrelationKey events = .ok (afterCollapse events) := by
  apply emit_ok
  intro event inside key found
  rw [grouped_getD]
  exact collapse_ok (collapsible key) (keyed_ne_nil inside found) key

theorem collapsible_of_ok {events result : List SecurityEvent} (done : dedupeByCorrelationKey events = .ok result) :
    Collapsible events := by
  intro key
  by_contra bad
  have nonempty : keyed events key ≠ [] := by
    intro none
    rw [none] at bad
    exact bad .nil
  obtain ⟨event, inside⟩ := List.exists_mem_of_ne_nil _ nonempty
  obtain ⟨among, found⟩ := List.mem_filter.mp inside
  obtain ⟨standing, collapses⟩ := collapse_of_emit done among (of_decide_eq_true found) List.not_mem_nil
  rw [grouped_getD] at collapses
  obtain ⟨error, failed⟩ := collapse_error bad key
  cases failed.symm.trans collapses

theorem dedupe_ok_iff {events result : List SecurityEvent} :
    dedupeByCorrelationKey events = .ok result ↔ Collapsible events ∧ result = afterCollapse events := by
  constructor
  · intro done
    have collapsible := collapsible_of_ok done
    exact ⟨collapsible, Except.ok.inj (done.symm.trans (dedupe_ok collapsible))⟩
  · rintro ⟨collapsible, rfl⟩
    exact dedupe_ok collapsible

theorem dedupe_error {events : List SecurityEvent} (incomparable : ¬ Collapsible events) :
    ∃ error, dedupeByCorrelationKey events = .error error := by
  cases done : dedupeByCorrelationKey events with
  | error error => exact ⟨error, rfl⟩
  | ok result => exact absurd (collapsible_of_ok done) incomparable

theorem keyed_dedupe (events : List SecurityEvent) (key : String) :
    keyed (afterCollapse events) key = if keyed events key = [] then [] else [representative events key] := by
  have stands : ∀ event ∈ events, ∀ name, event.correlationKey = some name →
      (representative events name).correlationKey = some name := by
    intro event _ name found
    exact correlationKey_collapsed (correlationKey_ne_empty found) _ _
  simpa only [List.not_mem_nil, false_or] using ByKey.members_firstOfEach stands [] key

end ArgosCore.Proofs
