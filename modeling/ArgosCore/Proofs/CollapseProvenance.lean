import ArgosCore.Proofs.CorrelatorCollapse
import Mathlib.Data.List.Pairwise

/-! What the collapse keeps of its events. Every identifier that came in is named by
exactly one output, keys do not touch each other, and the summary of a key is the one
of its own events. -/

namespace ArgosCore.Proofs

def relatedRefs (event : SecurityEvent) : List String := (event.correlation.bind Correlation.relatedEventRefs).getD []

structure Summarises (group : List SecurityEvent) (output : SecurityEvent) : Prop where
  count : output.correlation.bind Correlation.occurrenceCount = some group.length
  firstSeen : ∃ first ∈ group, output.correlation.bind Correlation.firstSeen = some first.observedAt ∧
    ∀ event ∈ group, timeOf first.observedAt ≤ timeOf event.observedAt
  lastSeen : ∃ last ∈ group, output.correlation.bind Correlation.lastSeen = some last.observedAt ∧
    ∀ event ∈ group, timeOf event.observedAt ≤ timeOf last.observedAt
  refs : (relatedRefs output).Perm (group.map SecurityEvent.id)

def withoutOthers (events : List SecurityEvent) (key : String) : List SecurityEvent :=
  events.filter fun event => event.correlationKey.all (· = key)

structure Conserves (events result : List SecurityEvent) : Prop where
  unchanged : result.filter (·.correlationKey = none) = events.filter (·.correlationKey = none)
  provenance : ((result.filter (·.correlationKey = none)).map SecurityEvent.id ++ result.flatMap relatedRefs).Perm
    (events.map SecurityEvent.id)
  summaries : ∀ key, keyed events key ≠ [] → ∃ output, keyed result key = [output] ∧ Summarises (keyed events key) output
  independent : ∀ key, ∃ alone, dedupeByCorrelationKey (withoutOthers events key) = .ok alone ∧
    keyed alone key = keyed result key
  ordered : List.Forall₂ (fun output first : SecurityEvent => output.correlationKey = first.correlationKey ∧
    (first.correlationKey = none → output = first)) result (ByKey.firsts SecurityEvent.correlationKey events)

theorem representative_summarises {events : List SecurityEvent} {key : String} (occurs : keyed events key ≠ []) :
    Summarises (keyed events key) (representative events key) := by
  obtain ⟨base, others, found⟩ := List.exists_cons_of_ne_nil (oldestFirst_ne_nil occurs)
  have perm : (base :: others).Perm (keyed events key) := found ▸ ByKey.sortedOn_perm _ _
  have ordered := ByKey.pairwise_sortedOn (fun event : SecurityEvent => timeOf event.observedAt) (keyed events key)
  rw [← oldestFirst, found] at ordered
  have stands : representative events key = collapsed key base others := by
    simp only [representative, found, List.headD_cons, List.tail_cons]
  rw [stands]
  constructor
  · exact congrArg some perm.length_eq
  · refine ⟨base, perm.mem_iff.mp List.mem_cons_self, rfl, ?_⟩
    intro event inside
    rcases List.mem_cons.mp (perm.mem_iff.mpr inside) with rfl | later
    · exact le_rfl
    · exact (List.pairwise_cons.mp ordered).1 event later
  · refine ⟨_, perm.mem_iff.mp (List.getLast_mem (List.cons_ne_nil base others)), rfl, ?_⟩
    intro event inside
    exact ordered.rel_getLast_of_rel_getLast_getLast (perm.mem_iff.mpr inside) le_rfl
  · exact perm.map SecurityEvent.id

theorem keyed_withoutOthers (events : List SecurityEvent) (key : String) :
    keyed (withoutOthers events key) key = keyed events key := by
  rw [keyed, ByKey.members, withoutOthers, List.filter_filter]
  apply List.filter_congr
  intro event _
  cases found : event.correlationKey <;> simp

theorem withoutOthers_collapsible {events : List SecurityEvent} (collapsible : Collapsible events) (key : String) :
    Collapsible (withoutOthers events key) := by
  intro other
  apply (collapsible other).subset
  exact fun event inside => List.mem_filter.mpr
    ⟨List.mem_of_mem_filter (List.mem_of_mem_filter inside), (List.mem_filter.mp inside).2⟩

private theorem unkeyed_relatedRefs {events : List SecurityEvent} (raw : ∀ event ∈ events, relatedRefs event = [])
    {output : SecurityEvent} (inside : output ∈ afterCollapse events) (unkeyed : output.correlationKey = none) :
    relatedRefs output = [] := by
  rcases ByKey.mem_firstOfEach inside with ⟨among, _⟩ | ⟨first, _, name, found, rfl⟩
  · exact raw output among
  · rw [representative, correlationKey_collapsed (correlationKey_ne_empty found)] at unkeyed
    cases unkeyed

private def accountsFor (output : SecurityEvent) : List String :=
  if output.correlationKey = none then [output.id] else relatedRefs output

private theorem accounted_perm {outputs : List SecurityEvent}
    (bare : ∀ output ∈ outputs, output.correlationKey = none → relatedRefs output = []) :
    ((outputs.filter (·.correlationKey = none)).map SecurityEvent.id ++ outputs.flatMap relatedRefs).Perm
      (outputs.flatMap accountsFor) := by
  induction outputs with
  | nil => exact .refl _
  | cons output outputs ih =>
    have later := ih fun other inside => bare other (List.mem_cons_of_mem _ inside)
    rw [List.flatMap_cons, List.flatMap_cons, accountsFor]
    by_cases unkeyed : output.correlationKey = none
    · rw [List.filter_cons_of_pos (by simpa using unkeyed), if_pos unkeyed, bare output List.mem_cons_self unkeyed]
      exact later.cons _
    · rw [List.filter_cons_of_neg (by simpa using unkeyed), if_neg unkeyed]
      exact List.perm_append_comm_assoc .. |>.trans (later.append_left _)

private theorem correlationKey_representative (events : List SecurityEvent) :
    ∀ event ∈ events, ∀ key, event.correlationKey = some key →
      (representative events key).correlationKey = some key := by
  intro event _ key found
  exact correlationKey_collapsed (correlationKey_ne_empty found) _ _

theorem afterCollapse_conserves {events : List SecurityEvent} (raw : ∀ event ∈ events, relatedRefs event = [])
    (collapsible : Collapsible events) : Conserves events (afterCollapse events) where
  unchanged := ByKey.unkeyed_firstOfEach (correlationKey_representative events) []
  provenance := by
    apply (accounted_perm fun output inside unkeyed => unkeyed_relatedRefs raw inside unkeyed).trans
    have whole : events.filter (ByKey.unseen SecurityEvent.correlationKey []) = events := by
      rw [List.filter_eq_self]
      intro event _
      cases found : event.correlationKey <;> simp [ByKey.unseen, found]
    have accounted : ((afterCollapse events).flatMap accountsFor).Perm
        ((events.filter (ByKey.unseen SecurityEvent.correlationKey [])).map SecurityEvent.id) := by
      apply ByKey.flatMap_firstOfEach_perm
      · exact fun event _ unkeyed => if_pos unkeyed
      · intro key occurs _
        obtain ⟨event, inside, found⟩ := List.mem_filterMap.mp occurs
        rw [accountsFor, if_neg (by simp [correlationKey_representative events event inside key found])]
        exact (representative_summarises (keyed_ne_nil inside found)).refs
    rwa [whole] at accounted
  summaries := by
    intro key occurs
    exact ⟨_, by rw [keyed_dedupe, if_neg occurs], representative_summarises occurs⟩
  independent := by
    intro key
    refine ⟨_, dedupe_ok (withoutOthers_collapsible collapsible key), ?_⟩
    rw [keyed_dedupe, keyed_dedupe, representative, keyed_withoutOthers, ← representative]
  ordered := by
    rw [afterCollapse, ByKey.firstOfEach_eq_map_firsts, List.forall₂_map_left_iff, List.forall₂_same]
    intro first inside
    cases found : first.correlationKey with
    | none => simp [found]
    | some key => simp [correlationKey_collapsed (correlationKey_ne_empty found), representative]

/-- The collapse returns when the times of each key can be compared, and then it has
lost, mixed and reordered nothing. -/
theorem collapse_conserves (events : List SecurityEvent) (raw : ∀ event ∈ events, relatedRefs event = []) :
    ((∃ result, dedupeByCorrelationKey events = .ok result) ↔ Collapsible events) ∧
      ∀ result, dedupeByCorrelationKey events = .ok result → Conserves events result := by
  simp only [dedupe_ok_iff]
  refine ⟨by simp, ?_⟩
  rintro result ⟨collapsible, rfl⟩
  exact afterCollapse_conserves raw collapsible

private def raw (number observedAt : String) (correlationKey : Option String) : SecurityEvent where
  id := "env-" ++ number
  eventId := "falco-" ++ number
  observedAt
  source := "falco"
  correlation := some { correlationKey }

theorem collapse_conserves_interleaved :
    let events := [raw "1" "2026-08-18T10:00:05Z" (some "a"), raw "2" "2026-08-18T10:00:00Z" (some "b"),
      raw "3" "2026-08-18T10:00:01Z" none, raw "4" "2026-08-18T10:00:02Z" (some "a")]
    ∃ result, dedupeByCorrelationKey events = .ok result ∧ result.length = 3 ∧ Conserves events result := by
  intro events
  have returned : (dedupeByCorrelationKey events).isOk = true := by decide
  cases done : dedupeByCorrelationKey events with
  | error error => simp [done, Except.isOk, Except.toBool] at returned
  | ok result =>
    refine ⟨result, rfl, ?_, (collapse_conserves events (by decide)).2 result done⟩
    have lengths : (dedupeByCorrelationKey events).map List.length = .ok 3 := by decide
    rw [done] at lengths
    exact Except.ok.inj lengths

end ArgosCore.Proofs
