import ArgosCore.Proofs.MessageSeal

/-! Exports at several traffic light levels. A copy can be redacted again on its way: what comes
out is the one export at the strictest of the levels, and the hash in it tells whether anything
was left out. -/

namespace ArgosCore.Proofs
open Dict

/-- The levels, the most restrictive one first. -/
def trafficLights : List String := optionalFieldsAllowed.map Prod.fst

def stricter (one other : String) : String :=
  if trafficLights.idxOf one ≤ trafficLights.idxOf other then one else other

def withheld (tlp : String) : List String :=
  optionalFields.filter (· ∉ (optionalFieldsAllowed.lookup tlp).getD [])

def generalise (redacted : Json.Object) : Except HandoverError Json.Object := do
  let summarised := redacted.set "incident_summary" (.str redactedSummary)
  let entries ← iterate (Json.getOr summarised "timeline" (.arr []))
  let timeline ← entries.mapM redactEntry
  return summarised.set "timeline" (.arr timeline)

theorem redactForTlp_eq {tlp : String} (known : tlp ∈ trafficLights) (payload : Json.Object) :
    redactForTlp payload tlp =
      if tlp = "RED" then generalise (payload.opened (withheld tlp)) else .ok (payload.opened (withheld tlp)) := by
  simp only [trafficLights, optionalFieldsAllowed, List.map_cons, List.map_nil, List.mem_cons, List.not_mem_nil,
    or_false] at known
  rw [← foldl_erase_eq]
  rcases known with rfl | rfl | rfl | rfl <;> rfl

theorem withheld_mono {one other : String} (known : one ∈ trafficLights) (knownToo : other ∈ trafficLights)
    (below : trafficLights.idxOf one ≤ trafficLights.idxOf other) : withheld other ⊆ withheld one := by
  have all : ∀ one ∈ trafficLights, ∀ other ∈ trafficLights,
      trafficLights.idxOf one ≤ trafficLights.idxOf other → withheld other ⊆ withheld one := by decide
  exact all one known other knownToo below

private theorem redactEntry_again {entry redacted : Json} (done : redactEntry entry = .ok redacted) :
    redactEntry redacted = .ok redacted := by
  cases entry with
  | obj members =>
    obtain rfl := Except.ok.inj done
    rw [redactEntry, set_self]
    rw [lookup_set, if_pos rfl]
  | _ => cases done

theorem generalise_ok {redacted copy : Json.Object} (done : generalise redacted = .ok copy) :
    ∃ timeline, (∀ entry ∈ timeline, redactEntry entry = .ok entry) ∧
      copy = (redacted.set "incident_summary" (.str redactedSummary)).set "timeline" (.arr timeline) := by
  simp only [generalise, Fallible.bind_ok_iff] at done
  obtain ⟨entries, _, timeline, described, returned⟩ := done
  refine ⟨timeline, fun entry member => ?_, (Except.ok.inj returned).symm⟩
  obtain ⟨source, _, same⟩ := Fallible.mem_of_mapM_ok described entry member
  exact redactEntry_again same

theorem generalise_again {redacted copy : Json.Object} (done : generalise redacted = .ok copy) :
    generalise copy = .ok copy := by
  obtain ⟨timeline, fixed, rfl⟩ := generalise_ok done
  have summary : ((redacted.set "incident_summary" (.str redactedSummary)).set "timeline" (.arr timeline)).set
      "incident_summary" (.str redactedSummary) =
        (redacted.set "incident_summary" (.str redactedSummary)).set "timeline" (.arr timeline) := by
    apply set_self
    simp
  have held : ((redacted.set "incident_summary" (.str redactedSummary)).set "timeline" (.arr timeline)).lookup "timeline" =
      some (.arr timeline) := by
    simp
  simp only [generalise, summary, Json.getOr, held, Option.getD_some, iterate, bind, Except.bind,
    Fallible.mapM_eq_self fixed, set_self held]
  rfl

theorem generalise_opened {redacted copy : Json.Object} (done : generalise (redacted.opened optionalFields) = .ok copy)
    {names : List String} (optional : names ⊆ optionalFields) : copy.opened names = copy := by
  obtain ⟨timeline, _, rfl⟩ := generalise_ok done
  apply opened_eq_self
  intro key member inside
  have among := optional inside
  rcases (mem_keys_set ..).mp member with rfl | member
  · exact absurd among (by decide)
  rcases (mem_keys_set ..).mp member with rfl | member
  · exact absurd among (by decide)
  · exact (mem_keys_opened.mp member).2 among

theorem withheld_subset (tlp : String) : withheld tlp ⊆ optionalFields := List.filter_sublist.subset

theorem withheld_red : withheld "RED" = optionalFields := by decide

theorem stricter_cases {one other : String} (known : one ∈ trafficLights) (knownToo : other ∈ trafficLights) :
    withheld (stricter one other) = withheld one ∧ withheld other ⊆ withheld one ∨
      withheld (stricter one other) = withheld other ∧ withheld one ⊆ withheld other := by
  rw [stricter]
  split
  next below => exact .inl ⟨rfl, withheld_mono known knownToo below⟩
  next above => exact .inr ⟨rfl, withheld_mono knownToo known (by omega)⟩

theorem stricter_eq_red_iff {one other : String} (known : one ∈ trafficLights) (knownToo : other ∈ trafficLights) :
    stricter one other = "RED" ↔ one = "RED" ∨ other = "RED" := by
  have all : ∀ one ∈ trafficLights, ∀ other ∈ trafficLights, stricter one other = "RED" ↔ one = "RED" ∨ other = "RED" := by
    decide
  exact all one known other knownToo

theorem stricter_known {one other : String} (known : one ∈ trafficLights) (knownToo : other ∈ trafficLights) :
    stricter one other ∈ trafficLights := by
  rw [stricter]
  split
  · exact known
  · exact knownToo

theorem opened_stricter {one other : String} (known : one ∈ trafficLights) (knownToo : other ∈ trafficLights)
    (payload : Json.Object) :
    (payload.opened (withheld one)).opened (withheld other) = payload.opened (withheld (stricter one other)) := by
  rcases stricter_cases known knownToo with ⟨same, within⟩ | ⟨same, within⟩
  · rw [same, opened_comm, opened_of_subset within]
  · rw [same, opened_of_subset within]

/-- To redact a copy again is to redact the original once, at the stricter level. -/
theorem redact_redact {one other : String} (known : one ∈ trafficLights) (knownToo : other ∈ trafficLights)
    (payload : Json.Object) :
    (redactForTlp payload one >>= fun copy => redactForTlp copy other) = redactForTlp payload (stricter one other) := by
  have strictest := stricter_eq_red_iff known knownToo
  rw [redactForTlp_eq known, redactForTlp_eq (stricter_known known knownToo)]
  by_cases first : one = "RED"
  · subst first
    have red := strictest.mpr (.inl rfl)
    rw [if_pos rfl, if_pos red, red]
    cases done : generalise (payload.opened (withheld "RED")) with
    | error error => rfl
    | ok copy =>
      -- the copy has no optional field left, and generalising it again changes nothing
      rw [withheld_red] at done
      change redactForTlp copy other = .ok copy
      rw [redactForTlp_eq knownToo, generalise_opened done (withheld_subset other), generalise_again done, ite_self]
  · rw [if_neg first]
    change redactForTlp (payload.opened (withheld one)) other = _
    rw [redactForTlp_eq knownToo, opened_stricter known knownToo]
    by_cases second : other = "RED"
    · rw [if_pos second, if_pos (strictest.mpr (.inr second))]
    · rw [if_neg second, if_neg (mt strictest.mp (by simp [first, second]))]

/-- However often a copy is redacted on its way, it is the export at the strictest of the levels. -/
theorem redact_route {first : String} {levels : List String} (known : ∀ level ∈ first :: levels, level ∈ trafficLights)
    (payload : Json.Object) :
    (first :: levels).foldlM redactForTlp payload = redactForTlp payload (levels.foldl stricter first) := by
  induction levels generalizing first with
  | nil =>
    rw [List.foldlM_cons]
    exact bind_pure _
  | cons second levels ih =>
    have firstKnown := known first List.mem_cons_self
    have secondKnown := known second (List.mem_cons_of_mem _ List.mem_cons_self)
    have later (level : String) (member : level ∈ stricter first second :: levels) : level ∈ trafficLights := by
      rcases List.mem_cons.mp member with rfl | rest
      · exact stricter_known firstKnown secondKnown
      · exact known level (List.mem_cons_of_mem _ (List.mem_cons_of_mem _ rest))
    calc (first :: second :: levels).foldlM redactForTlp payload
        = (redactForTlp payload first >>= fun copy => redactForTlp copy second) >>= levels.foldlM redactForTlp := by
          rw [List.foldlM_cons, bind_assoc]
          rfl
      _ = (stricter first second :: levels).foldlM redactForTlp payload := by
          rw [redact_redact firstKnown secondKnown, List.foldlM_cons]
      _ = redactForTlp payload ((second :: levels).foldl stricter first) := ih later

private theorem redactEntry_distinct {entry redacted : Json} (distinct : entry.Distinct)
    (done : redactEntry entry = .ok redacted) : redacted.Distinct := by
  cases entry with
  | obj members =>
    obtain rfl := Except.ok.inj done
    refine ⟨nodup_set distinct.1 _ _, Json.distinctMembers_iff.mpr fun member inside => ?_⟩
    rcases mem_of_mem_set inside with rfl | held
    · trivial
    · exact Json.distinctMembers_iff.mp distinct.2 member held
  | _ => cases done

theorem generalise_distinct {redacted copy : Json.Object} (distinct : (Json.obj redacted).Distinct)
    (done : generalise redacted = .ok copy) : (Json.obj copy).Distinct := by
  simp only [generalise, Fallible.bind_ok_iff] at done
  obtain ⟨entries, listed, timeline, described, returned⟩ := done
  obtain rfl := Except.ok.inj returned
  have summarised := Json.distinct_set distinct "incident_summary" (.str redactedSummary) trivial
  refine Json.distinct_set summarised "timeline" _ (Json.distinctItems_iff.mpr fun entry member => ?_)
  obtain ⟨source, inside, same⟩ := Fallible.mem_of_mapM_ok described entry member
  have nothing : (Json.arr []).Distinct := Json.distinctItems_iff.mpr (by simp)
  exact redactEntry_distinct (iterate_distinct (distinct_getOr summarised nothing "timeline") listed source inside) same

theorem redactForTlp_known {payload copy : Json.Object} {tlp : String} (redacted : redactForTlp payload tlp = .ok copy) :
    tlp ∈ trafficLights := by
  rw [redactForTlp] at redacted
  split at redacted
  · cases redacted
  next allowed found => exact List.mem_map.mpr ⟨_, mem_of_lookup found, rfl⟩

theorem redactForTlp_distinct {payload copy : Json.Object} {tlp : String} (distinct : (Json.obj payload).Distinct)
    (redacted : redactForTlp payload tlp = .ok copy) : (Json.obj copy).Distinct := by
  rw [redactForTlp_eq (redactForTlp_known redacted)] at redacted
  split at redacted
  · exact generalise_distinct (distinct_opened distinct) redacted
  · obtain rfl := Except.ok.inj redacted
    exact distinct_opened distinct

theorem lookup_redacted {payload copy : Json.Object} {tlp : String} (redacted : redactForTlp payload tlp = .ok copy)
    (key : String) (untouched : key ∉ optionalFields ∧ key ≠ "incident_summary" ∧ key ≠ "timeline") :
    copy.lookup key = payload.lookup key := by
  obtain ⟨required, noSummary, noTimeline⟩ := untouched
  have kept : (payload.opened (withheld tlp)).lookup key = payload.lookup key := by
    rw [lookup_opened, if_neg fun inside => required (withheld_subset tlp inside)]
  rw [redactForTlp_eq (redactForTlp_known redacted)] at redacted
  split at redacted
  · obtain ⟨timeline, _, rfl⟩ := generalise_ok redacted
    rw [lookup_set, if_neg noTimeline, lookup_set, if_neg noSummary, kept]
  · obtain rfl := Except.ok.inj redacted
    exact kept

private theorem optionalFields_apart : ∀ field ∈ optionalFields, field ∉ envelopeFields := by decide

/-- Three hops, the middle one the strictest. -/
theorem redact_route_red :
    let entry (description : String) : Json := .obj [("timestamp", .str "10:00"), ("description", .str description)]
    let payload : Json.Object :=
      [("incident_summary", .str "INC-1"), ("timeline", .arr [entry "falco: evt-1"]), ("actions", .arr [])]
    ["GREEN", "RED", "AMBER"].foldlM redactForTlp payload = redactForTlp payload "RED" ∧
      redactForTlp payload "RED" = .ok [("incident_summary", .str redactedSummary), ("timeline", .arr [entry ""])] :=
  ⟨redact_route (by decide) _, rfl⟩

section
variable [Runtime]

private theorem handoverSummary_ne (request : HandoverRequest) (incidentId : Json) :
    handoverSummary request incidentId ≠ redactedSummary := by
  intro same
  have heads := congrArg (fun text => text.toList.head?) same
  simp [handoverSummary, redactedSummary] at heads

/-- A copy still has the hash of its own content exactly when nothing was taken out of it. -/
theorem redacted_seal_iff (free : CollisionFree) {validate : Json.Object → List String} {context : EnvelopeContext}
    {request : HandoverRequest} {draw : Draw} {handover copy : Json.Object} {tlp : String}
    (returned : buildHandover validate context request draw = .ok handover) (distinct : (Json.obj handover).Distinct)
    (redacted : redactForTlp handover tlp = .ok copy) :
    SealHolds copy ↔ tlp ≠ "RED" ∧ ∀ field ∈ withheld tlp, handover.lookup field = none := by
  have copied := redactForTlp_distinct distinct redacted
  have kept := lookup_redacted redacted "payload_hash" (by decide)
  rw [sealHolds_copy_iff free (Emitted.handover returned).sealHolds distinct copied kept,
    Json.sortKeys_eq_iff_lookup (payloadPart_distinct copied).1 (payloadPart_distinct distinct).1]
  rw [redactForTlp_eq (redactForTlp_known redacted)] at redacted
  by_cases red : tlp = "RED"
  · rw [if_pos red] at redacted
    obtain ⟨timeline, _, rfl⟩ := generalise_ok redacted
    simp only [red, ne_eq, not_true_eq_false, false_and, iff_false]
    intro lookups
    obtain ⟨incidentId, assets, _, _, rfl⟩ := buildHandover_ok returned
    have summaries := lookups "incident_summary"
    rw [payloadPart, lookup_opened, if_neg (by decide), lookup_set, if_neg (by decide), lookup_set, if_pos rfl, payloadPart,
      enveloped, (buildEnvelope_heads ..).opened_setAll (payloadOf_fits ..)] at summaries
    exact handoverSummary_ne request incidentId (Json.str.inj (Option.some.inj summaries)).symm
  · rw [if_neg red] at redacted
    obtain rfl := Except.ok.inj redacted
    have plain (field : String) (inside : field ∈ withheld tlp) : field ∉ envelopeFields :=
      optionalFields_apart field (withheld_subset tlp inside)
    simp only [red, ne_eq, not_false_eq_true, true_and]
    constructor
    · intro lookups field inside
      have here := lookups field
      rw [payloadPart, lookup_opened, if_neg (plain field inside), lookup_opened, if_pos inside, payloadPart, lookup_opened,
        if_neg (plain field inside)] at here
      simpa using here.symm
    · intro absent key
      rw [payloadPart, payloadPart, lookup_opened, lookup_opened, lookup_opened]
      by_cases inside : key ∈ withheld tlp
      · rw [if_pos inside, absent key inside]
      · rw [if_neg inside]

end

private def caseRequest : HandoverRequest where
  incident := [("incident_id", .str "inc-x"), ("severity", .str "high")]
  residualRisk := "bajo"
  evidenceManifestRef := "ref-1"
  tlp := "AMBER"
  actions := some ["isolate"]

private def caseContext : EnvelopeContext where
  producer := "soc-adapter"
  runId := "run-1"

private def caseHandover [Runtime] : Json.Object :=
  enveloped caseContext (newIdPrefixed "case" 0) ⟨0, 0⟩
    (payloadOf (newIdPrefixed "case" 0) (handoverSummary caseRequest (.str "inc-x")) [] caseRequest)

private theorem caseHandover_built [Runtime] :
    buildHandover (fun _ => []) caseContext caseRequest ⟨0, 0⟩ = .ok caseHandover := rfl

private theorem caseHandover_distinct [Runtime] : (Json.obj caseHandover).Distinct := by
  apply enveloped_distinct
  refine payloadOf_distinct _ _ ?_ rfl
  simp [caseRequest, Json.Distinct, Json.DistinctMembers]

/-- Of a handover with nothing but actions the second level takes out nothing, the first one does. -/
theorem redacted_seal_iff_actions :
    letI := Runtime.transparent
    ∃ amber red, redactForTlp caseHandover "AMBER" = .ok amber ∧ redactForTlp caseHandover "RED" = .ok red ∧
      SealHolds amber ∧ ¬ SealHolds red := by
  let _ := Runtime.transparent
  have amber : redactForTlp caseHandover "AMBER" = .ok _ := redactForTlp_eq (by decide) _
  have red : redactForTlp caseHandover "RED" = .ok (redExport caseHandover []) := redactForTlp_red rfl
  have second := redacted_seal_iff Runtime.transparent_collisionFree caseHandover_built caseHandover_distinct amber
  have first := redacted_seal_iff Runtime.transparent_collisionFree caseHandover_built caseHandover_distinct red
  refine ⟨_, _, amber, red, second.mpr ⟨by decide, ?_⟩, fun holds => (first.mp holds).1 rfl⟩
  have taken : withheld "AMBER" = ["attack_techniques", "iocs"] := by decide
  rw [taken]
  simp only [List.forall_mem_cons]
  exact ⟨rfl, rfl, by simp⟩

end ArgosCore.Proofs
