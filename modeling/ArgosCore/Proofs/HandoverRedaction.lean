import ArgosCore.Foundations.Fallible
import ArgosCore.SocAdapter

/-! The export at the most restrictive level. What it leaves out and generalises is not
in the fields of the copy, but the hash of the payload was taken before. -/

namespace ArgosCore.Proofs

def SameButDescription (one other : Json.Object) : Prop := ∀ key, key ≠ "description" → one.lookup key = other.lookup key

def handoverTimeline (request : HandoverRequest) : Json := Json.getOr request.incident "timeline" (.arr [])

/-- Requests that agree in everything that the most restrictive export shows. -/
structure SamePublic (left right : HandoverRequest) : Prop where
  incidentId : left.incident.lookup "incident_id" = right.incident.lookup "incident_id"
  severity : left.incident.lookup "severity" = right.incident.lookup "severity"
  assets : handoverAssets left.incident = handoverAssets right.incident
  residualRisk : left.residualRisk = right.residualRisk
  evidenceManifestRef : left.evidenceManifestRef = right.evidenceManifestRef
  tlp : left.tlp = right.tlp
  timeline : ∃ one other, handoverTimeline left = .arr (one.map .obj) ∧ handoverTimeline right = .arr (other.map .obj) ∧
    List.Forall₂ SameButDescription one other

/-- An optional value as the handover reports it: an empty one is not reported. -/
def reported (value : Json) : Option Json := if value.truthy then some value else none

structure SameHidden (left right : HandoverRequest) : Prop where
  timeline : (handoverTimeline left).sortKeys = (handoverTimeline right).sortKeys
  techniques : (reported (Json.get left.incident "attack_techniques")).map Json.sortKeys =
    (reported (Json.get right.incident "attack_techniques")).map Json.sortKeys
  iocs : left.iocs.getD [] = right.iocs.getD []
  actions : left.actions.getD [] = right.actions.getD []

def SameExport (one other : Json.Object) : Prop :=
  ∃ first second, redactForTlp one "RED" = .ok first ∧ redactForTlp other "RED" = .ok second ∧
    (Json.obj first).sortKeys = (Json.obj second).sortKeys

def requiredFields (caseId summary : String) (assets : List Json) (request : HandoverRequest) (timeline : Json) :
    Json.Object := [
  ("case_id", .str caseId),
  ("incident_summary", .str summary),
  ("timeline", timeline),
  ("assets", .arr assets),
  ("residual_risk", .str request.residualRisk),
  ("evidence_manifest_ref", .str request.evidenceManifestRef),
  ("tlp", .str request.tlp)]

def reportedFields (request : HandoverRequest) : Json.Object :=
  optionalField "attack_techniques" (Json.get request.incident "attack_techniques") ++
    optionalField "iocs" (textsJson request.iocs) ++ optionalField "actions" (textsJson request.actions)

theorem lookup_optionalField (name key : String) (value : Json) :
    (optionalField name value).lookup key = if key = name then reported value else none := by
  by_cases same : key = name
  · subst same
    by_cases full : value.truthy <;> simp [optionalField, reported, full]
  · by_cases full : value.truthy <;> simp [optionalField, full, List.lookup_cons, beq_false_of_ne same, same]

theorem lookup_reportedFields (request : HandoverRequest) (key : String) :
    (reportedFields request).lookup key =
      if key = "attack_techniques" then reported (Json.get request.incident "attack_techniques")
      else if key = "iocs" then reported (textsJson request.iocs)
      else if key = "actions" then reported (textsJson request.actions)
      else none := by
  simp only [reportedFields, List.lookup_append, lookup_optionalField]
  split_ifs with first second third <;> simp_all

theorem lookup_requiredFields (caseId summary : String) (assets : List Json) (request : HandoverRequest) (timeline : Json)
    (key : String) :
    (requiredFields caseId summary assets request timeline).lookup key =
      if key = "timeline" then some timeline else (requiredFields caseId summary assets request .null).lookup key := by
  have assigned : requiredFields caseId summary assets request timeline =
      (requiredFields caseId summary assets request .null).set "timeline" timeline := by
    simp [requiredFields, Dict.set]
  rw [assigned, Dict.lookup_set]

private theorem sortItems_texts (texts : List String) : Json.sortItems (texts.map .str) = texts.map .str := by
  rw [Json.sortItems_eq_map, List.map_map]
  rfl

theorem reported_texts (texts : Option (List String)) :
    (reported (textsJson texts)).map Json.sortKeys =
      if texts.getD [] = [] then none else some (.arr ((texts.getD []).map .str)) := by
  by_cases empty : texts.getD [] = []
  · simp [reported, textsJson, Json.truthy, empty]
  · simp [reported, textsJson, Json.truthy, empty, Json.sortKeys, sortItems_texts]

theorem reported_texts_iff (one other : Option (List String)) :
    (reported (textsJson one)).map Json.sortKeys = (reported (textsJson other)).map Json.sortKeys ↔
      one.getD [] = other.getD [] := by
  have injective : Function.Injective (List.map Json.str) := List.map_injective_iff.mpr fun _ _ => Json.str.inj
  rw [reported_texts, reported_texts]
  constructor
  · intro same
    split_ifs at same with first second
    · rw [first, second]
    · exact injective (by simpa using same)
  · intro same
    rw [same]

def payloadOf (caseId summary : String) (assets : List Json) (request : HandoverRequest) : Json.Object :=
  requiredFields caseId summary assets request (handoverTimeline request) ++ reportedFields request

theorem payloadOf_nodup (caseId summary : String) (assets : List Json) (request : HandoverRequest) :
    ((payloadOf caseId summary assets request).map Prod.fst).Nodup := by
  by_cases techniques : (Json.get request.incident "attack_techniques").truthy <;>
    by_cases iocs : (textsJson request.iocs).truthy <;>
    by_cases actions : (textsJson request.actions).truthy <;>
    simp [payloadOf, requiredFields, reportedFields, optionalField, techniques, iocs, actions]

theorem lookup_payloadOf (caseId summary : String) (assets : List Json) (request : HandoverRequest) (key : String) :
    (payloadOf caseId summary assets request).lookup key =
      (if key = "timeline" then some (handoverTimeline request)
        else (requiredFields caseId summary assets request .null).lookup key).or ((reportedFields request).lookup key) := by
  rw [payloadOf, List.lookup_append, lookup_requiredFields]

theorem lookup_payloadOf_optional {key : String} (optional : key ∈ optionalFields) (caseId summary : String)
    (assets : List Json) (request : HandoverRequest) :
    (payloadOf caseId summary assets request).lookup key = (reportedFields request).lookup key := by
  simp only [optionalFields, List.mem_cons, List.not_mem_nil, or_false] at optional
  rw [payloadOf, List.lookup_append]
  rcases optional with rfl | rfl | rfl <;> rfl

theorem SamePublic.requiredFields_eq {left right : HandoverRequest} (alike : SamePublic left right)
    (caseId summary : String) (assets : List Json) :
    requiredFields caseId summary assets left = requiredFields caseId summary assets right := by
  funext timeline
  simp only [requiredFields, alike.residualRisk, alike.evidenceManifestRef, alike.tlp]

theorem SamePublic.lookup_payload {left right : HandoverRequest} (alike : SamePublic left right) {caseId summary : String}
    {assets : List Json} {key : String} (other : key ≠ "timeline") (required : key ∉ optionalFields) :
    (payloadOf caseId summary assets left).lookup key = (payloadOf caseId summary assets right).lookup key := by
  have unreported (request : HandoverRequest) : (reportedFields request).lookup key = none := by
    simp only [optionalFields, List.mem_cons, List.not_mem_nil, or_false, not_or] at required
    rw [lookup_reportedFields, if_neg required.2.1, if_neg required.2.2, if_neg required.1]
  rw [lookup_payloadOf, lookup_payloadOf, if_neg other, if_neg other, alike.requiredFields_eq, unreported, unreported]

theorem payloadOf_iff {left right : HandoverRequest} (alike : SamePublic left right) (caseId summary : String)
    (assets : List Json) :
    (Json.obj (payloadOf caseId summary assets left)).sortKeys =
        (Json.obj (payloadOf caseId summary assets right)).sortKeys ↔
      SameHidden left right := by
  rw [Json.sortKeys_eq_iff_lookup (payloadOf_nodup ..) (payloadOf_nodup ..)]
  constructor
  · intro lookups
    have optional (key : String) (member : key ∈ optionalFields) :
        ((reportedFields left).lookup key).map Json.sortKeys = ((reportedFields right).lookup key).map Json.sortKeys := by
      simpa only [lookup_payloadOf_optional member] using lookups key
    refine ⟨?_, ?_, ?_, ?_⟩
    · simpa [lookup_payloadOf] using lookups "timeline"
    · simpa [lookup_reportedFields] using optional "attack_techniques" (by decide)
    · rw [← reported_texts_iff]
      simpa [lookup_reportedFields] using optional "iocs" (by decide)
    · rw [← reported_texts_iff]
      simpa [lookup_reportedFields] using optional "actions" (by decide)
  · intro hidden key
    have texts := (reported_texts_iff left.iocs right.iocs).mpr hidden.iocs
    have deeds := (reported_texts_iff left.actions right.actions).mpr hidden.actions
    have optional :
        ((reportedFields left).lookup key).map Json.sortKeys = ((reportedFields right).lookup key).map Json.sortKeys := by
      rw [lookup_reportedFields, lookup_reportedFields]
      split_ifs
      · exact hidden.techniques
      · exact texts
      · exact deeds
      · rfl
    rw [lookup_payloadOf, lookup_payloadOf, alike.requiredFields_eq, Option.map_or, Option.map_or, optional]
    split_ifs
    · rw [Option.map_some, Option.map_some, hidden.timeline]
    · rfl

theorem distinct_getOr {members : Json.Object} (distinct : (Json.obj members).Distinct) {default : Json}
    (plain : default.Distinct) (key : String) : (Json.getOr members key default).Distinct := by
  rw [Json.getOr]
  cases found : members.lookup key with
  | none => exact plain
  | some value => exact Json.distinctMembers_iff.mp distinct.2 _ (Dict.mem_of_lookup found)

theorem iterate_distinct {value : Json} (distinct : value.Distinct) {items : List Json}
    (done : iterate value = .ok items) : ∀ item ∈ items, item.Distinct := by
  cases value with
  | arr held =>
    obtain rfl := Except.ok.inj done
    exact Json.distinctItems_iff.mp distinct
  | obj members =>
    obtain rfl := Except.ok.inj done
    intro item member
    obtain ⟨_, _, rfl⟩ := List.mem_map.mp member
    trivial
  | str text =>
    obtain rfl := Except.ok.inj done
    intro item member
    obtain ⟨_, _, rfl⟩ := List.mem_map.mp member
    trivial
  | _ => cases done

private theorem assetOf_distinct {entity : Json} (distinct : entity.Distinct) {asset : Json}
    (done : assetOf entity = .ok (some asset)) : asset.Distinct := by
  cases entity with
  | obj members =>
    rw [assetOf] at done
    split at done
    next =>
      cases found : members.lookup "id" with
      | none => simp [found] at done
      | some id =>
        simp only [found, Except.ok.injEq, Option.some.injEq] at done
        exact done ▸ Json.distinctMembers_iff.mp distinct.2 _ (Dict.mem_of_lookup found)
    next => cases done
  | _ => cases done

theorem handoverAssets_distinct {incident : Json.Object} (distinct : (Json.obj incident).Distinct) {assets : List Json}
    (done : handoverAssets incident = .ok assets) : ∀ asset ∈ assets, asset.Distinct := by
  simp only [handoverAssets, Fallible.bind_ok_iff] at done
  obtain ⟨entities, listed, options, found, returned⟩ := done
  obtain rfl := Except.ok.inj returned
  intro asset member
  obtain ⟨_, inside, rfl⟩ := List.mem_filterMap.mp member
  obtain ⟨entity, among, same⟩ := Fallible.mem_of_mapM_ok found _ inside
  have held : (Json.getOr incident "entities" (.arr [])).Distinct :=
    distinct_getOr distinct (by simp [Json.Distinct, Json.DistinctItems]) _
  exact assetOf_distinct (iterate_distinct held listed _ among) same

private theorem of_mem_optionalField {name : String} {value : Json} {member : String × Json}
    (inside : member ∈ optionalField name value) : member.2 = value := by
  rw [optionalField] at inside
  split at inside
  · rw [List.mem_singleton.mp inside]
  · cases inside

private theorem textsJson_distinct (texts : Option (List String)) : (textsJson texts).Distinct := by
  apply Json.distinctItems_iff.mpr
  intro item member
  obtain ⟨_, _, rfl⟩ := List.mem_map.mp member
  trivial

theorem payloadOf_distinct (caseId summary : String) {assets : List Json} {request : HandoverRequest}
    (distinct : (Json.obj request.incident).Distinct) (done : handoverAssets request.incident = .ok assets) :
    (Json.obj (payloadOf caseId summary assets request)).Distinct := by
  have timeline : (handoverTimeline request).Distinct :=
    distinct_getOr distinct (by simp [Json.Distinct, Json.DistinctItems]) _
  have techniques : (Json.get request.incident "attack_techniques").Distinct :=
    distinct_getOr distinct (by simp [Json.Distinct]) _
  have listed : (Json.arr assets).Distinct := Json.distinctItems_iff.mpr (handoverAssets_distinct distinct done)
  refine ⟨payloadOf_nodup .., Json.distinctMembers_iff.mpr ?_⟩
  intro member inside
  rcases List.mem_append.mp inside with required | optional
  · simp only [requiredFields, List.mem_cons, List.not_mem_nil, or_false] at required
    rcases required with rfl | rfl | rfl | rfl | rfl | rfl | rfl <;> trivial
  · simp only [reportedFields, List.mem_append] at optional
    rcases optional with (optional | optional) | optional <;> rw [of_mem_optionalField optional]
    · exact techniques
    · exact textsJson_distinct _
    · exact textsJson_distinct _

theorem handoverTimeline_distinct {request : HandoverRequest} (distinct : (Json.obj request.incident).Distinct)
    {entries : List Json.Object} (held : handoverTimeline request = .arr (entries.map .obj)) :
    Json.DistinctItems (entries.map .obj) := by
  have timeline : (handoverTimeline request).Distinct :=
    distinct_getOr distinct (by simp [Json.Distinct, Json.DistinctItems]) _
  rwa [held] at timeline

def redExport (payload : Json.Object) (entries : List Json.Object) : Json.Object :=
  let redacted := optionalFields.foldl Dict.erase payload
  let described := entries.map fun entry => Json.obj (Dict.set entry "description" (.str ""))
  (redacted.set "incident_summary" (.str redactedSummary)).set "timeline" (.arr described)

theorem redactForTlp_red {payload : Json.Object} {entries : List Json.Object}
    (timeline : payload.lookup "timeline" = some (.arr (entries.map .obj))) :
    redactForTlp payload "RED" = .ok (redExport payload entries) := by
  have redacted : (entries.map Json.obj).mapM redactEntry =
      .ok (entries.map fun entry => Json.obj (Dict.set entry "description" (.str ""))) := by
    rw [List.mapM_map]
    exact List.mapM_pure
  have held : Json.getOr
      ((optionalFields.foldl Dict.erase payload).set "incident_summary" (.str redactedSummary)) "timeline" (.arr []) = .arr (entries.map .obj) := by
    simp [Json.getOr, optionalFields, timeline]
  have all : optionalFields.filter (· ∉ ([] : List String)) = optionalFields := by simp
  simp only [redactForTlp, optionalFieldsAllowed, List.lookup_cons_self, all, if_true, held, iterate, bind, Except.bind,
    redacted]
  rfl

theorem lookup_redExport (payload : Json.Object) (entries : List Json.Object) (key : String) :
    (redExport payload entries).lookup key =
      if key = "timeline" then some (.arr (entries.map fun entry => Json.obj (Dict.set entry "description" (.str ""))))
      else if key = "incident_summary" then some (.str redactedSummary)
      else if key ∈ optionalFields then none
      else payload.lookup key := by
  simp only [redExport, Dict.lookup_set, Dict.lookup_foldl_erase]

theorem redExport_nodup {payload : Json.Object} (distinct : (payload.map Prod.fst).Nodup) (entries : List Json.Object) :
    ((redExport payload entries).map Prod.fst).Nodup :=
  Dict.nodup_set (Dict.nodup_set (Dict.nodup_foldl_erase distinct _) _ _) _ _

private theorem described_eq {one other : List Json.Object} (first : Json.DistinctItems (one.map .obj))
    (second : Json.DistinctItems (other.map .obj)) (alike : List.Forall₂ SameButDescription one other) :
    Json.sortItems (one.map fun entry => Json.obj (Dict.set entry "description" (.str ""))) =
      Json.sortItems (other.map fun entry => Json.obj (Dict.set entry "description" (.str ""))) := by
  induction alike with
  | nil => rfl
  | @cons entry counterpart one other same _ ih =>
    have described : (Json.obj (Dict.set entry "description" (.str ""))).sortKeys =
        (Json.obj (Dict.set counterpart "description" (.str ""))).sortKeys := by
      rw [Json.sortKeys_eq_iff_lookup (Dict.nodup_set first.1.1 _ _) (Dict.nodup_set second.1.1 _ _)]
      intro key
      rw [Dict.lookup_set, Dict.lookup_set]
      by_cases here : key = "description"
      · rw [if_pos here, if_pos here]
      · rw [if_neg here, if_neg here, same key here]
    rw [List.map_cons, List.map_cons, Json.sortItems, Json.sortItems, described, ih first.2 second.2]

section
variable [Runtime]

theorem lookup_buildEnvelope_hash (context : EnvelopeContext) (payload : Json.Object) (messageId : String) (draw : Draw)
    (key : String) :
    (buildEnvelope context payload messageId draw).lookup key =
      if key = "payload_hash" then some (.str (hashJson (.obj payload)))
      else (buildEnvelope context [] messageId draw).lookup key := by
  have assigned : buildEnvelope context payload messageId draw =
      (buildEnvelope context [] messageId draw).set "payload_hash" (.str (hashJson (.obj payload))) := by
    simp [buildEnvelope, Dict.set]
  rw [assigned, Dict.lookup_set]

def handoverSummary (request : HandoverRequest) (incidentId : Json) : String :=
  "Incidente " ++ strJson incidentId ++ ", severidad " ++
    strJson (Json.getOr request.incident "severity" (.str "desconocida"))

def enveloped (context : EnvelopeContext) (messageId : String) (draw : Draw) (payload : Json.Object) : Json.Object :=
  (buildEnvelope context payload messageId draw).setAll payload

theorem handoverPayload_ok {request : HandoverRequest} {caseId : String} {payload : Json.Object}
    (built : handoverPayload request caseId = .ok payload) :
    ∃ incidentId assets, request.incident.lookup "incident_id" = some incidentId ∧
      handoverAssets request.incident = .ok assets ∧
      payload = payloadOf caseId (handoverSummary request incidentId) assets request := by
  cases named : request.incident.lookup "incident_id" with
  | none =>
    rw [handoverPayload, named] at built
    cases built
  | some incidentId =>
    simp only [handoverPayload, named, pure_bind, Fallible.bind_ok_iff] at built
    obtain ⟨assets, listed, returned⟩ := built
    refine ⟨incidentId, assets, rfl, listed, ?_⟩
    rw [← Except.ok.inj returned]
    simp only [payloadOf, requiredFields, reportedFields, handoverSummary, handoverTimeline, List.append_assoc]

theorem buildHandover_ok {validate : Json.Object → List String} {context : EnvelopeContext} {request : HandoverRequest}
    {draw : Draw} {handover : Json.Object} (built : buildHandover validate context request draw = .ok handover) :
    ∃ incidentId assets, request.incident.lookup "incident_id" = some incidentId ∧
      handoverAssets request.incident = .ok assets ∧ handover = enveloped context (newIdPrefixed "case" draw.uuid) draw
        (payloadOf (newIdPrefixed "case" draw.uuid) (handoverSummary request incidentId) assets request) := by
  simp only [buildHandover, Fallible.bind_ok_iff, Fallible.guarded_ok_iff] at built
  obtain ⟨payload, prepared, _, rfl⟩ := built
  obtain ⟨incidentId, assets, named, listed, rfl⟩ := handoverPayload_ok prepared
  exact ⟨incidentId, assets, named, listed, rfl⟩

theorem buildEnvelope_nodup (context : EnvelopeContext) (payload : Json.Object) (messageId : String) (draw : Draw) :
    ((buildEnvelope context payload messageId draw).map Prod.fst).Nodup := by
  rw [buildEnvelope]
  cases context.traceId.filter (· ≠ "") <;> simp

section
variable {context : EnvelopeContext} {draw : Draw} {messageId caseId summary : String} {assets : List Json}

private theorem lookup_handover (request : HandoverRequest) (key : String) :
    (enveloped context messageId draw (payloadOf caseId summary assets request)).lookup key =
      ((payloadOf caseId summary assets request).lookup key).or
        (if key = "payload_hash" then some (.str (hashJson (.obj (payloadOf caseId summary assets request))))
          else (buildEnvelope context [] messageId draw).lookup key) := by
  rw [enveloped, Dict.lookup_setAll_of_nodup _ (payloadOf_nodup ..), lookup_buildEnvelope_hash]

private theorem sameExport_iff {left right : HandoverRequest} (alike : SamePublic left right)
    (first : (Json.obj left.incident).Distinct) (second : (Json.obj right.incident).Distinct) :
    SameExport (enveloped context messageId draw (payloadOf caseId summary assets left))
        (enveloped context messageId draw (payloadOf caseId summary assets right)) ↔
      hashJson (.obj (payloadOf caseId summary assets left)) = hashJson (.obj (payloadOf caseId summary assets right)) := by
  obtain ⟨entries, counterparts, held, heldToo, described⟩ := alike.timeline
  have keys (request : HandoverRequest) (shown : List Json.Object) :
      ((redExport (enveloped context messageId draw (payloadOf caseId summary assets request)) shown).map Prod.fst).Nodup :=
    redExport_nodup (Dict.nodup_setAll (buildEnvelope_nodup ..) _) _
  have exported {request : HandoverRequest} {shown : List Json.Object}
      (held : handoverTimeline request = .arr (shown.map .obj)) :
      redactForTlp (enveloped context messageId draw (payloadOf caseId summary assets request)) "RED" =
        .ok (redExport _ shown) :=
    redactForTlp_red (by rw [lookup_handover, lookup_payloadOf, if_pos rfl, held, Option.some_or, Option.some_or])
  have unnamed (request : HandoverRequest) : (payloadOf caseId summary assets request).lookup "payload_hash" = none := by
    rw [lookup_payloadOf, lookup_reportedFields]
    rfl
  constructor
  · intro ⟨copy, copyToo, done, doneToo, same⟩
    obtain rfl := Except.ok.inj ((exported held).symm.trans done)
    obtain rfl := Except.ok.inj ((exported heldToo).symm.trans doneToo)
    have hashes := Json.lookup_of_sortKeys_eq (keys left _) (keys right _) same "payload_hash"
    simpa [lookup_redExport, optionalFields, lookup_handover, unnamed, Json.sortKeys] using hashes
  · intro hashes
    refine ⟨_, _, exported held, exported heldToo, Json.sortKeys_eq_of_lookup (keys left _) (keys right _) ?_⟩
    intro key
    rw [lookup_redExport, lookup_redExport]
    split_ifs with time spoken optional
    · simp only [Option.map_some, Json.sortKeys, described_eq (handoverTimeline_distinct first held)
        (handoverTimeline_distinct second heldToo) described]
    · rfl
    · rfl
    · rw [lookup_handover, lookup_handover, alike.lookup_payload time optional, hashes]

end

theorem SamePublic.built {validate : Json.Object → List String} {context : EnvelopeContext} {draw : Draw}
    {left right : HandoverRequest} {one other : Json.Object} (alike : SamePublic left right)
    (first : buildHandover validate context left draw = .ok one)
    (second : buildHandover validate context right draw = .ok other) :
    ∃ caseId summary assets, handoverAssets left.incident = .ok assets ∧ handoverAssets right.incident = .ok assets ∧
      one = enveloped context caseId draw (payloadOf caseId summary assets left) ∧
      other = enveloped context caseId draw (payloadOf caseId summary assets right) := by
  obtain ⟨incidentId, assets, named, listed, rfl⟩ := buildHandover_ok first
  obtain ⟨_, _, namedToo, listedToo, rfl⟩ := buildHandover_ok second
  obtain rfl := Option.some.inj (named.symm.trans (alike.incidentId.trans namedToo))
  obtain rfl := Except.ok.inj (listed.symm.trans (alike.assets.trans listedToo))
  have summaries : handoverSummary left incidentId = handoverSummary right incidentId := by
    rw [handoverSummary, handoverSummary, Json.getOr, Json.getOr, alike.severity]
  exact ⟨_, _, assets, listed, listedToo, rfl, by rw [summaries]⟩

/-- An export hides a difference only when there is none: the hash of the payload tells. -/
theorem red_export_independent_iff (free : CollisionFree) {validate : Json.Object → List String} {context : EnvelopeContext}
    {draw : Draw} {left right : HandoverRequest} {one other : Json.Object} (alike : SamePublic left right)
    (first : (Json.obj left.incident).Distinct) (second : (Json.obj right.incident).Distinct)
    (built : buildHandover validate context left draw = .ok one)
    (builtToo : buildHandover validate context right draw = .ok other) :
    SameExport one other ↔ SameHidden left right := by
  obtain ⟨caseId, summary, assets, listed, listedToo, rfl, rfl⟩ := alike.built built builtToo
  rw [sameExport_iff alike first second, ← payloadOf_iff alike caseId summary assets]
  exact free.hashJson_eq_iff (payloadOf_distinct _ _ first listed) (payloadOf_distinct _ _ second listedToo)

end

private def handedOver : HandoverRequest where
  incident := [("incident_id", .str "inc-x"), ("timeline", .arr [.obj [("timestamp", .str "2026-08-12T10:00:00Z")]])]
  residualRisk := "bajo"
  evidenceManifestRef := "ref-1"
  tlp := "CLEAR"

private def withIndicator : HandoverRequest := { handedOver with iocs := some ["1.2.3.4"] }

private theorem handedOver_alike : SamePublic withIndicator handedOver := by
  refine ⟨rfl, rfl, rfl, rfl, rfl, rfl, ?_⟩
  exact ⟨[[("timestamp", .str "2026-08-12T10:00:00Z")]], _, rfl, rfl, .cons (fun _ _ => rfl) .nil⟩

private theorem handedOver_distinct : (Json.obj handedOver.incident).Distinct := by
  simp [handedOver, Json.Distinct, Json.DistinctMembers, Json.DistinctItems]

private def adapter : EnvelopeContext where
  producer := "soc-adapter"
  runId := "run-1"

private theorem handedOver_built [Runtime] (iocs : Option (List String)) :
    ∃ handover, buildHandover (fun _ => []) adapter { handedOver with iocs } ⟨0, 0⟩ = .ok handover := ⟨_, rfl⟩

theorem red_export_independent_indicator :
    letI := Runtime.transparent
    ∃ one other, buildHandover (fun _ => []) adapter withIndicator ⟨0, 0⟩ = .ok one ∧
      buildHandover (fun _ => []) adapter handedOver ⟨0, 0⟩ = .ok other ∧
      (SameExport one other ↔ SameHidden withIndicator handedOver) := by
  let _ := Runtime.transparent
  obtain ⟨one, first⟩ := handedOver_built (some ["1.2.3.4"])
  obtain ⟨other, second⟩ := handedOver_built none
  exact ⟨one, other, first, second, red_export_independent_iff Runtime.transparent_collisionFree handedOver_alike
    handedOver_distinct handedOver_distinct first second⟩

/-- The exports of one case with and without an indicator, which neither shows, differ. -/
theorem hidden_indicator_exported :
    letI := Runtime.transparent
    ∃ one other, buildHandover (fun _ => []) adapter withIndicator ⟨0, 0⟩ = .ok one ∧
      buildHandover (fun _ => []) adapter handedOver ⟨0, 0⟩ = .ok other ∧
      SamePublic withIndicator handedOver ∧ ¬ SameExport one other := by
  let _ := Runtime.transparent
  obtain ⟨one, first⟩ := handedOver_built (some ["1.2.3.4"])
  obtain ⟨other, second⟩ := handedOver_built none
  refine ⟨one, other, first, second, handedOver_alike, ?_⟩
  intro same
  obtain ⟨caseId, summary, assets, listed, listedToo, rfl, rfl⟩ := handedOver_alike.built first second
  have distinct : (Json.obj (payloadOf caseId summary assets withIndicator)).Distinct :=
    payloadOf_distinct _ _ handedOver_distinct listed
  have distinctToo : (Json.obj (payloadOf caseId summary assets handedOver)).Distinct :=
    payloadOf_distinct _ _ handedOver_distinct listedToo
  have hashes := (sameExport_iff handedOver_alike handedOver_distinct handedOver_distinct).mp same
  have documents := Runtime.transparent_collisionFree.hashJson distinct distinctToo hashes
  have hidden := ((payloadOf_iff handedOver_alike _ _ _).mp documents).iocs
  simp [withIndicator, handedOver] at hidden

end ArgosCore.Proofs
