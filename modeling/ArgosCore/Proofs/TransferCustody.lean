import Mathlib.Data.List.Chain
import ArgosCore.Federation.Evidence
import ArgosCore.Proofs.SanitizerNoninterference
import ArgosCore.Proofs.SanitizerPolicyOrder
import ArgosCore.Proofs.TransferRelease

/-! A payload on its way through several domains. Each release leaves a record, and from records
that fit together one reads off what the last domain has. -/

namespace ArgosCore.Proofs

abbrev SameDocument (left right : Json.Object) : Prop := (Json.obj left).sortKeys = (Json.obj right).sortKeys

section
variable [Runtime]

theorem released_congr {left right : Json.Object} (first : (Json.obj left).Distinct) (second : (Json.obj right).Distinct)
    (same : SameDocument left right) (rules : List SanitizationRule) :
    SameDocument (applySanitization left rules).releasedPayload (applySanitization right rules).releasedPayload := by
  have lookups := Json.lookup_of_sortKeys_eq first.1 second.1 same
  have alike {field : String} {one other : Json} (found : left.lookup field = some one)
      (alsoFound : right.lookup field = some other) : one.sortKeys = other.sortKeys := by
    simpa [found, alsoFound] using lookups field
  have agree : DifferWhereErased rules left right := by
    constructor
    · intro field
      simpa using congrArg Option.isSome (lookups field)
    · intro field one other found alsoFound
      exact .inr (.inl (alike found alsoFound))
  have tokens : TokensAgree rules left right := by
    intro field one other found alsoFound _ touched
    obtain ⟨times, count⟩ := Nat.exists_eq_succ_of_ne_zero touched
    have token : tokenize field one = tokenize field other := by
      rw [tokenize, tokenize, Json.canonical, Json.canonical, alike found alsoFound]
    rw [count, tokenized, tokenized, Function.iterate_succ_apply, Function.iterate_succ_apply, token]
  apply Json.sortKeys_eq_of_lookup (releasedPayload_distinct first rules).1 (releasedPayload_distinct second rules).1
  exact releasedField_agree first second agree tokens

theorem onField_none (rule : SanitizationRule) (field : String) : onField rule field none = none := by
  rw [onField]
  split_ifs
  · cases (splitPath rule.fieldPath).2 <;> rfl
  · rfl

theorem present_before_step {state : Sanitizing} {rule : SanitizationRule} {path : String}
    (present : pathPresent (sanitizeStep state rule).working path = true) : pathPresent state.working path = true := by
  rw [pathPresent_eq] at present ⊢
  generalize splitPath path = place at present ⊢
  obtain ⟨field, key⟩ := place
  cases found : state.working.lookup field with
  | none =>
    cases key <;> simp [valueAt, lookup_sanitizeStep, found, onField_none] at present
  | some value =>
    cases key with
    | none => simp [valueAt, found]
    | some key =>
      simp only [valueAt, lookup_sanitizeStep, found] at present ⊢
      rw [onField] at present
      split_ifs at present with here
      · cases nested : (splitPath rule.fieldPath).2 with
        | none =>
          rw [nested] at present
          split at present
          next members replaced => exact absurd replaced (replacement_ne_obj rule value members)
          next => cases present
        | some changed =>
          rw [nested] at present
          cases value with
          | obj members =>
            simp only [Option.map_some, onMember, Dict.lookup_put] at present ⊢
            split_ifs at present with same
            · subst same
              cases held : members.lookup key with
              | none => simp [held] at present
              | some _ => rfl
            · exact present
          | _ => exact present
      · exact present

theorem removed_absent {state : Sanitizing} {rule : SanitizationRule} (removes : removesField rule.operation = true) :
    pathPresent (sanitizeStep state rule).working rule.fieldPath = false := by
  have gone (value : Json) : rule.replacement value = none := replacement_eq_none_iff.mpr removes
  have here := lookup_sanitizeStep state rule (splitPath rule.fieldPath).1
  rw [onField, if_pos rfl] at here
  rw [pathPresent_eq]
  generalize splitPath rule.fieldPath = place at here ⊢
  obtain ⟨field, key⟩ := place
  simp only at here
  cases found : state.working.lookup field with
  | none => cases key <;> simp [valueAt, here, found]
  | some value =>
    cases key with
    | none => simp [valueAt, here, found, gone]
    | some key =>
      cases value with
      | obj members => cases held : members.lookup key <;> simp [valueAt, here, found, onMember, held, gone]
      | _ => simp [valueAt, here, found, onMember]

def RemovedAbsent (state : Sanitizing) : Prop := ∀ path ∈ state.fieldsRemoved, pathPresent state.working path = false

theorem RemovedAbsent.step {state : Sanitizing} (absent : RemovedAbsent state) (rule : SanitizationRule) :
    RemovedAbsent (sanitizeStep state rule) := by
  intro path removed
  have earlier (before : path ∈ state.fieldsRemoved) : pathPresent (sanitizeStep state rule).working path = false := by
    have still := absent path before
    by_contra present
    rw [present_before_step (Bool.of_not_eq_false present)] at still
    cases still
  cases held : valueAt state.working (splitPath rule.fieldPath) with
  | none =>
    rw [sanitizeStep_absent (by rw [pathPresent_eq, held]; rfl)] at removed
    exact earlier removed
  | some value =>
    rw [sanitizeStep_held held] at removed
    dsimp only at removed
    split_ifs at removed with removes
    · rcases List.mem_append.mp removed with before | now
      · exact earlier before
      · rw [List.mem_singleton.mp now]
        exact removed_absent removes
    · exact earlier removed

theorem present_before_run {rules : List SanitizationRule} {state : Sanitizing} {path : String}
    (present : pathPresent (rules.foldl sanitizeStep state).working path = true) : pathPresent state.working path = true := by
  induction rules generalizing state with
  | nil => exact present
  | cons rule rules ih => exact present_before_step (ih present)

theorem RemovedAbsent.run {state : Sanitizing} (absent : RemovedAbsent state) (rules : List SanitizationRule) :
    RemovedAbsent (rules.foldl sanitizeStep state) := by
  induction rules generalizing state with
  | nil => exact absent
  | cons rule rules ih => exact ih (absent.step rule)

structure Release where
  request : TransferRequest
  draw : Draw
  recorded : Draw
  transfer : CrossDomainTransfer
  returned : requestCrossDomainTransfer request draw = .ok transfer
  released : transfer.outcome = .released
  distinct : (Json.obj request.payload).Distinct

namespace Release

def record (hop : Release) : Json.Object := buildCrossDomainTransferRecord hop.transfer hop.recorded

def sanitize (hop : Release) (document : Json.Object) : Json.Object :=
  (applySanitization document hop.request.sanitizationRules).releasedPayload

def document (hop : Release) : Json.Object := hop.sanitize hop.request.payload

theorem document_distinct (hop : Release) : (Json.obj hop.document).Distinct := releasedPayload_distinct hop.distinct _

theorem transfer_eq (hop : Release) : ∃ ifc, hop.request.ifcDecision = .ok ifc ∧
    hop.transfer = hop.request.settle hop.draw ifc := by
  have returned := hop.returned
  rw [requestCrossDomainTransfer] at returned
  cases decided : hop.request.ifcDecision with
  | error _ => simp [decided, Except.map] at returned
  | ok ifc =>
    rw [decided] at returned
    exact ⟨ifc, rfl, (Except.ok.inj returned).symm⟩

structure Written (hop : Release) : Prop where
  sourceDomain : hop.transfer.sourceDomain = hop.request.sourceDomain.domainId
  destinationDomain : hop.transfer.destinationDomain = hop.request.destinationDomain.domainId
  original : hop.transfer.originalClassification = hop.request.originalClassification
  level : hop.transfer.releasedClassification = some hop.request.requestedClassification
  approver : hop.transfer.approverRef = hop.request.approverRef
  originalHash : hop.transfer.originalHash = some (hashJson (.obj hop.request.payload))
  releasedHash : hop.transfer.releasedHash = some (hashJson (.obj hop.document))
  fieldsRemoved : hop.transfer.fieldsRemoved =
    (applySanitization hop.request.payload hop.request.sanitizationRules).fieldsRemoved

theorem written (hop : Release) : hop.Written := by
  obtain ⟨ifc, _, same⟩ := hop.transfer_eq
  have released := hop.released
  rw [same, settle_released_iff] at released
  obtain ⟨notDenied, approved⟩ := released
  rw [TransferRequest.settle, if_neg notDenied, if_neg fun pending => approved pending.1 pending.2] at same
  constructor <;> rw [same] <;> rfl

theorem releasable (hop : Release) : Releasable hop.request := (known_of_ok hop.returned).2.1.mp hop.released

def Lowers (hop : Release) : Prop :=
  hop.transfer.approverRef ≠ none ∧
    classificationRank hop.request.requestedClassification < classificationRank hop.request.originalClassification

theorem rank_le_or_lowers (hop : Release) (named : hop.request.requestedClassification ≠ "") :
    classificationRank hop.request.originalClassification ≤ classificationRank hop.request.requestedClassification ∨
      hop.Lowers := by
  by_cases approved : hop.transfer.approverRef = none
  · left
    rw [hop.written.approver] at approved
    have kept := ((releasable_iff_unapproved approved).mp hop.releasable).2.1
    rwa [judgedClassification_given named] at kept
  · by_cases lower : classificationRank hop.request.requestedClassification <
        classificationRank hop.request.originalClassification
    · exact .inr ⟨approved, lower⟩
    · exact .inl (not_lt.mp lower)

end Release

structure RecordsFit (earlier later : Json.Object) : Prop where
  domain : later.lookup "source_domain" = earlier.lookup "destination_domain"
  level : later.lookup "original_classification" = earlier.lookup "released_classification"
  content : later.lookup "original_hash" = earlier.lookup "released_hash"

/-- The later release is of what the earlier one released, where it arrived and as it was labelled. -/
structure HandedOn (earlier later : Release) : Prop where
  domain : later.request.sourceDomain.domainId = earlier.request.destinationDomain.domainId
  level : later.request.originalClassification = earlier.request.requestedClassification
  content : SameDocument later.request.payload earlier.document

omit [Runtime] in
private theorem text_eq_iff {left right : String} : some (Json.str left) = some (Json.str right) ↔ left = right := by simp

theorem recordsFit_iff (free : CollisionFree) (earlier later : Release) :
    RecordsFit earlier.record later.record ↔ HandedOn earlier later := by
  have first := earlier.written
  have second := later.written
  have domain : later.record.lookup "source_domain" = earlier.record.lookup "destination_domain" ↔
      later.request.sourceDomain.domainId = earlier.request.destinationDomain.domainId := by
    rw [← second.sourceDomain, ← first.destinationDomain]
    exact text_eq_iff
  have level : later.record.lookup "original_classification" = earlier.record.lookup "released_classification" ↔
      later.request.originalClassification = earlier.request.requestedClassification := by
    change some (Json.str _) = some (optionalStr earlier.transfer.releasedClassification) ↔ _
    rw [first.level, second.original]
    exact text_eq_iff
  have content : later.record.lookup "original_hash" = earlier.record.lookup "released_hash" ↔
      SameDocument later.request.payload earlier.document := by
    change some (optionalStr later.transfer.originalHash) = some (optionalStr earlier.transfer.releasedHash) ↔ _
    rw [first.releasedHash, second.originalHash]
    exact text_eq_iff.trans (free.hashJson_eq_iff later.distinct earlier.document_distinct)
  exact ⟨fun linked => ⟨domain.mp linked.domain, level.mp linked.level, content.mp linked.content⟩,
    fun handed => ⟨domain.mpr handed.domain, level.mpr handed.level, content.mpr handed.content⟩⟩

def sanitizedAlong (route : List Release) (document : Json.Object) : Json.Object :=
  route.foldl (fun document hop => hop.sanitize document) document

theorem HandedOn.level_known {earlier later : Release} (handed : HandedOn earlier later) :
    earlier.request.requestedClassification ≠ "" := by
  have known := (known_of_ok later.returned).1.1
  rw [handed.level] at known
  intro empty
  rw [empty] at known
  exact absurd known (by decide)

def Fades (earlier later : Release) : Prop :=
  ∀ path, pathPresent later.document path = true → pathPresent earlier.document path = true

instance : Trans Fades Fades Fades where
  trans first second path present := first path (second path present)

omit [Runtime] in
theorem pathPresent_congr {left right : Json.Object} (first : (Json.obj left).Distinct)
    (second : (Json.obj right).Distinct) (same : SameDocument left right) (path : String) :
    pathPresent left path = pathPresent right path := by
  have lookups := Json.lookup_of_sortKeys_eq first.1 second.1 same
  rw [pathPresent_eq, pathPresent_eq]
  generalize splitPath path = place
  obtain ⟨field, key⟩ := place
  have shape : (left.lookup field).isSome = (right.lookup field).isSome := by
    simpa using congrArg Option.isSome (lookups field)
  cases key with
  | none => exact shape
  | some key =>
    rcases isSome_cases shape with ⟨absent, alsoAbsent⟩ | ⟨one, other, found, alsoFound⟩
    · simp [valueAt, absent, alsoAbsent]
    · have alike : one.sortKeys = other.sortKeys := by simpa [found, alsoFound] using lookups field
      have inside := Json.distinctMembers_iff.mp first.2 _ (Dict.mem_of_lookup found)
      have alsoInside := Json.distinctMembers_iff.mp second.2 _ (Dict.mem_of_lookup alsoFound)
      simp only [valueAt, found, alsoFound]
      cases one with
      | obj members =>
        cases other with
        | obj others => simpa using congrArg Option.isSome (Json.lookup_of_sortKeys_eq inside.1 alsoInside.1 alike key)
        | _ => simp [Json.sortKeys] at alike
      | _ =>
        cases other with
        | obj others => simp [Json.sortKeys] at alike
        | _ => rfl

theorem HandedOn.fades {earlier later : Release} (handed : HandedOn earlier later) : Fades earlier later := by
  intro path present
  have before : pathPresent later.request.payload path = true := present_before_run present
  rwa [pathPresent_congr later.distinct earlier.document_distinct handed.content] at before

theorem Release.removed_absent (hop : Release) :
    ∀ path ∈ hop.transfer.fieldsRemoved, pathPresent hop.document path = false := by
  have start : RemovedAbsent ⟨hop.request.payload, [], []⟩ := fun _ none => absurd none List.not_mem_nil
  rw [hop.written.fieldsRemoved]
  exact start.run _

theorem payload_sanitizedAlong {before after : List Release} {hop : Release} {document : Json.Object}
    (distinct : (Json.obj document).Distinct) (start : ∀ first ∈ (before ++ hop :: after).head?,
      SameDocument first.request.payload document)
    (route : (before ++ hop :: after).IsChain HandedOn) :
    SameDocument hop.request.payload (sanitizedAlong before document) := by
  induction before generalizing document with
  | nil => exact start hop rfl
  | cons earlier before ih =>
    obtain ⟨next, rest⟩ := List.isChain_cons.mp route
    refine ih (releasedPayload_distinct distinct _) ?_ rest
    intro later first
    have sanitized : SameDocument earlier.document (earlier.sanitize document) :=
      released_congr earlier.distinct distinct (start earlier rfl) _
    exact (next later first).content.trans sanitized

theorem HandedOn.rank_le_or_lowers {earlier later : Release} (handed : HandedOn earlier later) :
    classificationRank earlier.request.originalClassification ≤ classificationRank later.request.originalClassification ∨
      earlier.Lowers := by
  rw [handed.level]
  exact earlier.rank_le_or_lowers handed.level_known

theorem level_kept {earlier later : Release} {between : List Release}
    (route : (earlier :: (between ++ [later])).IsChain HandedOn) :
    classificationRank earlier.request.originalClassification ≤ classificationRank later.request.originalClassification ∨
      ∃ hop ∈ earlier :: between, hop.Lowers := by
  induction between generalizing earlier with
  | nil =>
    apply (List.isChain_pair.mp route).rank_le_or_lowers.imp_right
    intro lowers
    exact ⟨earlier, List.mem_cons_self, lowers⟩
  | cons next between ih =>
    obtain ⟨handed, rest⟩ := List.isChain_cons_cons.mp route
    rcases ih rest with kept | ⟨hop, inside, lowers⟩
    · apply handed.rank_le_or_lowers.imp
      · intro first
        exact first.trans kept
      · intro lowers
        exact ⟨earlier, List.mem_cons_self, lowers⟩
    · exact .inr ⟨hop, List.mem_cons_of_mem _ inside, lowers⟩

structure Custody (route : List Release) (document : Json.Object) : Prop where
  /-- Nothing but the policies of the earlier domains has touched the payload of a release. -/
  content : ∀ before hop after, route = before ++ hop :: after →
    SameDocument hop.request.payload (sanitizedAlong before document)
  /-- What a domain has removed never comes back. -/
  removed : ∀ before hop after, route = before ++ hop :: after → ∀ path ∈ hop.transfer.fieldsRemoved,
    ∀ later ∈ hop :: after, pathPresent later.document path = false
  /-- A lower classification goes back to an approval on the way. -/
  level : ∀ before earlier between later after, route = before ++ earlier :: (between ++ later :: after) →
    classificationRank earlier.request.originalClassification ≤ classificationRank later.request.originalClassification ∨
      ∃ hop ∈ earlier :: between, hop.Lowers
  admitted : ∀ hop ∈ route, (transferAllowed hop.request.sourceDomain hop.request.destinationDomain).1 = true ∧
    hop.request.exportability ≠ "forbidden"

theorem custody_of_handedOn {first : Release} {route : List Release} (chain : (first :: route).IsChain HandedOn) :
    Custody (first :: route) first.request.payload where
  content before hop after split := by
    refine payload_sanitizedAlong first.distinct ?_ (split ▸ chain)
    intro head found
    rw [← split] at found
    rw [← Option.some.inj found]
  removed before hop after split path removed later reached := by
    have gone := hop.removed_absent path removed
    rcases List.mem_cons.mp reached with rfl | reached
    · exact gone
    · have fades : (hop :: after).IsChain Fades := by
        apply List.IsChain.imp fun _ _ handed => HandedOn.fades handed
        exact List.IsChain.right_of_append (split ▸ chain)
      by_contra present
      rw [fades.rel_cons reached path (Bool.of_not_eq_false present)] at gone
      cases gone
  level before earlier between later after split := by
    have here : (earlier :: (between ++ later :: after)).IsChain HandedOn := List.IsChain.right_of_append (split ▸ chain)
    apply level_kept
    exact here.prefix ⟨after, by simp⟩
  admitted hop _ := by
    by_contra refused
    apply not_releasable_of_closed _ hop.releasable
    rwa [not_and_or, Bool.not_eq_true, not_not] at refused

/-- Records fit together exactly when each domain passed on what it was given, and then they vouch
for the whole route. -/
theorem transfer_custody (free : CollisionFree) (first : Release) (route : List Release) :
    (((first :: route).map Release.record).IsChain RecordsFit ↔ (first :: route).IsChain HandedOn) ∧
      (((first :: route).map Release.record).IsChain RecordsFit → Custody (first :: route) first.request.payload) := by
  have same : ((first :: route).map Release.record).IsChain RecordsFit ↔ (first :: route).IsChain HandedOn := by
    rw [List.isChain_map]
    exact List.IsChain.iff fun earlier later => recordsFit_iff free earlier later
  exact ⟨same, fun linked => custody_of_handedOn (same.mp linked)⟩

end

private def relayDomain : SecurityDomain :=
  { destinationDomain with allowedDestinations := {"archive"} }

private def archiveDomain : SecurityDomain := { destinationDomain with domainId := "archive" }

private def firstRequest : TransferRequest :=
  { rawRequest with
    payload := [("user", .str "alice"), ("email", .str "alice@example.org")]
    destinationDomain := relayDomain
    sanitizationRules := [⟨"email", .removeField, ""⟩] }

private def secondRequest : TransferRequest :=
  { rawRequest with
    sourceDomain := relayDomain
    destinationDomain := archiveDomain
    originalClassification := "confidential"
    requestedClassification := "restricted" }

private def firstHop : @Release Runtime.transparent :=
  letI := Runtime.transparent
  { request := firstRequest
    draw := someTransferDraw
    recorded := someTransferDraw
    transfer := _
    returned := rfl
    released := rfl
    distinct := by simp [firstRequest, Json.Distinct, Json.DistinctMembers] }

private def secondHop : @Release Runtime.transparent :=
  letI := Runtime.transparent
  { request := secondRequest
    draw := someTransferDraw
    recorded := someTransferDraw
    transfer := _
    returned := rfl
    released := rfl
    distinct := by simp [secondRequest, rawRequest, Json.Distinct, Json.DistinctMembers] }

/-- The address that the first hop removes is not in the archive. -/
theorem transfer_custody_relay :
    letI := Runtime.transparent
    ([firstHop, secondHop].map Release.record).IsChain RecordsFit ∧ Custody [firstHop, secondHop] firstRequest.payload := by
  let _ := Runtime.transparent
  obtain ⟨same, custody⟩ := transfer_custody Runtime.transparent_collisionFree firstHop [secondHop]
  have linked := same.mpr (List.isChain_pair.mpr ⟨rfl, rfl, rfl⟩)
  exact ⟨linked, custody linked⟩

end ArgosCore.Proofs
