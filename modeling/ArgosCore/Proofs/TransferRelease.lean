import ArgosCore.Federation.CrossDomainTransfer
import ArgosCore.Proofs.SanitizerEffects

/-! What a released transfer has gone through: when sanitization really rewrote
something, and which classification is written on what leaves. -/

namespace ArgosCore.Proofs

section
variable [Runtime]

theorem transformations_prefix (rules : List SanitizationRule) (state : Sanitizing) :
    state.transformations <+: (rules.foldl sanitizeStep state).transformations := by
  induction rules generalizing state with
  | nil => exact List.prefix_refl _
  | cons rule rules ih =>
    apply List.IsPrefix.trans _ (ih (sanitizeStep state rule))
    cases present : pathPresent state.working rule.fieldPath with
    | true => exact sanitizeStep_present present ▸ List.prefix_append _ _
    | false =>
      rw [sanitizeStep_absent present]

/-- Until a rule finds its path the payload is the original one, so the first rule
that could be applied to it is. -/
theorem foldl_transformations_ne_nil_iff (rules : List SanitizationRule) (payload : Json.Object) (removed : List String) :
    (rules.foldl sanitizeStep ⟨payload, [], removed⟩).transformations ≠ [] ↔
      ∃ rule ∈ rules, pathPresent payload rule.fieldPath = true := by
  induction rules with
  | nil => simp
  | cons rule rules ih =>
    rw [List.foldl_cons]
    cases present : pathPresent payload rule.fieldPath with
    | true =>
      have applied : (sanitizeStep ⟨payload, [], removed⟩ rule).transformations =
          [⟨rule.fieldPath, rule.operation, rule.detail⟩] := sanitizeStep_present present
      have kept := transformations_prefix rules (sanitizeStep ⟨payload, [], removed⟩ rule)
      rw [applied] at kept
      simp only [List.mem_cons, exists_eq_or_imp, present, true_or, iff_true]
      intro none
      simp [none] at kept
    | false =>
      rw [sanitizeStep_absent present, ih]
      simp [present]

theorem transformations_ne_nil_iff (payload : Json.Object) (rules : List SanitizationRule) :
    (applySanitization payload rules).transformations ≠ [] ↔
      ∃ rule ∈ rules, pathPresent payload rule.fieldPath = true := by
  rw [applySanitization, foldl_transformations_ne_nil_iff]
  simp [(sortedRules_perm rules).mem_iff]

omit [Runtime] in
/-- The classification that is judged: an empty request counts as none. -/
def judgedClassification (request : TransferRequest) : String :=
  orDefault (some request.requestedClassification) request.originalClassification

omit [Runtime] in
@[simp] theorem judgedClassification_empty {request : TransferRequest} (empty : request.requestedClassification = "") :
    judgedClassification request = request.originalClassification := by
  simp [judgedClassification, orDefault, Option.filter_some, empty]

omit [Runtime] in
@[simp] theorem judgedClassification_given {request : TransferRequest} (given : request.requestedClassification ≠ "") :
    judgedClassification request = request.requestedClassification := by
  simp [judgedClassification, orDefault, Option.filter_some, given]

/-- The rules of information flow control, first match first. -/
def judgedOutcome (classification exportability trust : String) (source destination : SecurityDomain) (target : String) :
    IfcOutcome :=
  if (transferAllowed source destination).1 = false ∨ exportability = "forbidden" then .deny
  else if classificationRank target < classificationRank classification ∨ trust ∈ ["UNTRUSTED", "UNKNOWN"] then
    .requireApproval
  else if destination.classification ≠ classification then .sanitize
  else .allow

theorem evaluateIfc_unknown {label : IfcLabel} {source destination : SecurityDomain} {requested : Option String}
    (unknown : orDefault requested label.classification ∉ classificationLevels) :
    evaluateIfc label source destination requested =
      .error (unknownClassification (orDefault requested label.classification)) := if_pos unknown

theorem evaluateIfc_known {label : IfcLabel} {source destination : SecurityDomain} {requested : Option String}
    (known : orDefault requested label.classification ∈ classificationLevels) :
    ∃ decision, evaluateIfc label source destination requested = .ok decision ∧
      decision.outcome = judgedOutcome label.classification label.exportability label.trust source destination
        (orDefault requested label.classification) := by
  rw [evaluateIfc, judgedOutcome]
  simp only [known, not_true_eq_false, if_false]
  obtain ⟨allowed, reason⟩ := transferAllowed source destination
  cases allowed <;> simp only <;> split_ifs <;> simp_all <;> omega

def requestOutcome (request : TransferRequest) : IfcOutcome :=
  judgedOutcome request.originalClassification request.exportability request.trust request.sourceDomain
    request.destinationDomain (judgedClassification request)

omit [Runtime] in
def KnownClassifications (request : TransferRequest) : Prop :=
  request.originalClassification ∈ classificationLevels ∧ judgedClassification request ∈ classificationLevels

theorem ifcDecision_known {request : TransferRequest} (known : KnownClassifications request) :
    ∃ decision, request.ifcDecision = .ok decision ∧ decision.outcome = requestOutcome request := by
  rw [TransferRequest.ifcDecision, TransferRequest.label, dif_pos known.1]
  exact evaluateIfc_known known.2

theorem ifcDecision_unknown {request : TransferRequest} (unknown : ¬ KnownClassifications request) :
    ∃ message, request.ifcDecision = .error message := by
  rw [TransferRequest.ifcDecision, TransferRequest.label]
  by_cases original : request.originalClassification ∈ classificationLevels
  · rw [dif_pos original]
    exact ⟨_, evaluateIfc_unknown fun judged => unknown ⟨original, judged⟩⟩
  · rw [dif_neg original]
    exact ⟨_, rfl⟩

def Releasable (request : TransferRequest) : Prop :=
  requestOutcome request ≠ .deny ∧ (requestOutcome request = .requireApproval → request.approverRef ≠ none)

theorem settle_released_iff (request : TransferRequest) (draw : Draw) (ifc : IfcDecision) :
    (request.settle draw ifc).outcome = .released ↔
      ifc.outcome ≠ .deny ∧ (ifc.outcome = .requireApproval → request.approverRef ≠ none) := by
  rw [TransferRequest.settle]
  split_ifs <;> simp_all

theorem settle_of_released {request : TransferRequest} {draw : Draw} {ifc : IfcDecision}
    (released : (request.settle draw ifc).outcome = .released) :
    (request.settle draw ifc).releasedClassification = some request.requestedClassification ∧
      (request.settle draw ifc).transformations =
        (applySanitization request.payload request.sanitizationRules).transformations := by
  obtain ⟨notDenied, approved⟩ := (settle_released_iff request draw ifc).mp released
  rw [TransferRequest.settle, if_neg notDenied, if_neg fun pending => approved pending.1 pending.2]
  exact ⟨rfl, rfl⟩

theorem request_cases (request : TransferRequest) (draw : Draw) :
    (KnownClassifications request ∧ ∃ transfer, requestCrossDomainTransfer request draw = .ok transfer ∧
        (transfer.outcome = .released ↔ Releasable request) ∧
        (transfer.outcome = .released →
          transfer.releasedClassification = some request.requestedClassification ∧
          transfer.transformations = (applySanitization request.payload request.sanitizationRules).transformations)) ∨
      ¬ KnownClassifications request ∧ ∃ message, requestCrossDomainTransfer request draw = .error message := by
  by_cases known : KnownClassifications request
  · left
    obtain ⟨decision, decided, outcome⟩ := ifcDecision_known known
    refine ⟨known, request.settle draw decision, by rw [requestCrossDomainTransfer, decided]; rfl, ?_, settle_of_released⟩
    rw [settle_released_iff, Releasable, outcome]
  · right
    obtain ⟨message, failed⟩ := ifcDecision_unknown known
    exact ⟨known, message, by rw [requestCrossDomainTransfer, failed]; rfl⟩

theorem known_of_ok {request : TransferRequest} {draw : Draw} {transfer : CrossDomainTransfer}
    (done : requestCrossDomainTransfer request draw = .ok transfer) :
    KnownClassifications request ∧ (transfer.outcome = .released ↔ Releasable request) ∧
      (transfer.outcome = .released →
        transfer.releasedClassification = some request.requestedClassification ∧
        transfer.transformations = (applySanitization request.payload request.sanitizationRules).transformations) := by
  rcases request_cases request draw with ⟨known, other, alsoDone, spec⟩ | ⟨_, message, failed⟩
  · rw [done, Except.ok.injEq] at alsoDone
    exact ⟨known, alsoDone ▸ spec⟩
  · rw [done] at failed
    cases failed

theorem known_of_decision {request : TransferRequest} {decision : IfcDecision}
    (decided : request.ifcDecision = .ok decision) :
    KnownClassifications request ∧ decision.outcome = requestOutcome request := by
  by_cases known : KnownClassifications request
  · obtain ⟨other, alsoDecided, outcome⟩ := ifcDecision_known known
    rw [decided, Except.ok.injEq] at alsoDecided
    exact ⟨known, alsoDecided ▸ outcome⟩
  · obtain ⟨message, failed⟩ := ifcDecision_unknown known
    rw [decided] at failed
    cases failed

/-- A transfer that has to be sanitized is released whether or not anything was: it is
transformed exactly when some rule names a path that the payload has. -/
theorem sanitized_release_transformed_iff (request : TransferRequest) (draw : Draw) :
    (∀ decision transfer, request.ifcDecision = .ok decision → decision.outcome = .sanitize →
        requestCrossDomainTransfer request draw = .ok transfer → transfer.outcome = .released →
        transfer.transformations ≠ []) ↔
      (∀ decision, request.ifcDecision = .ok decision → decision.outcome ≠ .sanitize) ∨
        ∃ rule ∈ request.sanitizationRules, pathPresent request.payload rule.fieldPath = true := by
  rw [← transformations_ne_nil_iff]
  constructor
  · intro transformed
    by_cases needed : ∃ decision, request.ifcDecision = .ok decision ∧ decision.outcome = .sanitize
    · right
      obtain ⟨decision, decided, sanitize⟩ := needed
      obtain ⟨known, outcome⟩ := known_of_decision decided
      have releasable : Releasable request := by simp [Releasable, ← outcome, sanitize]
      rcases request_cases request draw with ⟨_, transfer, done, released, spec⟩ | ⟨unknown, _⟩
      · have leaves := released.mpr releasable
        rw [← (spec leaves).2]
        exact transformed decision transfer decided sanitize done leaves
      · exact absurd known unknown
    · left
      intro decision decided sanitize
      exact needed ⟨decision, decided, sanitize⟩
  · intro condition decision transfer decided sanitize done released
    have applied := condition.resolve_left fun never => never decision decided sanitize
    rwa [((known_of_ok done).2.2 released).2]

abbrev Closed (request : TransferRequest) : Prop :=
  (transferAllowed request.sourceDomain request.destinationDomain).1 = false ∨ request.exportability = "forbidden"

theorem not_releasable_of_closed {request : TransferRequest} (closed : Closed request) : ¬ Releasable request := by
  intro releasable
  apply releasable.1
  exact if_pos closed

theorem releasable_iff_unapproved {request : TransferRequest} (unapproved : request.approverRef = none) :
    Releasable request ↔
      ¬ Closed request ∧
        classificationRank request.originalClassification ≤ classificationRank (judgedClassification request) ∧
        request.trust ∉ ["UNTRUSTED", "UNKNOWN"] := by
  by_cases closed : Closed request
  · simp only [closed, not_true_eq_false, false_and, iff_false]
    exact not_releasable_of_closed closed
  · have pending : requestOutcome request = .requireApproval ↔
        classificationRank (judgedClassification request) < classificationRank request.originalClassification ∨
          request.trust ∈ ["UNTRUSTED", "UNKNOWN"] := by
      rw [requestOutcome, judgedOutcome, if_neg closed]
      split_ifs <;> simp_all
    have undenied : requestOutcome request ≠ .deny := by
      rw [requestOutcome, judgedOutcome, if_neg closed]
      split_ifs <;> simp
    rw [Releasable, unapproved, pending, ← not_lt]
    tauto

/-- The classification written on an unapproved release is at least the original one,
unless an empty request was judged as the original and then written as it is. A
forbidden or refused transfer is never released. -/
theorem release_without_approval_iff (request : TransferRequest) (draw : Draw) :
    ((∀ transfer, requestCrossDomainTransfer request draw = .ok transfer → transfer.outcome = .released →
          request.approverRef = none →
          ∃ level, transfer.releasedClassification = some level ∧ level ∈ classificationLevels ∧
            classificationRank request.originalClassification ≤ classificationRank level) ∧
        (∀ transfer, requestCrossDomainTransfer request draw = .ok transfer →
          request.exportability = "forbidden" ∨
            (transferAllowed request.sourceDomain request.destinationDomain).1 = false →
          transfer.outcome ≠ .released)) ↔
      request.requestedClassification ≠ "" ∨ request.approverRef ≠ none ∨
        request.originalClassification ∉ classificationLevels ∨
        (transferAllowed request.sourceDomain request.destinationDomain).1 = false ∨
        request.exportability = "forbidden" ∨ request.trust ∈ ["UNTRUSTED", "UNKNOWN"] := by
  constructor
  · intro ⟨labelled, _⟩
    by_contra exception
    simp only [not_or, not_not, ne_eq, Bool.not_eq_false] at exception
    obtain ⟨empty, unapproved, original, allowed, exportable, trusted⟩ := exception
    have judged := judgedClassification_empty empty
    have releasable : Releasable request :=
      (releasable_iff_unapproved unapproved).mpr ⟨by simp [allowed, exportable], by rw [judged], trusted⟩
    rcases request_cases request draw with ⟨_, transfer, done, released, spec⟩ | ⟨unknown, _⟩
    · have leaves := released.mpr releasable
      obtain ⟨level, written, real, _⟩ := labelled transfer done leaves unapproved
      rw [(spec leaves).1, Option.some.injEq, empty] at written
      subst written
      exact absurd real (by decide)
    · exact absurd ⟨original, judged ▸ original⟩ unknown
  · intro condition
    constructor
    · intro transfer done released unapproved
      obtain ⟨known, releasable, spec⟩ := known_of_ok done
      obtain ⟨unclosed, ranks, trusted⟩ := (releasable_iff_unapproved unapproved).mp (releasable.mp released)
      have given : request.requestedClassification ≠ "" := by
        rcases condition with given | approved | unknown | denied | forbidden | doubtful
        · exact given
        · exact absurd unapproved approved
        · exact absurd known.1 unknown
        · exact absurd (.inl denied) unclosed
        · exact absurd (.inr forbidden) unclosed
        · exact absurd doubtful trusted
      have judged := judgedClassification_given given
      exact ⟨request.requestedClassification, (spec released).1, judged ▸ known.2, judged ▸ ranks⟩
    · intro transfer done closed released
      exact not_releasable_of_closed closed.symm ((known_of_ok done).2.1.mp released)

end

def someTransferDraw : Draw := { now := 0, uuid := 0 }

def sourceDomain : SecurityDomain where
  tenantId := "tenant"
  domainId := "source"
  classification := "internal"
  allowedFederation := ∅
  allowedDestinations := {"destination"}
  real := by decide

def destinationDomain : SecurityDomain where
  tenantId := "tenant"
  domainId := "destination"
  classification := "confidential"
  allowedFederation := ∅
  allowedDestinations := ∅
  real := by decide

def rawRequest : TransferRequest where
  artifactRef := "fedart-1"
  payload := [("user", .str "alice")]
  sourceDomain
  destinationDomain
  originalClassification := "internal"
  requestedClassification := "confidential"

/-- Sanitization is demanded, and the payload leaves as it came. -/
theorem raw_payload_released :
    letI := Runtime.transparent
    (∃ decision, rawRequest.ifcDecision = .ok decision ∧ decision.outcome = .sanitize) ∧
      ∃ transfer, requestCrossDomainTransfer rawRequest someTransferDraw = .ok transfer ∧
        transfer.outcome = .released ∧ transfer.transformations = [] ∧ transfer.releasedHash = transfer.originalHash :=
  ⟨⟨_, rfl, rfl⟩, _, rfl, rfl, rfl, rfl⟩

/-- A restricted original and an empty request: judged as restricted, released as nothing. -/
def unlabelledRequest : TransferRequest :=
  { rawRequest with originalClassification := "restricted", requestedClassification := "" }

theorem unlabelled_release :
    letI := Runtime.transparent
    unlabelledRequest.approverRef = none ∧
      ∃ transfer, requestCrossDomainTransfer unlabelledRequest someTransferDraw = .ok transfer ∧
        transfer.outcome = .released ∧ transfer.releasedClassification = some "" ∧ "" ∉ classificationLevels :=
  ⟨rfl, _, rfl, rfl, rfl, by decide⟩

end ArgosCore.Proofs
