import ArgosCore.Checks
import ArgosCore.Federation.FederatedArtifact
import ArgosCore.Foundations.WriteOnce
import ArgosCore.SemanticConflict

/-! Local evaluation of a federated artifact against the two shared stores of an
instance: the anti-replay ledger and the registry of revocations. -/

namespace ArgosCore

/-- `FederationLedger._seen`: artifact id to content hash. -/
structure FederationLedger where
  seen : Dict String := []

structure RevocationRegistry where
  revoked : Dict String := []
  reasons : Dict String := []

namespace RevocationRegistry

def revoke (registry : RevocationRegistry) (artifactId revokedAt reason : String) : RevocationRegistry where
  revoked := registry.revoked.set artifactId revokedAt
  reasons := registry.reasons.set artifactId reason

def isRevoked (registry : RevocationRegistry) (artifactId : String) : Bool :=
  (registry.revoked.lookup artifactId).isSome

def revokedAt (registry : RevocationRegistry) (artifactId : String) : Option String :=
  registry.revoked.lookup artifactId

@[simp] theorem isRevoked_revoke (registry : RevocationRegistry) (artifactId revokedAt reason other : String) :
    (registry.revoke artifactId revokedAt reason).isRevoked other = (decide (other = artifactId) || registry.isRevoked other) := by
  by_cases same : other = artifactId <;> simp [revoke, isRevoked, same]

end RevocationRegistry

inductive FederationOutcome where
  | accept
  | quarantine
  | reject
  | localRevalidationRequired
  deriving DecidableEq, Repr

abbrev TrustDimension := Check

structure FederationDecision where
  decisionId : String
  artifactRef : String
  localDomain : String
  decision : FederationOutcome
  reasonCodes : List String
  policyRefs : List String
  classificationResult : String
  trustResult : String
  provenanceResult : String
  freshnessResult : String
  semanticConflictResult : ConflictState
  requiredRevalidation : List String
  decisionTime : String
  evidenceRefs : List String
  deriving DecidableEq

/-- The arguments of `evaluate_federation` besides the two stores. Of the semantic
conflict it reads the state. -/
structure FederationCall where
  artifact : FederatedArtifact
  localDomain : SecurityDomain
  remoteDomain : SecurityDomain
  knownSourceInstances : Finset String
  semanticConflict : Option ConflictState := none
  evidenceResolvable : Option Bool := none
  now : Option String := none

/-- `now or utc_now_iso()` -/
def FederationCall.effectiveNow (call : FederationCall) (draw : Draw) : String :=
  orDefault call.now draw.utcNowIso

def FederationCall.conflictState (call : FederationCall) : ConflictState :=
  call.semanticConflict.getD .unknown

def expired (artifact : FederatedArtifact) (now : String) : Bool :=
  artifact.validUntil.any (· < now)

variable [Runtime]

def reprOption : Option String → String
  | none => "None"
  | some text => Runtime.reprStr text

/-- `check_and_record`; an error is the `ContentConflict`, which leaves the ledger alone. -/
def FederationLedger.checkAndRecord (ledger : FederationLedger) (artifactId contentHash : String) :
    Except String FederationLedger :=
  match ledger.seen.lookup artifactId with
  | none => .ok { seen := ledger.seen.set artifactId contentHash }
  | some existing =>
    if existing ≠ contentHash then
      .error ("artifact_id " ++ Runtime.reprStr artifactId ++ " ya visto con content_hash " ++
        Runtime.reprStr existing ++ ", ahora llega con " ++ Runtime.reprStr contentHash)
    else .ok ledger

/-- `_evaluate_dimensions`. The ledger is written whatever the other dimensions say. -/
def evaluateDimensions (call : FederationCall) (registry : RevocationRegistry) (ledger : FederationLedger)
    (now : String) : List TrustDimension × FederationLedger :=
  let artifact := call.artifact
  let hashValid := verifyContentHash artifact
  let sourceKnown : Bool := artifact.originInstance ∈ call.knownSourceInstances
  let (fedAllowed, fedReason) := federationAllowed call.localDomain call.remoteDomain.domainId
  let (domainOk, domainReason) := transferAllowed call.remoteDomain call.localDomain
  let fresh := !expired artifact now
  let isRevoked := registry.isRevoked artifact.artifactId
  let (noReplayConflict, replayDetail, recorded) :=
    match ledger.checkAndRecord artifact.artifactId artifact.contentHash with
    | .ok recorded => (true, "sin conflicto de replay", recorded)
    | .error conflict => (false, conflict, ledger)
  ([⟨"schema_valid", some true, "estructura de FederatedArtifact válida (construcción tipada)"⟩,
    ⟨"hash_valid", some hashValid,
      if hashValid then "content_hash recomputado coincide" else "content_hash NO coincide con el payload real"⟩,
    ⟨"provenance_present", some (!artifact.provenance.isEmpty || !artifact.sourceRefs.isEmpty),
      "provenance=" ++ reprList artifact.provenance ++ ", source_refs=" ++ reprList artifact.sourceRefs⟩,
    ⟨"source_known", some sourceKnown, "origin_instance " ++ Runtime.reprStr artifact.originInstance ++ " " ++
      (if sourceKnown then "conocido" else "NO reconocido")⟩,
    ⟨"source_allowed", some fedAllowed, fedReason⟩,
    ⟨"classification_compatible", some (["internal", "confidential", "restricted"].contains artifact.originClassification),
      "origin_classification=" ++ Runtime.reprStr artifact.originClassification⟩,
    ⟨"domain_transfer_allowed", some domainOk, domainReason⟩,
    ⟨"fresh_enough", some fresh,
      if fresh then "vigente (valid_until=" ++ reprOption artifact.validUntil ++ ")"
      else "expirado: valid_until=" ++ reprOption artifact.validUntil ++ " < now=" ++ Runtime.reprStr now⟩,
    ⟨"not_revoked", some (!isRevoked),
      if isRevoked then "revocado en " ++ reprOption (registry.revokedAt artifact.artifactId) else "sin revocar"⟩,
    ⟨"not_authoritative_by_default", some (artifact.originTrust ≠ "AUTHORITATIVE"),
      "origin_trust=" ++ Runtime.reprStr artifact.originTrust⟩,
    ⟨"no_replay_conflict", some noReplayConflict, replayDetail⟩,
    ⟨"evidence_resolvable", call.evidenceResolvable,
      match call.evidenceResolvable with
      | none => "no re-suministrado"
      | some resolvable => reprBool resolvable⟩], recorded)

omit [Runtime] in
/-- Whether a dimension of this name passed. -/
def dimensionPassed (dimensions : List TrustDimension) (name : String) : Bool :=
  dimensions.any fun dimension => dimension.name = name && dimension.passed = some true

omit [Runtime] in
/-- The second half of `evaluate_federation`: from the dimensions to the decision. -/
def concludeFederation (call : FederationCall) (draw : Draw) (dimensions : List TrustDimension) : FederationDecision :=
  let violations := violated dimensions
  let unevaluated := notEvaluated dimensions
  let conflictState := call.conflictState
  let quarantined := violations = [] ∧ conflictState ∈ [ConflictState.conflict, ConflictState.requiresAuthority]
  { decisionId := newIdPrefixed "feddec" draw.uuid
    artifactRef := call.artifact.artifactId
    localDomain := call.localDomain.domainId
    decision :=
      if violations ≠ [] then .reject
      else if conflictState ∈ [ConflictState.conflict, ConflictState.requiresAuthority] then .quarantine
      else if unevaluated ≠ [] then .localRevalidationRequired
      else .accept
    reasonCodes := violations.map String.toUpper ++ if quarantined then ["SEMANTIC_" ++ conflictState.text] else []
    policyRefs := ["security_domain.transfer_allowed", "security_domain.federation_allowed"]
    classificationResult := if dimensionPassed dimensions "classification_compatible" then "OK" else "MISMATCH"
    trustResult := if violations = [] then "OK" else "VIOLATION"
    provenanceResult := if dimensionPassed dimensions "provenance_present" then "OK" else "INSUFFICIENT"
    freshnessResult := if dimensionPassed dimensions "fresh_enough" then "OK" else "EXPIRED"
    semanticConflictResult := conflictState
    requiredRevalidation := unevaluated
    decisionTime := call.effectiveNow draw
    evidenceRefs := call.artifact.sourceRefs }

def evaluateFederation (call : FederationCall) (draw : Draw) (registry : RevocationRegistry)
    (ledger : FederationLedger) : FederationDecision × FederationLedger :=
  let (dimensions, recorded) := evaluateDimensions call registry ledger (call.effectiveNow draw)
  (concludeFederation call draw dimensions, recorded)

/-- The two stores that the calls of an instance share. -/
structure FederationState where
  ledger : FederationLedger := {}
  registry : RevocationRegistry := {}

inductive FederationOp where
  | evaluate (call : FederationCall) (draw : Draw)
  | revoke (artifactId revokedAt reason : String)

namespace FederationState

def evaluate (state : FederationState) (call : FederationCall) (draw : Draw) : FederationDecision :=
  (evaluateFederation call draw state.registry state.ledger).1

def step (state : FederationState) : FederationOp → FederationState
  | .evaluate call draw => { state with ledger := (evaluateFederation call draw state.registry state.ledger).2 }
  | .revoke artifactId revokedAt reason => { state with registry := state.registry.revoke artifactId revokedAt reason }

def run (state : FederationState) (ops : List FederationOp) : FederationState := ops.foldl step state

end FederationState

end ArgosCore
