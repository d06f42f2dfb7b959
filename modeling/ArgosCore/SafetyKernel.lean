import ArgosCore.Checks
import ArgosCore.Correlator
import Mathlib.Data.Finset.Basic

/-! The deterministic safety kernel: fourteen checks over the caller's facts, and
the envelope that seals the limits of a recommendation. -/

namespace ArgosCore

inductive SafetyKernelState where
  | safeToEvaluate
  | blocked
  | inconclusive
  | escalate
  deriving DecidableEq, Repr

def maxBlastRadius : Int := 2

def maxTargets : Int := 1

def executionEnvironment : String := "argos-cyber-range"

def policyRef : String := "F07"

def envelopeTtlMinutes : Int := 15

/-- The facts of the caller; one that cannot be computed is `none`. -/
structure SafetyCheckInput where
  incident : Json.Object
  recommendation : Json.Object
  target : String
  toolName : String
  toolModes : List String
  sideEffectClass : String
  rollbackSupported : Bool
  toolTimeoutSeconds : Int
  toolKnown : Bool
  targetAllowlist : Finset String
  evidenceManifestId : Option String := none
  knownAssetIds : Option (Finset String) := none
  toolDigestValid : Option Bool := none
  observedBlastRadiusCount : Option Int := none
  noUnresolvedCriticalDrift : Option Bool := none
  missionBlastRadius : Option String := none
  missionContextHash : Option String := none

structure SafetyKernelDecision where
  state : SafetyKernelState
  checks : List Check
  envelope : Option Json.Object
  reason : String
  deriving DecidableEq

inductive SafetyKernelError where
  | typeError
  | invalidSafetyEnvelope (errors : List String)
  deriving DecidableEq, Repr

variable [Runtime]

namespace SafetyKernel

/-- `a or b` -/
def orElse (value other : Json) : Json := if value.truthy then value else other

def targetExists (inp : SafetyCheckInput) : Check where
  name := "target_exists"
  passed := inp.knownAssetIds.map fun known => inp.target ∈ known
  detail := match inp.knownAssetIds with
    | none => "known_asset_ids no suministrado por el llamante (inventario no consultado)"
    | some known => "target " ++ Runtime.reprStr inp.target ++
        (if inp.target ∈ known then " en" else " ausente de") ++ " el inventario suministrado"

def toolDigestValid (inp : SafetyCheckInput) : Check where
  name := "tool_digest_valid"
  passed := inp.toolDigestValid
  detail := match inp.toolDigestValid with
    | none => "no suministrado por el llamante (integridad del catálogo no comprobada en esta llamada)"
    | some valid => "verify_integrity_manifest reportó " ++ (if valid then "sin discrepancias" else "discrepancia")

def blastRadiusBounded (inp : SafetyCheckInput) : Check where
  name := "blast_radius_bounded"
  passed := inp.observedBlastRadiusCount.map (· ≤ maxBlastRadius)
  detail := match inp.observedBlastRadiusCount with
    | none => "observed_blast_radius_count no suministrado (graph.blast_radius no invocado desde aquí)"
    | some count => s!"{count} recurso(s) afectados, máximo {maxBlastRadius}"

def missionImpactBounded (inp : SafetyCheckInput) : Check :=
  match inp.missionBlastRadius.filter (· ≠ "INSUFFICIENT_CONTEXT") with
  | none =>
    { name := "mission_impact_bounded"
      passed := none
      detail := "mission_blast_radius no suministrado o INSUFFICIENT_CONTEXT (MissionContext no evaluado para este target)" }
  | some radius =>
    { name := "mission_impact_bounded"
      passed := some (radius ≠ "CRITICAL")
      detail := "mission_blast_radius=" ++ Runtime.reprStr radius ++
        (if radius ≠ "CRITICAL" then " (acotado)" else " (CRITICAL, no acotado)") }

def noUnresolvedCriticalDrift (inp : SafetyCheckInput) : Check where
  name := "no_unresolved_critical_drift"
  passed := inp.noUnresolvedCriticalDrift
  detail := match inp.noUnresolvedCriticalDrift with
    | none => "no suministrado por el llamante (evaluators/drift no consultado para este target)"
    | some absent => "drift crítico " ++ (if absent then "ausente" else "presente y sin resolver")

def noProhibitedAction (inp : SafetyCheckInput) : Check :=
  let allowed := inp.sideEffectClass ∉ ["IRREVERSIBLE", "DESTRUCTIVE"]
  { name := "no_prohibited_action"
    passed := some allowed
    detail := "side_effect_class=" ++ Runtime.reprStr inp.sideEffectClass ++
      (if allowed then " (permitido)" else " (DENY incondicional, ADR-053)") }

/-- `_run_checks`. The errors of the incident against its schema are given; `none`
is the type error of references that have no length. -/
def runChecks (inp : SafetyCheckInput) (incidentErrors : List String) : Option (List Check) := do
  let evidenceRefs := orElse (orElse (Json.get inp.incident "evidence_refs")
    (Json.get inp.recommendation "rationale_refs")) (.arr [])
  let evidenceCount ← evidenceRefs.length?
  let incidentText := String.intercalate "; " incidentErrors
  let inScope := inp.target ∈ inp.targetAllowlist
  let rollback := "rollback_supported=" ++ reprBool inp.rollbackSupported
  return [
    ⟨"incident_valid", some incidentErrors.isEmpty, if incidentText = "" then "Incident v1 válido" else incidentText⟩,
    ⟨"evidence_sufficient", some evidenceRefs.truthy, s!"{evidenceCount} evidence_ref(s)"⟩,
    targetExists inp,
    ⟨"target_in_scope", some inScope,
      "target " ++ Runtime.reprStr inp.target ++ (if inScope then " en" else " fuera de") ++ " la allowlist"⟩,
    ⟨"tool_active", some inp.toolKnown, "tool " ++ Runtime.reprStr inp.toolName ++
      (if inp.toolKnown then " presente" else " ausente") ++ " en el catálogo"⟩,
    toolDigestValid inp,
    ⟨"runbook_signed", none, "sin mecanismo de firma de runbooks todavía (Sovereign Root of Trust no existe)"⟩,
    ⟨"action_reversible", some inp.rollbackSupported, rollback⟩,
    ⟨"rollback_available", some inp.rollbackSupported, rollback⟩,
    blastRadiusBounded inp,
    missionImpactBounded inp,
    ⟨"runtime_trust_valid", none, "RuntimeTrustContext no existe todavía"⟩,
    noUnresolvedCriticalDrift inp,
    noProhibitedAction inp]

omit [Runtime] in
def decideState (checks : List Check) : SafetyKernelState × String :=
  decideOver checks
    (fun names => (.blocked, "BLOCKED: " ++ String.intercalate ", " names ++ " (fail-closed, ADR-054)"))
    (fun names => (.inconclusive, "INCONCLUSIVE: sin violaciones conocidas, pero " ++ String.intercalate ", " names ++
      " no se pudo evaluar — no se asume seguro"))
    (.safeToEvaluate, "SAFE_TO_EVALUATE — habilita evaluación por OPA/HITL; NO es una aprobación " ++
      "(SAFE_TO_EVALUATE ≠ APPROVED)")

/-- `_canonical_hash` -/
def canonicalHash (payload : Json.Object) (exclude : List String) : String :=
  hashJson (.obj (payload.filter fun member => member.1 ∉ exclude))

def allowedActions (inp : SafetyCheckInput) : List String :=
  if inp.sideEffectClass ∈ ["IRREVERSIBLE", "DESTRUCTIVE"] then []
  else inp.toolModes.filter fun mode =>
    mode ≠ "execute" || (inp.rollbackSupported && inp.sideEffectClass = "REVERSIBLE_WRITE")

def forbiddenActions (inp : SafetyCheckInput) : List String :=
  if inp.sideEffectClass ∈ ["IRREVERSIBLE", "DESTRUCTIVE"] then inp.toolModes
  else inp.toolModes.filter (· ∉ allowedActions inp)

def residualRisk (checks : List Check) : String :=
  if notEvaluated checks = [] then "Ningún check queda sin evaluar."
  else "NOT_EVALUATED: " ++ String.intercalate ", " (notEvaluated checks) ++ " — no se asume PASS para ninguno."

def verificationPredicates (inp : SafetyCheckInput) : List String :=
  ("rollback_supported==" ++ reprBool inp.rollbackSupported ++ " para " ++ Runtime.reprStr inp.toolName) ::
    match inp.observedBlastRadiusCount with
    | none => []
    | some count => [s!"blast_radius_count<= {maxBlastRadius} (observado: {count})"]

def missionBounds (inp : SafetyCheckInput) : Json :=
  match inp.missionBlastRadius with
  | none => .null
  | some radius =>
    if radius = "INSUFFICIENT_CONTEXT" then .null
    else .obj [("mission_blast_radius", .str radius), ("mission_context_hash", optionalStr inp.missionContextHash)]

def unsealedPayload (inp : SafetyCheckInput) (checks : List Check) (draw : Draw) : Json.Object :=
  [("envelope_id", .str (newIdPrefixed "safenv" draw.uuid)),
    ("incident_ref", Json.getOr inp.incident "incident_id" (.str "")),
    ("evidence_root", optionalStr inp.evidenceManifestId),
    ("target_set", .arr [.str inp.target]),
    ("allowed_actions", .arr ((allowedActions inp).map .str)),
    ("forbidden_actions", .arr ((forbiddenActions inp).map .str)),
    ("max_targets", .int maxTargets),
    ("max_blast_radius", .int maxBlastRadius),
    ("max_duration", .int inp.toolTimeoutSeconds),
    ("execution_environment", .str executionEnvironment),
    ("required_runbook", .str ("runbooks/" ++ inp.toolName ++ ".md")),
    ("verification_predicates", .arr ((verificationPredicates inp).map .str)),
    ("rollback_ref", .str ("rollback/" ++ inp.toolName)),
    ("runtime_trust_ref", .null),
    ("mission_bounds", missionBounds inp),
    ("policy_ref", .str policyRef),
    ("residual_risk", .str (residualRisk checks)),
    ("valid_until", .str (IsoTime.isoformat (draw.now + IsoTime.minutes envelopeTtlMinutes)))]

/-- `_build_envelope_payload` -/
def buildEnvelopePayload (inp : SafetyCheckInput) (checks : List Check) (draw : Draw) : Json.Object :=
  let payload := unsealedPayload inp checks draw
  let envelopeHash := canonicalHash payload ["envelope_hash", "signature"]
  payload ++ [("envelope_hash", .str envelopeHash),
    ("signature", .str (hashText (envelopeHash ++ ":" ++ strJson (Json.get payload "incident_ref"))))]

def fullPayload (inp : SafetyCheckInput) (checks : List Check) (context : EnvelopeContext) (created enveloped : Draw) :
    Json.Object :=
  let payload := buildEnvelopePayload inp checks created
  (buildEnvelope context payload (newIdPrefixed "safenv" created.uuid) enveloped).setAll payload

def evaluate (validatePayload : String → Json.Object → List String) (inp : SafetyCheckInput) (context : EnvelopeContext)
    (created enveloped : Draw) : Except SafetyKernelError SafetyKernelDecision :=
  match runChecks inp (validatePayload "incident" inp.incident) with
  | none => .error .typeError
  | some checks =>
    let (state, reason) := decideState checks
    if state ≠ .safeToEvaluate then .ok { state, checks, envelope := none, reason }
    else
      let full := fullPayload inp checks context created enveloped
      let errors := validatePayload "safety-envelope" full
      if errors ≠ [] then .error (.invalidSafetyEnvelope errors)
      else .ok { state := .safeToEvaluate, checks, envelope := some full, reason }

omit [Runtime] in
/-- `action_request_within_envelope`; `none` is the error of an envelope without a field
that is read, or with one that contains nothing. -/
def actionRequestWithinEnvelope (target action : String) (envelope : Json.Object) : Option Bool := do
  let targetSet ← envelope.lookup "target_set"
  if ← targetSet.contains? target then
    let allowedActions ← envelope.lookup "allowed_actions"
    allowedActions.contains? action
  else return false

end SafetyKernel

end ArgosCore
