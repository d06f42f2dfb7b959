import ArgosCore.Correlator
import Mathlib.Data.Finset.Basic

/-! The policy decision point that stands in for OPA in local development, with the rule of
the range: a dry run is allowed within the allowlist, an execution needs an approval. -/

namespace ArgosCore

inductive PolicyResult where
  | deny
  | approvalRequired
  | allowDryRun
  deriving DecidableEq, Repr

def PolicyResult.text : PolicyResult → String
  | .deny => "DENY"
  | .approvalRequired => "APPROVAL_REQUIRED"
  | .allowDryRun => "ALLOW_DRY_RUN"

structure PolicyDecisionPoint where
  validate : Json.Object → List String
  context : EnvelopeContext
  targetAllowlist : Finset String
  policyVersion : String := "0.1.0-local"

structure PolicyRequest where
  subject : String
  tool : String
  action : String
  target : String
  deriving DecidableEq, Repr

inductive PolicyError where
  | invalidPolicyDecision (errors : List String)
  deriving DecidableEq, Repr

namespace PolicyDecisionPoint

def rule (pdp : PolicyDecisionPoint) (request : PolicyRequest) : PolicyResult × String :=
  if request.target ∉ pdp.targetAllowlist then (.deny, "target '" ++ request.target ++ "' fuera de la allowlist")
  else if request.action = "execute" then
    (.approvalRequired, "execute requiere aprobación humana vinculada al action_id (ADR-011)")
  else if request.action = "dry-run" then (.allowDryRun, "dry-run permitido dentro de la allowlist")
  else (.deny, "acción desconocida '" ++ request.action ++ "'")

def payload (pdp : PolicyDecisionPoint) (request : PolicyRequest) (decisionId : String) : Json.Object := [
  ("decision_id", .str decisionId),
  ("policy_version", .str pdp.policyVersion),
  ("subject", .str request.subject),
  ("tool", .str request.tool),
  ("action", .str request.action),
  ("target", .str request.target),
  ("result", .str (pdp.rule request).1.text),
  ("reason", .str (pdp.rule request).2)]

variable [Runtime]

/-- `InMemoryPolicyDecisionPoint.evaluate` -/
def evaluate (pdp : PolicyDecisionPoint) (request : PolicyRequest) (draw : Draw) : Except PolicyError Json.Object :=
  let decisionId := newIdPrefixed "pol" draw.uuid
  let payload := pdp.payload request decisionId
  let fullPayload := (buildEnvelope pdp.context payload decisionId draw).setAll payload
  if pdp.validate fullPayload ≠ [] then .error (.invalidPolicyDecision (pdp.validate fullPayload)) else .ok fullPayload

end PolicyDecisionPoint

end ArgosCore
