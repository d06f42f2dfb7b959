import ArgosCore.RuleEngineering.Backtest
import ArgosCore.Runtime

/-! The gate before a rule is deployed: a confirmed threat, a backtest without a storm of
alerts and a durable approval, all of them. -/

namespace ArgosCore

/-- `dataclasses.asdict`, apart from the average, which is a float. -/
def BacktestResult.asDict (result : BacktestResult) : Json.Object := [
  ("events_matched", .int result.eventsMatched),
  ("estimated_alerts", .int result.estimatedAlerts),
  ("unique_assets", .int result.uniqueAssets),
  ("unique_users", .int result.uniqueUsers),
  ("max_alerts_per_hour", .int result.maxAlertsPerHour)]

structure RuleDeploymentAuthorizationResult where
  allowed : Bool
  reason : String
  deriving DecidableEq, Repr

structure RuleDeploymentGate where
  maxAlertsPerHour : Int := 100

variable [Runtime]

def RuleDeploymentGate.stormReason (gate : RuleDeploymentGate) (maxAlerts : Json) : String :=
  "max_alerts_per_hour=" ++ strJson maxAlerts ++ " excede el umbral aceptable (" ++ toString gate.maxAlertsPerHour ++
    ") -- riesgo de tormenta de alertas"

def undurableReason : String :=
  "AI_DIRECT_RULE_DEPLOYMENT=DENY: sin almacén de aprobación durable conectado a este flujo " ++
    "(DurableApprovalStore existe y está probado, argos-cyber-tools/policies/approval/" ++
    "durable_store.py, pero ningún despliegue real lo usa todavía) -- generación/validación/" ++
    "presentación al SOC permitidas, despliegue automático no"

/-- `authorize_deployment`; `none` is the type error of a volume that is no number. The rule
itself is not looked at. -/
def RuleDeploymentGate.authorizeDeployment (gate : RuleDeploymentGate) (socDecision : Json.Object)
    (backtestResult : Option Json.Object) (durableApprovalAvailable : Bool) : Option RuleDeploymentAuthorizationResult :=
  let decision := Json.get socDecision "decision"
  if decision ≠ .str "CONFIRMED_THREAT" then
    some ⟨false, "SOCDecision.decision=" ++ reprJson decision ++ " != CONFIRMED_THREAT"⟩
  else match backtestResult with
  | none => some ⟨false, "sin BacktestResult -- ninguna regla se despliega sin backtesting"⟩
  | some backtest =>
    let maxAlerts := Json.get backtest "max_alerts_per_hour"
    if maxAlerts = .null then some ⟨false, gate.stormReason maxAlerts⟩
    else do
      let volume ← maxAlerts.number?
      if volume > gate.maxAlertsPerHour then return ⟨false, gate.stormReason maxAlerts⟩
      else if !durableApprovalAvailable then return ⟨false, undurableReason⟩
      else return ⟨true, "autorizado"⟩

end ArgosCore
