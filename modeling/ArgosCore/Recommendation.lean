import ArgosCore.Correlator

/-! The recommendation engine that works without a model: a fixed runbook for each
severity. -/

namespace ArgosCore

structure Alternative where
  action : String
  description : String
  deriving DecidableEq, Repr

def Alternative.toDict (alternative : Alternative) : Json.Object :=
  [("action", .str alternative.action), ("description", .str alternative.description)]

def isolateWorkload : Alternative where
  action := "isolate_kubernetes_workload"
  description := "Aplicar CiliumNetworkPolicy temporal de aislamiento"

structure Runbook where
  selected : Alternative
  others : List Alternative := []
  deriving DecidableEq, Repr

def Runbook.alternatives (runbook : Runbook) : List Alternative := runbook.selected :: runbook.others

def logOnly : Runbook where
  selected := ⟨"log_only", "Registrar para revisión periódica, sin acción de contención"⟩

/-- `_RUNBOOK_BY_SEVERITY` -/
def runbookBySeverity : Dict Runbook := [
  ("critical", { selected := isolateWorkload, others := [⟨"scale_to_zero", "Escalar a cero el deployment afectado"⟩] }),
  ("high", { selected := isolateWorkload }),
  ("medium", { selected := ⟨"increase_monitoring", "Elevar verbosidad de logging/telemetría del activo afectado"⟩ }),
  ("low", logOnly)]

inductive RecommendationError where
  | keyError (key : String)
  | typeError
  | invalidRecommendation (errors : List String)
  deriving DecidableEq, Repr

/-- `_RUNBOOK_BY_SEVERITY.get(severity, _RUNBOOK_BY_SEVERITY["low"])`. A list or a dictionary is
no key of any dictionary. -/
def runbookFor : Json → Except RecommendationError Runbook
  | .str severity => .ok ((runbookBySeverity.lookup severity).getD logOnly)
  | .null | .bool _ | .int _ => .ok logOnly
  | .arr _ | .obj _ => .error .typeError

variable [Runtime]

def recommendationPayload (incident : Json.Object) (recommendationId : String) :
    Except RecommendationError Json.Object := do
  let severity := Json.getOr incident "severity" (.str "low")
  let runbook ← runbookFor severity
  let incidentId ← Json.item incident "incident_id" (.keyError "incident_id")
  return [
    ("recommendation_id", .str recommendationId),
    ("incident_id", incidentId),
    ("alternatives", .arr (runbook.alternatives.map fun alternative => .obj alternative.toDict)),
    ("selected_action", .str runbook.selected.action),
    ("rationale_refs", Json.getOr incident "evidence_refs" (.arr [])),
    ("impact", .str ("Fallback determinista para severidad '" ++ strJson severity ++ "'; sin LLM disponible")),
    ("uncertainty", .str "alta — decisión por regla fija, no por análisis del incidente concreto"),
    ("rollback_plan", .str "Revertir la política/escala aplicada y restaurar el estado previo verificado")]

def generateRecommendation (validate : Json.Object → List String) (context : EnvelopeContext) (incident : Json.Object)
    (draw : Draw) : Except RecommendationError Json.Object := do
  let recommendationId := newIdPrefixed "reco" draw.uuid
  let payload ← recommendationPayload incident recommendationId
  let fullPayload := (buildEnvelope context payload recommendationId draw).setAll payload
  if validate fullPayload ≠ [] then throw (.invalidRecommendation (validate fullPayload))
  return fullPayload

end ArgosCore
