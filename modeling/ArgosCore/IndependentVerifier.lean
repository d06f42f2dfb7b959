import ArgosCore.Checks
import ArgosCore.Runtime
import Mathlib.Data.Finset.Basic

/-! The independent verification barrier: nine checks of an envelope against facts
that the caller has looked up again. -/

namespace ArgosCore

inductive VerificationState where
  | verified
  | inconclusive
  | rejected
  deriving DecidableEq, Repr

/-- The fresh facts; one that could not be confirmed again is `none`. -/
structure VerificationCheckInput where
  envelope : Json.Object
  incident : Json.Object
  toolName : String
  target : String
  targetAllowlist : Finset String
  targetConfirmedLive : Option Bool := none
  runbookExists : Option Bool := none
  rollbackDryRunOk : Option Bool := none
  observedBlastRadiusCount : Option Int := none
  freshMissionContextHash : Option String := none
  freshMissionBlastRadius : Option String := none
  unresolvedSemanticConflicts : Option Bool := none

structure VerificationDecision where
  state : VerificationState
  checks : List Check
  reason : String
  deriving DecidableEq, Repr

inductive VerificationError where
  | invalidVerificationInput (message : String)
  | typeError
  | attributeError
  deriving DecidableEq, Repr

namespace IndependentVerifier

variable [Runtime]

/-- `_check_mission_constraints` -/
def checkMissionConstraints (envelope : Json.Object) (inp : VerificationCheckInput) :
    Except VerificationError (Option Bool × String) :=
  match Json.get envelope "mission_bounds" with
  | .null => .ok (none, "Safety Kernel no evaluó MissionContext para esta acción (mission_bounds ausente en el envelope)")
  | .obj missionBounds =>
    let sealedHash := Json.get missionBounds "mission_context_hash"
    -- A hash that is missing on either side is not compared.
    match inp.freshMissionContextHash.filter fun fresh => sealedHash ≠ .null ∧ sealedHash ≠ .str fresh with
    | some fresh => .ok (some false, "MissionContext hash no coincide: sellado=" ++ reprJson sealedHash ++ ", fresco=" ++
        Runtime.reprStr fresh ++ " (referencia obsoleta o incorrecta)")
    | none =>
      match inp.freshMissionBlastRadius with
      | none => .ok (none, "fresh_mission_blast_radius no re-suministrado en la verificación")
      | some radius =>
        if radius = "INSUFFICIENT_CONTEXT" then
          .ok (none, "MissionContext sigue sin evaluación suficiente en la re-verificación fresca")
        else if radius = "CRITICAL" then
          .ok (some false, "mission_blast_radius=CRITICAL en la re-verificación fresca")
        else match inp.unresolvedSemanticConflicts with
        | none => .ok (none, "unresolved_semantic_conflicts no re-suministrado en la verificación")
        | some true => .ok (some false, "conflicto semántico sin resolver (REQUIRES_AUTHORITY) afecta a este target")
        | some false => .ok (some true, "mission_context_hash coincide con el sellado, mission_blast_radius=" ++
            Runtime.reprStr radius ++ " (no CRITICAL), sin conflictos sin resolver")
  | _ => .error .attributeError

omit [Runtime] in
def referencesResolve (inp : VerificationCheckInput) : Bool :=
  (Json.get inp.envelope "incident_ref").equals (Json.get inp.incident "incident_id") &&
    (Json.get inp.envelope "rollback_ref").equals (.str ("rollback/" ++ inp.toolName)) &&
    (Json.get inp.envelope "required_runbook").equals (.str ("runbooks/" ++ inp.toolName ++ ".md"))

omit [Runtime] in
/-- `incident.get("evidence_refs") or []` -/
def evidenceRefs (inp : VerificationCheckInput) : Json :=
  if (Json.get inp.incident "evidence_refs").truthy then Json.get inp.incident "evidence_refs" else .arr []

omit [Runtime] in
def factsExist (inp : VerificationCheckInput) : Bool :=
  (evidenceRefs inp).truthy || Json.get inp.envelope "evidence_root" ≠ .null

def targetsExist (inp : VerificationCheckInput) : Check where
  name := "targets_exist"
  passed := inp.targetConfirmedLive
  detail := match inp.targetConfirmedLive with
    | none => "target_confirmed_live no suministrado (inventario no re-consultado en verificación)"
    | some live => "target " ++ Runtime.reprStr inp.target ++
        (if live then " confirmado vivo" else " ya NO presente") ++ " en la re-consulta"

def runbookExists (inp : VerificationCheckInput) : Check where
  name := "runbook_exists"
  passed := inp.runbookExists
  detail := match inp.runbookExists with
    | none => "runbook_exists no suministrado (safety_kernel nunca lo comprobó — runbook_signed siempre fue None)"
    | some found => strJson (Json.get inp.envelope "required_runbook") ++
        (if found then " existe" else " NO existe") ++ " en argos-cyber-tools/runbooks/"

omit [Runtime] in
/-- The envelope's targets are only looked at for a target that is still allowed. -/
def preconditionsHold (inp : VerificationCheckInput) : Except VerificationError Bool :=
  if inp.target ∈ inp.targetAllowlist then
    match (Json.getOr inp.envelope "target_set" (.arr [])).contains? inp.target with
    | some found => .ok found
    | none => .error .typeError
  else .ok false

omit [Runtime] in
def rollbackExecutable (inp : VerificationCheckInput) : Check where
  name := "rollback_executable"
  passed := inp.rollbackDryRunOk
  detail := match inp.rollbackDryRunOk with
    | none => "rollback_dry_run_ok no suministrado (más fuerte que rollback_supported del catálogo: exige un dry-run real)"
    | some executed => "dry-run de rollback " ++ (if executed then "confirmado ejecutable" else "FALLÓ")

def blastRadiusBounded (inp : VerificationCheckInput) : Except VerificationError Check :=
  let maxBlastRadius := Json.get inp.envelope "max_blast_radius"
  match inp.observedBlastRadiusCount with
  | none => .ok
    { name := "blast_radius_bounded"
      passed := none
      detail := "observed_blast_radius_count no re-suministrado en verificación (no se reutiliza el valor visto por safety_kernel)" }
  | some count =>
    let detail := toString count ++ " recurso(s), máximo declarado en el envelope: " ++ strJson maxBlastRadius
    if maxBlastRadius = .null then .ok { name := "blast_radius_bounded", passed := some false, detail }
    else match maxBlastRadius.number? with
    | none => .error .typeError
    | some limit => .ok { name := "blast_radius_bounded", passed := some (count ≤ limit), detail }

omit [Runtime] in
def length (value : Json) : Except VerificationError Nat :=
  match value.length? with
  | none => .error .typeError
  | some count => .ok count

/-- `_run_checks` -/
def runChecks (inp : VerificationCheckInput) : Except VerificationError (List Check) := do
  let postconditionsMeasurable := (Json.get inp.envelope "verification_predicates").truthy
  let preconditionsHold ← preconditionsHold inp
  let blastRadius ← blastRadiusBounded inp
  let mission ← checkMissionConstraints inp.envelope inp
  let evidenceCount ← length (evidenceRefs inp)
  let predicateCount ← length (Json.getOr inp.envelope "verification_predicates" (.arr []))
  return [
    ⟨"references_resolve", some (referencesResolve inp),
      if referencesResolve inp then "incident_ref/rollback_ref/required_runbook consistentes con el envelope"
      else "el envelope no referencia a este incident/tool"⟩,
    ⟨"facts_exist", some (factsExist inp), s!"{evidenceCount} evidence_ref(s) en el incident, evidence_root=" ++
      reprJson (Json.get inp.envelope "evidence_root")⟩,
    targetsExist inp,
    runbookExists inp,
    ⟨"preconditions_hold", some preconditionsHold, "target " ++ Runtime.reprStr inp.target ++
      (if preconditionsHold then " en" else " fuera de") ++ " allowlist y target_set"⟩,
    ⟨"postconditions_measurable", some postconditionsMeasurable, s!"{predicateCount} verification_predicate(s)"⟩,
    rollbackExecutable inp,
    blastRadius,
    ⟨"mission_constraints_respected", mission.1, mission.2⟩]

omit [Runtime] in
def decideState (checks : List Check) : VerificationState × String :=
  decideOver checks
    (fun names => (.rejected, "REJECTED: " ++ String.intercalate ", " names ++ " (ZERO EXECUTE, ADR-055)"))
    (fun names => (.inconclusive, "INCONCLUSIVE: " ++ String.intercalate ", " names ++
      " no se pudo re-confirmar (ZERO EXECUTE, ADR-055)"))
    (.verified, "VERIFIED — todas las comprobaciones independientes se reconfirmaron con hechos frescos")

def verify (inp : VerificationCheckInput) : Except VerificationError VerificationDecision :=
  if inp.envelope = [] then .error (.invalidVerificationInput "envelope vacío o ausente")
  else do
    let checks ← runChecks inp
    return { state := (decideState checks).1, checks, reason := (decideState checks).2 }

end IndependentVerifier

end ArgosCore
