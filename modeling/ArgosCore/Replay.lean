import ArgosCore.EvidenceRoot
import ArgosCore.TransparencyLog
import Mathlib.Data.Finset.Sort

/-! Replay: what a run left behind is checked again, and the first check that fails
decides the state. -/

namespace ArgosCore

inductive ReplayState where
  | verified
  | incomplete
  | hashMismatch
  | brokenChain
  | missingArtifact
  deriving DecidableEq, Repr

structure ReplayResult where
  state : ReplayState
  detail : String
  deriving DecidableEq, Repr

def ReplayResult.ok (result : ReplayResult) : Bool := result.state = .verified

inductive ReplayError where
  | keyError (key : String)
  deriving DecidableEq, Repr

def defaultRequiredEventTypes : Finset String := {"EVIDENCE_ROOT_CREATED"}

/-- The items of `{m["artifact_id"]: m for m in manifests if m}`. `none` is `None` or an empty dict. -/
def manifestItems : List (Option Manifest) → Except ReplayError (List (String × Manifest))
  | [] => .ok []
  | none :: manifests => manifestItems manifests
  | some manifest :: manifests =>
    match manifest.artifactId with
    | none => .error (.keyError "artifact_id")
    | some artifactId => (manifestItems manifests).map ((artifactId, manifest) :: ·)

def manifestById (manifests : List (Option Manifest)) : Except ReplayError (Dict Manifest) :=
  (manifestItems manifests).map (Dict.setAll [])

def EvidenceRoot.artifactIds (root : EvidenceRoot) : Finset String := (root.artifactRefs.map ArtifactRef.artifactId).toFinset

def eventTypesSeen (log : TransparencyLog) (runId : String) : Finset String :=
  ((log.entries.filter (·.runId = runId)).map TransparencyEntry.eventType).toFinset

variable [Runtime]

/-- `repr(sorted(items))` -/
def reprSorted (items : Finset String) : String := reprList (items.sort (· ≤ ·))

/-- The loop over the supplied contents; `none` is a loop that ran to its end. -/
def checkArtifactBytes (byId : Dict Manifest) : List (String × ByteArray) → Except ReplayError (Option ReplayResult)
  | [] => .ok none
  | (artifactId, content) :: rest =>
    match byId.lookup artifactId with
    | none => .ok (some ⟨.missingArtifact,
        "artifact_id " ++ Runtime.reprStr artifactId ++ " sin manifiesto correspondiente"⟩)
    | some manifest =>
      match manifest.sha256 with
      | none => .error (.keyError "sha256")
      | some declared =>
        let actual := Runtime.sha256 content
        if actual ≠ declared then .ok (some ⟨.hashMismatch,
          artifactId ++ ": sha256 real del contenido (" ++ actual ++ ") != sha256 declarado en el manifiesto (" ++
            declared ++ ")"⟩)
        else checkArtifactBytes byId rest

/-- `replay_and_verify`. Without contents the map of contents is empty. -/
def replayAndVerify (runId : String) (manifests : List (Option Manifest)) (root : EvidenceRoot) (log : TransparencyLog)
    (artifactBytesById : List (String × ByteArray)) (requiredEventTypes : Finset String) :
    Except ReplayError ReplayResult :=
  let chainResult := log.verifyChain
  if ¬ chainResult.ok then .ok ⟨.brokenChain, chainResult.detail⟩
  else if ¬ verifyEvidenceRoot root then
    .ok ⟨.hashMismatch, "evidence_root no coincide con sus propios artifact_refs (auto-consistencia)"⟩
  else match manifestById manifests with
  | .error error => .error error
  | .ok byId =>
    let manifestIds := (byId.map Prod.fst).toFinset
    if (manifestIds \ root.artifactIds).Nonempty then
      .ok ⟨.missingArtifact,
        "manifiestos sin representar en evidence_root: " ++ reprSorted (manifestIds \ root.artifactIds)⟩
    else if (root.artifactIds \ manifestIds).Nonempty then
      .ok ⟨.missingArtifact, "artifact_refs del evidence_root sin manifiesto real correspondiente: " ++
        reprSorted (root.artifactIds \ manifestIds)⟩
    else match checkArtifactBytes byId artifactBytesById with
    | .error error => .error error
    | .ok (some result) => .ok result
    | .ok none =>
      let missingEvents := requiredEventTypes \ eventTypesSeen log runId
      if missingEvents.Nonempty then
        .ok ⟨.incomplete, "eventos de transparencia mínimos ausentes para run_id=" ++ Runtime.reprStr runId ++ ": " ++
          reprSorted missingEvents⟩
      else .ok ⟨.verified, "cadena de transparencia íntegra, evidence_root auto-consistente, " ++
        "todos los artefactos representados, eventos mínimos presentes"⟩

end ArgosCore
