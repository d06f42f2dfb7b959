import ArgosCore.Correlator
import ArgosCore.EvidenceRoot

/-! The evidence writer: the only producer of manifests. It hashes the bytes that it is
given, and returns the manifest under the envelope of its run. -/

namespace ArgosCore

structure RetentionPolicy where
  policy : String
  expiresAt : Option String := none
  deriving DecidableEq, Repr

/-- A writer. The contracts that it is built with give the errors of a document against
the schema of manifests. -/
structure EvidenceWriter where
  validate : Json.Object → List String
  context : EnvelopeContext
  bucket : String := "argos-evidence-artifacts"

/-- The arguments of `write_bytes` and their defaults. -/
structure WriteRequest where
  content : ByteArray
  mediaType : String
  retention : RetentionPolicy
  keyHint : String := "artifact"

/-- The draw of the identifier and of `created_at`, and the clock when the envelope is built. -/
structure WriteDraws where
  created : Draw
  enveloped : Draw

inductive WriteError where
  | invalidManifest (errors : List String)
  deriving DecidableEq, Repr

def RetentionPolicy.toDict (retention : RetentionPolicy) : Json.Object :=
  ("policy", .str retention.policy) ::
    match retention.expiresAt.filter (· ≠ "") with
    | none => []
    | some expiresAt => [("expires_at", .str expiresAt)]

def textAt (manifest : Json.Object) (key : String) : Option String :=
  match manifest.lookup key with
  | some (.str text) => some text
  | _ => none

/-- What the evidence root and the replay read of the dictionary of a manifest. -/
def Manifest.ofDict (manifest : Json.Object) : Manifest where
  artifactId := textAt manifest "artifact_id"
  sha256 := textAt manifest "sha256"
  objectRef := textAt manifest "object_ref"

namespace EvidenceWriter
variable [Runtime]

def objectRef (writer : EvidenceWriter) (request : WriteRequest) : String :=
  "ceph://" ++ writer.bucket ++ "/" ++ writer.context.runId ++ "/" ++ request.keyHint ++ "-" ++
    String.ofList ((Runtime.sha256 request.content).toList.take 12)

def payload (writer : EvidenceWriter) (request : WriteRequest) (created : Draw) : Json.Object := [
  ("artifact_id", .str (newIdPrefixed "art" created.uuid)),
  ("media_type", .str request.mediaType),
  ("object_ref", .str (writer.objectRef request)),
  ("sha256", .str (Runtime.sha256 request.content)),
  ("created_at", .str created.utcNowIso),
  ("retention", .obj request.retention.toDict)]

def writeBytes (writer : EvidenceWriter) (request : WriteRequest) (draws : WriteDraws) : Except WriteError Json.Object :=
  let payload := writer.payload request draws.created
  let envelope := buildEnvelope writer.context payload (newIdPrefixed "art" draws.created.uuid) draws.enveloped
  let fullPayload := envelope.setAll payload
  let errors := writer.validate fullPayload
  if errors ≠ [] then .error (.invalidManifest errors) else .ok fullPayload

end EvidenceWriter

end ArgosCore
