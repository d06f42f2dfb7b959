import ArgosCore.Correlator
import ArgosCore.Foundations.Pattern
import ArgosCore.Foundations.PyText
import ArgosCore.Foundations.Scalar

/-! The vulnerability adapter: findings of a scanner become documents of their schema, each
vulnerability of a package of an asset once. -/

namespace ArgosCore

/-- What is needed of floating point numbers: the conversion of an integer or a text, which
can fail, and the text that JSON writes. -/
class Floats where
  Float : Type
  ofInt : Int → Option Float
  ofText : String → Option Float
  dumps : Float → String

/-- `\d`, a decimal digit of any script. -/
def isDecimal (c : Char) : Bool := (PyText.digit? c).isSome

/-- `_CVE_PATTERN`, which is `^CVE-\d{4}-\d{4,}$` -/
def cvePattern : Pattern :=
  .beginning :: Pattern.literal "CVE-" ++
    [.times isDecimal 4 (some 4), .char '-', .times isDecimal 4 none, .ending]

/-- What the set of seen findings holds of a finding, values that are equal as one. -/
structure DedupKey where
  assetId : Scalar
  cveId : String
  package : Scalar
  deriving DecidableEq, Repr

inductive FindingError where
  | keyError (key : String)
  | unrecognizedCveId (cveId : String)
  | typeError
  | valueError
  | overflowError
  | unreadableSchema (message : String)
  | invalidVulnerabilityFinding (errors : List String)
  deriving DecidableEq, Repr

section
variable [Floats]

/-- A member that can be a number with a fraction. -/
inductive Measure where
  | float (value : Floats.Float)
  | other (value : Json)

/-- `float(value)` -/
def Measure.toFloat : Measure → Except FindingError Floats.Float
  | .float value => .ok value
  | .other (.bool value) => (Floats.ofInt (if value then 1 else 0)).elim (.error .overflowError) .ok
  | .other (.int value) => (Floats.ofInt value).elim (.error .overflowError) .ok
  | .other (.str text) => (Floats.ofText text).elim (.error .valueError) .ok
  | .other _ => .error .typeError

/-- A finding of the scanner, with the one member that can be a float apart from the others. -/
structure RawFinding where
  members : Json.Object
  epss : Option Measure := none

structure VulnerabilityFinding where
  members : Json.Object
  epss : Option Floats.Float

/-- A call of `normalize_trivy_finding`. The answer of the schema is that of the files at the
time of the call: its errors, or the exception that reading them raises. -/
structure FindingCall where
  raw : RawFinding
  validatePayload : VulnerabilityFinding → Except String (List String)
  draw : Draw

structure VulnerabilityAdapter where
  context : EnvelopeContext
  seen : Finset DedupKey := ∅

def required (raw : Json.Object) (key : String) : Except FindingError Json := Json.item raw key (.keyError key)

/-- `_CVE_PATTERN.match(cve_id)` -/
def checkCveId : Json → Except FindingError String
  | .str cveId => if cvePattern.matchesText cveId then .ok cveId else .error (.unrecognizedCveId cveId)
  | _ => .error .typeError

/-- The value as a member of a set. -/
def hashed (value : Json) : Except FindingError Scalar :=
  match Scalar.ofJson? value with
  | none => .error .typeError
  | some value => .ok value.number

/-- `(asset_id, cve_id, package)` -/
def RawFinding.dedupKey (raw : RawFinding) : Except FindingError DedupKey := do
  let cveId ← checkCveId (← required raw.members "VulnerabilityID")
  let assetId ← required raw.members "asset_id"
  let package ← required raw.members "PkgName"
  return ⟨← hashed assetId, cveId, ← hashed package⟩

def RawFinding.epssFloat (raw : RawFinding) : Except FindingError (Option Floats.Float) :=
  match raw.epss with
  | none => .ok none
  | some epss => epss.toFloat.map some

/-- The members of the payload, apart from `epss`. -/
def RawFinding.payload (raw : RawFinding) (findingId : String) : Json.Object :=
  [("finding_id", .str findingId),
    ("asset_id", Json.get raw.members "asset_id"),
    ("cve_id", Json.get raw.members "VulnerabilityID"),
    ("package", Json.get raw.members "PkgName"),
    ("version", Json.getOr raw.members "InstalledVersion" (.str "unknown")),
    ("fix_available", .bool (Json.get raw.members "FixedVersion").truthy),
    ("source_ref", Json.getOr raw.members "source_ref" (.str "unknown"))] ++
    (if (Json.get raw.members "PURL").truthy then [("purl", Json.get raw.members "PURL")]
      else if (Json.get raw.members "CPE").truthy then [("cpe", Json.get raw.members "CPE")]
      else []) ++
    match raw.members.lookup "kev" with
    | none => []
    | some kev => [("kev", .bool kev.truthy)]

/-- `json.dumps(payload, sort_keys=True, separators=(",", ":"))` with one more member, whose value
is written already. -/
def canonicalWith (payload : Json.Object) (key written : String) : String :=
  let members := (payload.map fun member => (member.1, member.2.canonical)) ++ [(key, written)]
  let sorted := members.insertionSort fun left right => left.1 ≤ right.1
  "\x7b" ++ String.intercalate "," (sorted.map fun member => Json.dumps true (.str member.1) ++ ":" ++ member.2) ++ "\x7d"

variable [Runtime]

/-- `sha256_of_payload` -/
def sha256OfPayload (payload : Json.Object) : Option Floats.Float → String
  | none => hashJson (.obj payload)
  | some epss => hashText (canonicalWith payload "epss" (Floats.dumps epss))

/-- The document that is validated. -/
def RawFinding.finding (raw : RawFinding) (context : EnvelopeContext) (draw : Draw) :
    Except FindingError VulnerabilityFinding := do
  let findingId := newIdPrefixed "vf" draw.uuid
  let payload := raw.payload findingId
  let epss ← raw.epssFloat
  let envelope := (buildEnvelope context payload findingId draw).set "payload_hash" (.str (sha256OfPayload payload epss))
  return ⟨envelope.setAll payload, epss⟩

/-- `normalize_trivy_finding`; no finding is returned for a duplicate. -/
def VulnerabilityAdapter.normalizeTrivyFinding (adapter : VulnerabilityAdapter) (call : FindingCall) :
    Except FindingError (Option VulnerabilityFinding) × VulnerabilityAdapter :=
  match call.raw.dedupKey with
  | .error error => (.error error, adapter)
  | .ok dedupKey =>
    if dedupKey ∈ adapter.seen then (.ok none, adapter)
    else match call.raw.finding adapter.context call.draw with
      | .error error => (.error error, adapter)
      | .ok finding =>
        match call.validatePayload finding with
        | .error message => (.error (.unreadableSchema message), adapter)
        | .ok errors =>
          if errors ≠ [] then (.error (.invalidVulnerabilityFinding errors), adapter)
          else (.ok (some finding), { adapter with seen := insert dedupKey adapter.seen })

end

end ArgosCore
