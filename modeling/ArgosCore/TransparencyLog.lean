import ArgosCore.Foundations.TextLines
import ArgosCore.Runtime

/-! The append-only transparency log: hash-chained entries in memory, optionally
mirrored to a JSONL file, and receipts that certify one entry of the chain. -/

namespace ArgosCore

def genesisHash : String := "sha256:" ++ String.ofList (List.replicate 64 '0')

def validEventTypes : List String :=
  ["EVIDENCE_ROOT_CREATED", "EVIDENCE_ROOT_VERIFIED", "ACTION_EXECUTED", "ACTION_VERIFIED", "ACTION_ROLLED_BACK"]

structure TransparencyEntry where
  sequence : Int
  eventId : String
  eventType : String
  objectId : String
  objectHash : String
  previousEntryHash : String
  timestamp : String
  runId : String
  producer : String
  entryHash : String
  deriving DecidableEq, Repr

namespace TransparencyEntry

def toDict (entry : TransparencyEntry) : Json.Object :=
  [("sequence", .int entry.sequence), ("event_id", .str entry.eventId), ("event_type", .str entry.eventType),
    ("object_id", .str entry.objectId), ("object_hash", .str entry.objectHash),
    ("previous_entry_hash", .str entry.previousEntryHash), ("timestamp", .str entry.timestamp),
    ("run_id", .str entry.runId), ("producer", .str entry.producer), ("entry_hash", .str entry.entryHash)]

private def text (data : Json.Object) (key : String) : Option String :=
  match data.lookup key with
  | some (.str value) => some value
  | _ => none

/-- `cls(**data)`: exactly the fields of the dataclass. Values of another type than
the declared one, which the constructor itself would let through, are refused. -/
def fromDict (data : Json) : Option TransparencyEntry :=
  match data with
  | .obj data => do
    if data.length ≠ 10 then none
    let .int sequence ← data.lookup "sequence" | none
    return { sequence
             eventId := ← text data "event_id"
             eventType := ← text data "event_type"
             objectId := ← text data "object_id"
             objectHash := ← text data "object_hash"
             previousEntryHash := ← text data "previous_entry_hash"
             timestamp := ← text data "timestamp"
             runId := ← text data "run_id"
             producer := ← text data "producer"
             entryHash := ← text data "entry_hash" }
  | _ => none

@[simp] theorem fromDict_toDict (entry : TransparencyEntry) : fromDict (.obj entry.toDict) = some entry := rfl

theorem toDict_distinct (entry : TransparencyEntry) : (Json.obj entry.toDict).Distinct := by
  simp [toDict, Json.Distinct, Json.DistinctMembers]

end TransparencyEntry

/-- `_fields_for_hash`: every field but `entry_hash`. -/
def fieldsForHash (entry : TransparencyEntry) : Json.Object :=
  entry.toDict.filter fun member => member.1 ≠ "entry_hash"

structure ChainVerificationResult where
  ok : Bool
  brokenAtSequence : Option Int
  detail : String
  deriving DecidableEq, Repr

structure TransparencyReceipt where
  receiptId : String
  objectId : String
  eventType : String
  sequence : Int
  entryHash : String
  previousEntryHash : String
  chainLengthAtIssuance : Int
  issuedAt : String
  deriving DecidableEq, Repr

structure TransparencyLog where
  entries : List TransparencyEntry := []
  persistPath : Option String := none
  deriving DecidableEq, Repr

abbrev Disk := String → Option String

/-- How the write of one line ends. Opening for append creates the file, so a
failure after it leaves the file with however much of the line got through. -/
inductive WriteOutcome where
  | written
  | cannotOpen
  | interrupted (count : Nat)
  deriving DecidableEq, Repr

structure AppendCall where
  eventType : String
  objectId : String
  objectHash : String
  runId : String
  producer : String
  deriving DecidableEq, Repr

inductive AppendError where
  | unknownEventType (message : String)
  | writeError
  deriving DecidableEq, Repr

def Disk.appendText (disk : Disk) (path text : String) : WriteOutcome → Disk
  | .written => Function.update disk path (some ((disk path).getD "" ++ text))
  | .cannotOpen => disk
  | .interrupted count =>
    Function.update disk path (some ((disk path).getD "" ++ String.ofList (text.toList.take count)))

def jsonLine (entry : TransparencyEntry) : String := Json.dumps false (.obj entry.toDict) ++ "\n"

variable [Runtime]

/-- `_compute_entry_hash` -/
def computeEntryHash (entry : TransparencyEntry) : String := hashJson (.obj (fieldsForHash entry))

namespace TransparencyLog

omit [Runtime] in
def entryWithoutHash (log : TransparencyLog) (call : AppendCall) (draw : Draw) : TransparencyEntry where
  sequence := log.entries.length
  eventId := newIdPrefixed "evtlog" draw.uuid
  eventType := call.eventType
  objectId := call.objectId
  objectHash := call.objectHash
  previousEntryHash := match log.entries.getLast? with
    | some entry => entry.entryHash
    | none => genesisHash
  timestamp := draw.utcNowIso
  runId := call.runId
  producer := call.producer
  entryHash := ""

def nextEntry (log : TransparencyLog) (call : AppendCall) (draw : Draw) : TransparencyEntry :=
  { log.entryWithoutHash call draw with entryHash := computeEntryHash (log.entryWithoutHash call draw) }

/-- `append`: the entry joins the list before the file is opened, so a failing
write leaves it in memory although the call raises. -/
def append (log : TransparencyLog) (disk : Disk) (call : AppendCall) (draw : Draw) (write : WriteOutcome) :
    Except AppendError TransparencyEntry × TransparencyLog × Disk :=
  if call.eventType ∉ validEventTypes then
    (.error (.unknownEventType (Runtime.reprStr call.eventType ++ " no es un evento real soportado: " ++
      reprList (validEventTypes.insertionSort (· ≤ ·)))), log, disk)
  else
    let entry := log.nextEntry call draw
    let extended := { log with entries := log.entries ++ [entry] }
    match log.persistPath with
    | none => (.ok entry, extended, disk)
    | some path =>
      (if write = .written then .ok entry else .error .writeError, extended,
        disk.appendText path (jsonLine entry) write)

def entriesFor (log : TransparencyLog) (objectId : String) : List TransparencyEntry :=
  log.entries.filter fun entry => entry.objectId = objectId

/-- The loop of `verify_chain` over the entries that follow `previousHash`. -/
def verifyFrom (previousHash : String) : List TransparencyEntry → ChainVerificationResult
  | [] => { ok := true, brokenAtSequence := none, detail := "cadena íntegra" }
  | entry :: entries =>
    if entry.previousEntryHash ≠ previousHash then
      { ok := false
        brokenAtSequence := some entry.sequence
        detail := s!"sequence {entry.sequence}: previous_entry_hash no coincide con el hash real de la entrada anterior" }
    else if computeEntryHash entry ≠ entry.entryHash then
      { ok := false
        brokenAtSequence := some entry.sequence
        detail := s!"sequence {entry.sequence}: entry_hash no coincide con el contenido real de la entrada (mutación detectada)" }
    else verifyFrom entry.entryHash entries

def verifyChain (log : TransparencyLog) : ChainVerificationResult := verifyFrom genesisHash log.entries

/-- `issue_receipt`: certifies the most recent entry of the object; the error is
`ReceiptNotFound`. -/
def issueReceipt (log : TransparencyLog) (objectId : String) (draw : Draw) : Except String TransparencyReceipt :=
  match (log.entriesFor objectId).getLast? with
  | none => .error ("ningún evento registrado para object_id=" ++ Runtime.reprStr objectId)
  | some entry => .ok
    { receiptId := newIdPrefixed "rcpt" draw.uuid
      objectId := entry.objectId
      eventType := entry.eventType
      sequence := entry.sequence
      entryHash := entry.entryHash
      previousEntryHash := entry.previousEntryHash
      chainLengthAtIssuance := log.entries.length
      issuedAt := draw.utcNowIso }

end TransparencyLog

/-- `items[index]`: a negative index counts from the end; `none` is `IndexError`. -/
def pyIndex {α : Type} (items : List α) (index : Int) : Option α :=
  if 0 ≤ index then items[index.toNat]?
  else if -(items.length : Int) ≤ index then items[(items.length + index).toNat]?
  else none

/-- `verify_receipt`; `none` is an `IndexError`. The place of a break is the
sequence number that the broken entry itself carries. -/
def verifyReceipt (receipt : TransparencyReceipt) (log : TransparencyLog) : Option Bool :=
  if (log.entries.length : Int) ≤ receipt.sequence then some false
  else do
    let entry ← pyIndex log.entries receipt.sequence
    if entry.objectId ≠ receipt.objectId ∨ entry.entryHash ≠ receipt.entryHash then return false
    if entry.previousEntryHash ≠ receipt.previousEntryHash then return false
    let chainResult := log.verifyChain
    if chainResult.ok then return true
    return match chainResult.brokenAtSequence with
      | none => false
      | some sequence => decide (receipt.sequence < sequence)

omit [Runtime] in
/-- `load_log`: the log of a JSONL file, without a path of its own. `none` is a line
that does not decode or is not an entry. -/
def loadLog (disk : Disk) (path : String) : Option TransparencyLog :=
  match disk path with
  | none => some {}
  | some content => do
    let lines := (TextLines.splitlines (TextLines.universalNewlines content.toList)).filter (!TextLines.blank ·)
    let entries ← lines.mapM fun line => do TransparencyEntry.fromDict (← Json.loads line)
    return { entries }

end ArgosCore
