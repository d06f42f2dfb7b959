import ArgosCore.Foundations.HashChain
import ArgosCore.TransparencyLog

/-! The transparency log as a hash chain. Verification accepts exactly the sound
chains, every append extends one, and under collision-free hashing the hash of the
last entry determines all entries. -/

namespace ArgosCore.Proofs

variable [Runtime]

def chain : HashChain TransparencyEntry String where
  genesis := genesisHash
  previous := TransparencyEntry.previousEntryHash
  declared := TransparencyEntry.entryHash
  recompute := computeEntryHash

open TransparencyLog

theorem verifyFrom_ok_iff {link : String} {entries : List TransparencyEntry} :
    (verifyFrom link entries).ok = true ↔ chain.Sound link entries := by
  induction entries generalizing link with
  | nil => simp [verifyFrom, HashChain.Sound]
  | cons entry entries ih =>
    rw [verifyFrom, HashChain.Sound, HashChain.Continues]
    split_ifs with linked hashed
    · simp [chain, linked]
    · simp [chain, hashed]
    · rw [ih]
      simp only [chain, not_not] at linked hashed ⊢
      simp [linked, hashed]

theorem verifyChain_ok_iff {log : TransparencyLog} :
    log.verifyChain.ok = true ↔ chain.Sound genesisHash log.entries :=
  verifyFrom_ok_iff

theorem verifyFrom_broken {link : String} {entries : List TransparencyEntry} {position : Nat}
    (broken : chain.breakAt link entries = some position) :
    ∃ entry, entries[position]? = some entry ∧
      (verifyFrom link entries).brokenAtSequence = some entry.sequence := by
  induction entries generalizing link position with
  | nil => cases broken
  | cons entry entries ih =>
    rw [HashChain.breakAt] at broken
    rw [verifyFrom]
    split at broken
    next continues =>
      obtain ⟨earlier, before, rfl⟩ := Option.map_eq_some_iff.mp broken
      have linked : entry.previousEntryHash = link := continues.1
      have hashed : computeEntryHash entry = entry.entryHash := continues.2
      rw [if_neg (not_not.mpr linked), if_neg (not_not.mpr hashed)]
      exact ih before
    next breaks =>
      cases broken
      refine ⟨entry, rfl, ?_⟩
      split_ifs with linked hashed
      · rfl
      · rfl
      · exact absurd ⟨not_not.mp linked, not_not.mp hashed⟩ breaks

omit [Runtime] in
private theorem fieldsForHash_eq (entry : TransparencyEntry) :
    fieldsForHash entry =
      [("sequence", .int entry.sequence), ("event_id", .str entry.eventId), ("event_type", .str entry.eventType),
        ("object_id", .str entry.objectId), ("object_hash", .str entry.objectHash),
        ("previous_entry_hash", .str entry.previousEntryHash), ("timestamp", .str entry.timestamp),
        ("run_id", .str entry.runId), ("producer", .str entry.producer)] := by
  simp [fieldsForHash, TransparencyEntry.toDict]

omit [Runtime] in
private theorem fieldsForHash_distinct (entry : TransparencyEntry) : (Json.obj (fieldsForHash entry)).Distinct := by
  rw [fieldsForHash_eq]
  simp [Json.Distinct, Json.DistinctMembers]

theorem computeEntryHash_injective (free : CollisionFree) {left right : TransparencyEntry}
    (same : computeEntryHash left = computeEntryHash right) (declared : left.entryHash = right.entryHash) :
    left = right := by
  have sorted := free.hashJson (fieldsForHash_distinct left) (fieldsForHash_distinct right) same
  rw [Json.sortKeys_eq_iff_values (by simp [fieldsForHash_eq]) (fieldsForHash_distinct left).1] at sorted
  simp [fieldsForHash_eq, Json.sortKeys] at sorted
  cases left
  cases right
  simp_all

def GenesisFresh : Prop := ∀ entry, computeEntryHash entry ≠ genesisHash

theorem binding (free : CollisionFree) (fresh : GenesisFresh) : chain.Binding where
  injective _ _ := computeEntryHash_injective free
  genesis := fresh

theorem computeEntryHash_declared (entry : TransparencyEntry) (hash : String) :
    computeEntryHash { entry with entryHash := hash } = computeEntryHash entry := by
  simp [computeEntryHash, fieldsForHash_eq]

theorem nextEntry_continues (log : TransparencyLog) (call : AppendCall) (draw : Draw) :
    chain.Continues (chain.tip genesisHash log.entries) (log.nextEntry call draw) := by
  constructor
  · simp only [chain, nextEntry, entryWithoutHash]
    cases final : log.entries.getLast? with
    | none => rw [List.getLast?_eq_none_iff.mp final]; rfl
    | some last => exact (chain.tip_getLast? final).symm
  · exact computeEntryHash_declared (log.entryWithoutHash call draw) _

theorem nextEntry_sequence (log : TransparencyLog) (call : AppendCall) (draw : Draw) :
    (log.nextEntry call draw).sequence = log.entries.length := rfl

theorem append_cases (log : TransparencyLog) (disk : Disk) (call : AppendCall) (draw : Draw) (write : WriteOutcome) :
    (call.eventType ∉ validEventTypes ∧ (∃ message, (log.append disk call draw write).1 = .error (.unknownEventType message)) ∧
      (log.append disk call draw write).2 = (log, disk)) ∨
    (call.eventType ∈ validEventTypes ∧
      (log.append disk call draw write).2.1 = { log with entries := log.entries ++ [log.nextEntry call draw] }) := by
  by_cases known : call.eventType ∈ validEventTypes
  · refine .inr ⟨known, ?_⟩
    simp only [append, known, not_true_eq_false, ite_false]
    cases log.persistPath <;> rfl
  · have raised : log.append disk call draw write = (.error (.unknownEventType
        (Runtime.reprStr call.eventType ++ " no es un evento real soportado: " ++
          reprList (validEventTypes.insertionSort (· ≤ ·)))), log, disk) := if_pos known
    exact .inl ⟨known, ⟨_, congrArg Prod.fst raised⟩, congrArg Prod.snd raised⟩

structure Honest (log : TransparencyLog) : Prop where
  sound : chain.Sound genesisHash log.entries
  numbered : ∀ (position : Nat) entry, log.entries[position]? = some entry → entry.sequence = position

theorem Honest.initial (path : Option String) : Honest { persistPath := path } :=
  ⟨trivial, by simp⟩

omit [Runtime] in
theorem getElem?_concat_eq_some {α : Type} {items : List α} {last item : α} {position : Nat}
    (found : (items ++ [last])[position]? = some item) :
    items[position]? = some item ∨ position = items.length ∧ item = last := by
  rcases Nat.lt_trichotomy position items.length with inside | rfl | outside
  · rw [List.getElem?_append_left inside] at found
    exact .inl found
  · rw [List.getElem?_concat_length] at found
    cases found
    exact .inr ⟨rfl, rfl⟩
  · rw [List.getElem?_eq_none (by simp; omega)] at found
    cases found

theorem Honest.extend {log : TransparencyLog} (honest : Honest log) (call : AppendCall) (draw : Draw) :
    Honest { log with entries := log.entries ++ [log.nextEntry call draw] } := by
  constructor
  · exact chain.sound_concat.mpr ⟨honest.sound, nextEntry_continues log call draw⟩
  · intro position entry found
    rcases getElem?_concat_eq_some found with earlier | ⟨rfl, rfl⟩
    · exact honest.numbered position entry earlier
    · exact nextEntry_sequence log call draw

theorem Honest.append {log : TransparencyLog} (honest : Honest log) (disk : Disk) (call : AppendCall) (draw : Draw)
    (write : WriteOutcome) : Honest (log.append disk call draw write).2.1 := by
  rcases append_cases log disk call draw write with ⟨_, _, same⟩ | ⟨_, extended⟩
  · rw [same]
    exact honest
  · rw [extended]
    exact honest.extend call draw

/-- The logs that calls of `append` can produce, failing calls included. -/
inductive Reachable : TransparencyLog → Prop where
  | initial (path : Option String) : Reachable { persistPath := path }
  | append {log : TransparencyLog} (reached : Reachable log) (disk : Disk) (call : AppendCall) (draw : Draw)
      (write : WriteOutcome) : Reachable (log.append disk call draw write).2.1

theorem Reachable.honest {log : TransparencyLog} (reached : Reachable log) : Honest log := by
  induction reached with
  | initial path => exact .initial path
  | append _ disk call draw write ih => exact ih.append disk call draw write

/-- An entry obtained from the log without recomputing hashes: either it still
declares the hash of some entry of the log, whatever its other fields became, or
it declares a value that is not the hash of its content. -/
def Unrehashed (log : TransparencyLog) (entry : TransparencyEntry) : Prop :=
  (∃ original ∈ log.entries, entry.entryHash = original.entryHash) ∨ computeEntryHash entry ≠ entry.entryHash

/-- The head hash commits to the whole history. Deleting, duplicating, reordering
or editing entries of a reachable log therefore goes unnoticed only when what is
left is a beginning of it. -/
theorem head_commits_to_history (free : CollisionFree) (fresh : GenesisFresh) :
    (∀ (left right : TransparencyLog) (first second : TransparencyEntry),
      left.verifyChain.ok = true → right.verifyChain.ok = true →
      left.entries.getLast? = some first → right.entries.getLast? = some second →
      first.entryHash = second.entryHash → left.entries = right.entries) ∧
    (∀ log altered : TransparencyLog, Reachable log →
      (∀ entry ∈ altered.entries, Unrehashed log entry) →
      altered.verifyChain.ok = true → altered.entries <+: log.entries) := by
  refine ⟨?_, ?_⟩
  · intro left right first second leftOk rightOk leftLast rightLast same
    apply (binding free fresh).tip_injective (verifyChain_ok_iff.mp leftOk) (verifyChain_ok_iff.mp rightOk)
    rw [chain.tip_getLast? leftLast, chain.tip_getLast? rightLast]
    exact same
  · intro log altered reached edited verified
    have sound := verifyChain_ok_iff.mp verified
    cases final : altered.entries.getLast? with
    | none => rw [List.getLast?_eq_none_iff.mp final]; exact List.nil_prefix
    | some last =>
      have member := List.mem_of_getLast? final
      rcases edited last member with ⟨original, inside, same⟩ | stale
      · obtain ⟨position, found⟩ := List.mem_iff_getElem?.mp inside
        rw [(binding free fresh).take_of_declared reached.honest.sound sound final found same]
        exact List.take_prefix _ _
      · exact absurd (sound.recompute member) stale

omit [Runtime] in
/-- A transparent digest spells out JSON text, and a run of zeros spells none. -/
theorem transparent_genesisFresh : @GenesisFresh Runtime.transparent := by
  let _ := Runtime.transparent
  intro entry same
  have zeros : genesisHash = hashText (String.ofList (List.replicate 32 (Char.ofNat 0))) := rfl
  have text := Runtime.transparent_collisionFree.hashText (same.trans zeros)
  have opened : ∃ others, (Json.canonical (.obj (fieldsForHash entry))).toList = '{' :: others := by
    simp only [Json.canonical, Json.dumps, Json.sortKeys, String.toList_ofList]
    exact Json.dumpValue_obj true _
  obtain ⟨others, first⟩ := opened
  rw [text, String.toList_ofList] at first
  exact absurd (List.cons.inj first).1 (by decide)

def sampleDraw : Draw := ⟨0, 0⟩

def sampleCall (eventType objectId : String) : AppendCall where
  eventType
  objectId
  objectHash := "sha256:00"
  runId := "run-1"
  producer := "evidence_root"

def sampleLog (count : Nat) : TransparencyLog :=
  ([sampleCall "ACTION_EXECUTED" "plan-1", sampleCall "ACTION_VERIFIED" "check-1"].take count).foldl
    (fun log call => (log.append (fun _ => none) call sampleDraw .written).2.1) {}

theorem sampleLog_reachable (count : Nat) : Reachable (sampleLog count) := by
  rw [sampleLog]
  generalize [sampleCall "ACTION_EXECUTED" "plan-1", sampleCall "ACTION_VERIFIED" "check-1"].take count = calls
  suffices reached : ∀ log, Reachable log →
      Reachable (calls.foldl (fun log call => (log.append (fun _ => none) call sampleDraw .written).2.1) log) from
    reached {} (.initial none)
  induction calls with
  | nil => exact fun log reached => reached
  | cons call calls ih => exact fun log reached => ih _ (reached.append (fun _ => none) call sampleDraw .written)

omit [Runtime] in
theorem head_commits_to_two_appends :
    letI := Runtime.transparent
    (sampleLog 1).verifyChain.ok = true ∧ (∀ entry ∈ (sampleLog 1).entries, Unrehashed (sampleLog 2) entry) ∧
      (sampleLog 1).entries <+: (sampleLog 2).entries := by
  let _ := Runtime.transparent
  have verified := verifyChain_ok_iff.mpr (sampleLog_reachable 1).honest.sound
  have kept : ∀ entry ∈ (sampleLog 1).entries, Unrehashed (sampleLog 2) entry :=
    fun entry member => .inl ⟨entry, List.mem_append_left _ member, rfl⟩
  exact ⟨verified, kept, (head_commits_to_history Runtime.transparent_collisionFree transparent_genesisFresh).2 _ _
    (sampleLog_reachable 2) kept verified⟩

def Certifies (receipt : TransparencyReceipt) (entries : List TransparencyEntry) : Prop :=
  ∃ (position : Nat) (entry : TransparencyEntry), receipt.sequence = position ∧ entries[position]? = some entry ∧
    entry.objectId = receipt.objectId ∧ entry.entryHash = receipt.entryHash ∧
    entry.previousEntryHash = receipt.previousEntryHash

omit [Runtime] in
theorem Certifies.extend {receipt : TransparencyReceipt} {entries : List TransparencyEntry}
    (certifies : Certifies receipt entries) (more : List TransparencyEntry) : Certifies receipt (entries ++ more) := by
  obtain ⟨position, entry, sequence, found, fields⟩ := certifies
  refine ⟨position, entry, sequence, ?_, fields⟩
  rw [List.getElem?_append_left (List.getElem?_eq_some_iff.mp found).1]
  exact found

theorem issueReceipt_certifies {log : TransparencyLog} (honest : Honest log) {objectId : String} {draw : Draw}
    {receipt : TransparencyReceipt} (issued : log.issueReceipt objectId draw = .ok receipt) :
    Certifies receipt log.entries := by
  unfold issueReceipt at issued
  split at issued
  next => cases issued
  next entry final =>
    cases issued
    have inside : entry ∈ log.entries := (List.mem_filter.mp (List.mem_of_getLast? final)).1
    obtain ⟨position, found⟩ := List.mem_iff_getElem?.mp inside
    exact ⟨position, entry, honest.numbered position entry found, found, rfl, rfl, rfl⟩

theorem verifyReceipt_iff {receipt : TransparencyReceipt} {log : TransparencyLog} {position : Nat}
    (sequence : receipt.sequence = position) :
    verifyReceipt receipt log = some true ↔ Certifies receipt log.entries ∧
      (log.verifyChain.ok = true ∨
        ∃ reported, log.verifyChain.brokenAtSequence = some reported ∧ receipt.sequence < reported) := by
  have certifies : Certifies receipt log.entries ↔ ∃ entry, log.entries[position]? = some entry ∧
      entry.objectId = receipt.objectId ∧ entry.entryHash = receipt.entryHash ∧
      entry.previousEntryHash = receipt.previousEntryHash := by
    constructor
    · intro ⟨other, entry, same, rest⟩
      obtain rfl : other = position := by omega
      exact ⟨entry, rest⟩
    · intro ⟨entry, rest⟩
      exact ⟨position, entry, sequence, rest⟩
  rw [certifies, verifyReceipt]
  by_cases outside : log.entries.length ≤ position
  · simp [sequence, outside]
  · obtain ⟨entry, found⟩ := Option.isSome_iff_exists.mp (by simpa using outside : (log.entries[position]?).isSome)
    have selected : pyIndex log.entries receipt.sequence = some entry := by simp [pyIndex, sequence, found]
    rw [if_neg (by omega), selected]
    simp only [found, Option.some.injEq, exists_eq_left', Option.bind_eq_bind, Option.bind_some]
    split_ifs with foreign moved verified
    · simp only [Option.pure_def, Option.some.injEq, Bool.false_eq_true, false_iff]
      rintro ⟨⟨object, hash, _⟩, _⟩
      rcases foreign with other | other
      · exact other object
      · exact other hash
    · simp [moved]
    · simp_all
    · cases log.verifyChain.brokenAtSequence <;> simp_all

theorem verifyReceipt_certified {receipt : TransparencyReceipt} {log : TransparencyLog}
    (certifies : Certifies receipt log.entries) (verified : log.verifyChain.ok = true) :
    verifyReceipt receipt log = some true := by
  obtain ⟨position, _, sequence, _⟩ := id certifies
  exact (verifyReceipt_iff sequence).mpr ⟨certifies, .inl verified⟩

inductive Operation where
  | append (call : AppendCall) (draw : Draw) (write : WriteOutcome)
  | issueReceipt (objectId : String) (draw : Draw)

structure Session where
  log : TransparencyLog
  disk : Disk
  receipts : List TransparencyReceipt := []

def Session.step (session : Session) : Operation → Session
  | .append call draw write =>
    let result := session.log.append session.disk call draw write
    { session with log := result.2.1, disk := result.2.2 }
  | .issueReceipt objectId draw =>
    match session.log.issueReceipt objectId draw with
    | .ok receipt => { session with receipts := session.receipts ++ [receipt] }
    | .error _ => session

def Session.run (session : Session) (operations : List Operation) : Session := operations.foldl Session.step session

structure Session.Valid (session : Session) : Prop where
  honest : Honest session.log
  certified : ∀ receipt ∈ session.receipts, Certifies receipt session.log.entries

theorem Session.Valid.step {session : Session} (valid : session.Valid) (operation : Operation) :
    (session.step operation).Valid := by
  cases operation with
  | append call draw write =>
    refine ⟨valid.honest.append session.disk call draw write, ?_⟩
    intro receipt issued
    have certified := valid.certified receipt issued
    change Certifies receipt (session.log.append session.disk call draw write).2.1.entries
    rcases append_cases session.log session.disk call draw write with ⟨_, _, same⟩ | ⟨_, extended⟩
    · rw [same]
      exact certified
    · rw [extended]
      exact certified.extend _
  | issueReceipt objectId draw =>
    simp only [Session.step]
    split
    next receipt issued =>
      refine ⟨valid.honest, ?_⟩
      intro other member
      rcases List.mem_append.mp member with earlier | new
      · exact valid.certified other earlier
      · rw [List.mem_singleton.mp new]
        exact issueReceipt_certifies valid.honest issued
    next => exact valid

theorem Session.Valid.run {session : Session} (valid : session.Valid) (operations : List Operation) :
    (session.run operations).Valid := by
  induction operations generalizing session with
  | nil => exact valid
  | cons operation operations ih => exact ih (valid.step operation)

/-- The log goes on: an accepted append adds its entry, a rejected one none, and there is a receipt
for every object with an entry. -/
structure Session.Continues (session : Session) : Prop where
  accepted : ∀ call draw write, call.eventType ∈ validEventTypes →
    (session.step (.append call draw write)).log.entries = session.log.entries ++ [session.log.nextEntry call draw]
  rejected : ∀ call draw write, call.eventType ∉ validEventTypes → (session.step (.append call draw write)).log = session.log
  receipt : ∀ entry ∈ session.log.entries, ∀ draw, ∃ receipt, receipt.objectId = entry.objectId ∧
    (session.step (.issueReceipt entry.objectId draw)).receipts = session.receipts ++ [receipt]

theorem Session.continues (session : Session) : session.Continues := by
  constructor
  · intro call draw write known
    change (session.log.append session.disk call draw write).2.1.entries = _
    rcases append_cases session.log session.disk call draw write with ⟨unknown, _⟩ | ⟨_, extended⟩
    · exact absurd known unknown
    · rw [extended]
  · intro call draw write unknown
    change (session.log.append session.disk call draw write).2.1 = _
    rcases append_cases session.log session.disk call draw write with ⟨_, _, same⟩ | ⟨known, _⟩
    · rw [same]
    · exact absurd known unknown
  · intro entry inside draw
    have own : entry ∈ session.log.entriesFor entry.objectId := List.mem_filter.mpr ⟨inside, decide_eq_true rfl⟩
    obtain ⟨latest, final⟩ := Option.ne_none_iff_exists'.mp (mt List.getLast?_eq_none_iff.mp (List.ne_nil_of_mem own))
    have named : latest.objectId = entry.objectId :=
      of_decide_eq_true (List.mem_filter.mp (List.mem_of_getLast? final)).2
    simp only [Session.step, issueReceipt, final]
    exact ⟨_, named, rfl⟩

/-- Honest evidence always verifies: at every point of every run the chain is
intact, entries are numbered by position, and each receipt issued so far holds. -/
theorem honest_evidence_verifies (path : Option String) (disk : Disk) (operations : List Operation) :
    let session := Session.run { log := { persistPath := path }, disk } operations
    session.log.verifyChain.ok = true ∧
      (∀ (position : Nat) entry, session.log.entries[position]? = some entry → entry.sequence = position) ∧
      (∀ receipt ∈ session.receipts, verifyReceipt receipt session.log = some true) ∧ session.Continues := by
  have start : Session.Valid { log := { persistPath := path }, disk } := ⟨.initial path, by simp⟩
  have valid := start.run operations
  have verified := verifyChain_ok_iff.mpr valid.honest.sound
  refine ⟨verified, valid.honest.numbered, ?_, Session.continues _⟩
  exact fun receipt issued => verifyReceipt_certified (valid.certified receipt issued) verified

end ArgosCore.Proofs
