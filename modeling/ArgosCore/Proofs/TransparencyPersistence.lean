import ArgosCore.Foundations.JsonLines
import ArgosCore.Proofs.TransparencyChain

/-! The JSONL file of a log. Each append adds one line to the file, and the file is
read back to the entries as they were appended unless a line is broken inside. -/

namespace ArgosCore.Proofs
open Json TransparencyLog

def Holds (disk : Disk) (path : String) (entries : List TransparencyEntry) : Prop :=
  ((disk path).getD "").toList = linesText (entries.map TransparencyEntry.toDict)

theorem Holds.initial {disk : Disk} {path : String} (absent : disk path = none) : Holds disk path [] := by
  simp [Holds, absent, linesText]

theorem Holds.written {disk : Disk} {path : String} {entries : List TransparencyEntry} (holds : Holds disk path entries)
    (entry : TransparencyEntry) : Holds (disk.appendText path (jsonLine entry) .written) path (entries ++ [entry]) := by
  simp only [Holds, Disk.appendText, Function.update_self, Option.getD_some, String.toList_append, jsonLine, dumps,
    String.toList_ofList] at holds ⊢
  rw [holds]
  simp [linesText]

theorem mapM_map_some {α β : Type} {write : α → β} {read : β → Option α} {items : List α}
    (back : ∀ item, read (write item) = some item) : (items.map write).mapM read = some items := by
  induction items with
  | nil => rfl
  | cons item items ih => simp [back, ih]

theorem mapM_none {α β : Type} {read : α → Option β} {items : List α} {item : α} (member : item ∈ items)
    (fails : read item = none) : items.mapM read = none := by
  induction items with
  | nil => cases member
  | cons first items ih =>
    rcases List.mem_cons.mp member with rfl | later
    · simp [fails]
    · cases read first <;> simp_all

theorem loadLog_eq (disk : Disk) (path : String) :
    loadLog disk path =
      ((linesOf ((disk path).getD "").toList).mapM fun line => (loads line).bind TransparencyEntry.fromDict).map
        fun entries => { entries } := by
  cases found : disk path with
  | none => simp [loadLog, found, linesOf, TextLines.universalNewlines, TextLines.splitlines]
  | some content => simp [loadLog, found, linesOf, Option.map_eq_bind]

theorem loads_entry (entry : TransparencyEntry) :
    (loads (dumpValue false (.obj entry.toDict))).bind TransparencyEntry.fromDict = some entry := by
  have read := loads_dumps false entry.toDict_distinct
  rw [dumps, String.toList_ofList] at read
  rw [read, Option.bind_some, TransparencyEntry.fromDict_toDict]

theorem loadLog_unbroken {disk : Disk} {path : String} {entries : List TransparencyEntry} (holds : Holds disk path entries)
    (unseparated : ∀ entry ∈ entries, ∀ text ∈ (Json.obj entry.toDict).strings, Unseparated text) :
    loadLog disk path = some { entries } := by
  have lines := linesOf_unbroken (entries.map TransparencyEntry.toDict) (by simpa using unseparated)
  rw [List.map_map] at lines
  rw [loadLog_eq, holds, lines, mapM_map_some loads_entry, Option.map_some]

theorem loadLog_broken {disk : Disk} {path : String} {entries : List TransparencyEntry} (holds : Holds disk path entries)
    {entry : TransparencyEntry} (member : entry ∈ entries) {text : String}
    (inside : text ∈ (Json.obj entry.toDict).strings) (separated : ¬ Unseparated text) : loadLog disk path = none := by
  have distinct : ∀ object ∈ entries.map TransparencyEntry.toDict, (Json.obj object).Distinct := by
    intro object among
    obtain ⟨other, _, rfl⟩ := List.mem_map.mp among
    exact other.toDict_distinct
  obtain ⟨line, found, failed⟩ := linesOf_broken distinct (List.mem_map_of_mem member) inside separated
  rw [loadLog_eq, holds, mapM_none found (by rw [failed]; rfl), Option.map_none]

/-- No argument of the call holds a line boundary that survives in JSON text. -/
def OneLine (call : AppendCall) : Prop :=
  Unseparated call.objectId ∧ Unseparated call.objectHash ∧ Unseparated call.runId ∧ Unseparated call.producer

instance (call : AppendCall) : Decidable (OneLine call) := inferInstanceAs (Decidable (_ ∧ _))

structure MachineText (entry : TransparencyEntry) : Prop where
  eventId : Unseparated entry.eventId
  eventType : Unseparated entry.eventType
  previousEntryHash : Unseparated entry.previousEntryHash
  timestamp : Unseparated entry.timestamp
  entryHash : Unseparated entry.entryHash

theorem MachineText.unseparated_iff {entry : TransparencyEntry} (machine : MachineText entry) :
    (∀ text ∈ (Json.obj entry.toDict).strings, Unseparated text) ↔
      Unseparated entry.objectId ∧ Unseparated entry.objectHash ∧ Unseparated entry.runId ∧ Unseparated entry.producer := by
  have keys : ∀ key ∈ ["sequence", "event_id", "event_type", "object_id", "object_hash", "previous_entry_hash",
      "timestamp", "run_id", "producer", "entry_hash"], Unseparated key := by decide
  obtain ⟨eventId, eventType, previous, timestamp, hash⟩ := machine
  simp only [List.forall_mem_cons] at keys
  simp only [TransparencyEntry.toDict, strings, memberStrings, List.nil_append, List.singleton_append, List.append_nil,
    List.forall_mem_cons, keys, eventId, eventType, previous, timestamp, hash, true_and, List.not_mem_nil,
    false_implies, implies_true, and_true]

private theorem unseparated_of_ascii {text : String} (ascii : ∀ c ∈ text.toList, c.toNat < 127) : Unseparated text := by
  intro c member separator
  have narrow := ascii c member
  simp only [separators, List.mem_cons, List.not_mem_nil, or_false] at separator
  omega

private theorem unseparated_append {left right : String} (first : Unseparated left) (second : Unseparated right) :
    Unseparated (left ++ right) := by
  intro c member
  rw [String.toList_append] at member
  exact (List.mem_append.mp member).elim (first c) (second c)

private theorem newIdPrefixed_unseparated {domain : String} (known : Unseparated domain) (uuid : BitVec 128) :
    Unseparated (newIdPrefixed domain uuid) := by
  apply unseparated_append (unseparated_append known (by decide))
  apply unseparated_of_ascii
  intro c member
  rw [String.toList_ofList] at member
  obtain ⟨position, _, rfl⟩ := List.mem_map.mp (List.mem_of_mem_take member)
  exact (hexDigit_ascii _).2

private theorem isoformat_unseparated (instant : IsoTime.Instant) : Unseparated (IsoTime.isoformat instant) := by
  apply unseparated_of_ascii
  intro c member
  have timestamp := List.all_eq_true.mp (IsoTime.isoformat_all instant) c member
  simp only [IsoTime.isTimestampChar, Char.isDigit, Bool.or_eq_true, Bool.and_eq_true, decide_eq_true_eq,
    UInt32.le_iff_toNat_le, List.contains_eq_mem] at timestamp
  rcases timestamp with ⟨_, digit⟩ | mark
  · change c.toNat ≤ 57 at digit
    omega
  · simp only [List.mem_cons, List.not_mem_nil, or_false] at mark
    rcases mark with rfl | rfl | rfl | rfl | rfl <;> decide

variable [Runtime]

private theorem hashText_unseparated (text : String) : Unseparated (hashText text) := by
  apply unseparated_append (by decide)
  apply unseparated_of_ascii
  intro c member
  have hex := List.all_eq_true.mp (Runtime.sha256_hex text.toUTF8) c member
  simp only [isHexDigit, Char.isDigit, Bool.or_eq_true, Bool.and_eq_true, decide_eq_true_eq, Char.le_def,
    UInt32.le_iff_toNat_le] at hex
  rcases hex with ⟨_, digit⟩ | ⟨_, letter⟩
  · change c.toNat ≤ 57 at digit
    omega
  · change c.toNat ≤ 102 at letter
    omega

private theorem nextEntry_machineText {log : TransparencyLog} (honest : Honest log) {call : AppendCall}
    (known : call.eventType ∈ validEventTypes) (draw : Draw) : MachineText (log.nextEntry call draw) where
  eventId := newIdPrefixed_unseparated (by decide) draw.uuid
  eventType := by
    have all : ∀ eventType ∈ validEventTypes, Unseparated eventType := by decide
    exact all call.eventType known
  previousEntryHash := by
    simp only [nextEntry, entryWithoutHash]
    cases final : log.entries.getLast? with
    | none => exact (by decide : Unseparated genesisHash)
    | some last =>
      have hashed : computeEntryHash last = last.entryHash := honest.sound.recompute (List.mem_of_getLast? final)
      change Unseparated last.entryHash
      rw [← hashed]
      exact hashText_unseparated _
  timestamp := isoformat_unseparated draw.now
  entryHash := hashText_unseparated _

private theorem nextEntry_unseparated_iff {log : TransparencyLog} (honest : Honest log) {call : AppendCall}
    (known : call.eventType ∈ validEventTypes) (draw : Draw) :
    (∀ text ∈ (Json.obj (log.nextEntry call draw).toDict).strings, Unseparated text) ↔ OneLine call :=
  (nextEntry_machineText honest known draw).unseparated_iff

theorem append_written {log : TransparencyLog} {path : String} (persisted : log.persistPath = some path) (disk : Disk)
    (call : AppendCall) (draw : Draw) :
    (call.eventType ∉ validEventTypes ∧ (∃ error, (log.append disk call draw .written).1 = .error error) ∧
      (log.append disk call draw .written).2 = (log, disk)) ∨
    (call.eventType ∈ validEventTypes ∧ log.append disk call draw .written =
      (.ok (log.nextEntry call draw), { log with entries := log.entries ++ [log.nextEntry call draw] },
        disk.appendText path (jsonLine (log.nextEntry call draw)) .written)) := by
  by_cases known : call.eventType ∈ validEventTypes
  · exact .inr ⟨known, by simp [append, known, persisted]⟩
  · rcases append_cases log disk call draw .written with ⟨_, ⟨message, raised⟩, same⟩ | ⟨accepted, _⟩
    · exact .inl ⟨known, ⟨_, raised⟩, same⟩
    · exact absurd accepted known

def appendAll (state : TransparencyLog × Disk) (calls : List (AppendCall × Draw)) : TransparencyLog × Disk :=
  calls.foldl (fun state call => (state.1.append state.2 call.1 call.2 .written).2) state

structure Persisted (path : String) (state : TransparencyLog × Disk) : Prop where
  file : state.1.persistPath = some path
  honest : Honest state.1
  holds : Holds state.2 path state.1.entries

theorem Persisted.append {path : String} {state : TransparencyLog × Disk} (persisted : Persisted path state)
    (call : AppendCall) (draw : Draw) : Persisted path (state.1.append state.2 call draw .written).2 := by
  rcases append_written persisted.file state.2 call draw with ⟨_, _, same⟩ | ⟨_, appended⟩
  · rw [same]
    exact persisted
  · rw [appended]
    exact ⟨persisted.file, persisted.honest.extend call draw, persisted.holds.written _⟩

theorem Persisted.appendAll {path : String} {state : TransparencyLog × Disk} (persisted : Persisted path state)
    (calls : List (AppendCall × Draw)) : Persisted path (appendAll state calls) := by
  induction calls generalizing state with
  | nil => exact persisted
  | cons call calls ih => exact ih (persisted.append call.1 call.2)

theorem appendAll_unseparated_iff {path : String} {state : TransparencyLog × Disk} (persisted : Persisted path state)
    (calls : List (AppendCall × Draw)) :
    (∀ entry ∈ (appendAll state calls).1.entries, ∀ text ∈ (Json.obj entry.toDict).strings, Unseparated text) ↔
      (∀ entry ∈ state.1.entries, ∀ text ∈ (Json.obj entry.toDict).strings, Unseparated text) ∧
        ∀ call ∈ calls, call.1.eventType ∈ validEventTypes → OneLine call.1 := by
  induction calls generalizing state with
  | nil => simp [appendAll]
  | cons call calls ih =>
    have next := ih (persisted.append call.1 call.2)
    rw [appendAll, List.foldl_cons]
    rw [appendAll] at next
    rw [next, List.forall_mem_cons, ← and_assoc]
    apply and_congr_left
    intro _
    rcases append_written persisted.file state.2 call.1 call.2 with ⟨unknown, _, same⟩ | ⟨known, appended⟩
    · rw [same]
      simp [unknown]
    · rw [appended]
      simp only [List.forall_mem_append, List.forall_mem_singleton, nextEntry_unseparated_iff persisted.honest known,
        known, forall_const]

private theorem Persisted.loadLog_iff {path : String} {state : TransparencyLog × Disk} (persisted : Persisted path state) :
    (∃ loaded, loadLog state.2 path = some loaded ∧ loaded.entries = state.1.entries ∧ loaded.verifyChain.ok = true) ↔
      ∀ entry ∈ state.1.entries, ∀ text ∈ (Json.obj entry.toDict).strings, Unseparated text := by
  constructor
  · rintro ⟨loaded, read, _⟩ entry member text inside
    by_contra separated
    rw [loadLog_broken persisted.holds member inside separated] at read
    cases read
  · intro unseparated
    exact ⟨_, loadLog_unbroken persisted.holds unseparated, rfl, verifyChain_ok_iff.mpr persisted.honest.sound⟩

theorem persisted_initial (disk : Disk) (path : String) (absent : disk path = none) :
    Persisted path ({ persistPath := some path }, disk) :=
  ⟨rfl, .initial _, .initial absent⟩

/-- A log persisted to a fresh path is loaded back, chain intact, exactly when no
accepted call has an argument with a next line, line or paragraph separator. -/
theorem load_persisted_iff (disk : Disk) (path : String) (absent : disk path = none) (calls : List (AppendCall × Draw)) :
    let state := appendAll ({ persistPath := some path }, disk) calls
    (∃ loaded, loadLog state.2 path = some loaded ∧ loaded.entries = state.1.entries ∧ loaded.verifyChain.ok = true) ↔
      ∀ call ∈ calls, call.1.eventType ∈ validEventTypes → OneLine call.1 := by
  intro state
  have start := persisted_initial disk path absent
  rw [(start.appendAll calls).loadLog_iff, appendAll_unseparated_iff start]
  simp

omit [Runtime] in
theorem load_persisted_accented :
    letI := Runtime.transparent
    let calls := [({ sampleCall "ACTION_EXECUTED" "acción \"1\"\n" with runId := "run\t1" }, sampleDraw)]
    let state := appendAll ({ persistPath := some "log.jsonl" }, fun _ => none) calls
    ∃ loaded, loadLog state.2 "log.jsonl" = some loaded ∧ loaded.entries = state.1.entries ∧
      loaded.verifyChain.ok = true := by
  let _ := Runtime.transparent
  exact (load_persisted_iff _ _ rfl _).mpr (by decide)

omit [Runtime] in
theorem load_persisted_line_separator :
    letI := Runtime.transparent
    let calls := [(sampleCall "ACTION_EXECUTED" "plan\u20281", sampleDraw)]
    let state := appendAll ({ persistPath := some "log.jsonl" }, fun _ => none) calls
    state.1.entries.length = 1 ∧ loadLog state.2 "log.jsonl" = none := by
  let _ := Runtime.transparent
  have persisted := (persisted_initial (fun _ => none) "log.jsonl" rfl).append
    (sampleCall "ACTION_EXECUTED" "plan\u20281") sampleDraw
  refine ⟨rfl, loadLog_broken persisted.holds List.mem_cons_self ?_ (by decide : ¬ Unseparated "plan\u20281")⟩
  simp [TransparencyEntry.toDict, strings, memberStrings, nextEntry, entryWithoutHash, sampleCall]

/-- Logs created over time on one path, by one process or several, and their disk. -/
structure Writers where
  logs : List TransparencyLog := []
  disk : Disk

inductive WriterStep where
  | create
  | append (writer : Nat) (call : AppendCall) (draw : Draw)

def Writers.step (path : String) (writers : Writers) : WriterStep → Writers × Option (Nat × TransparencyEntry)
  | .create => ({ writers with logs := writers.logs ++ [{ persistPath := some path }] }, none)
  | .append writer call draw =>
    match writers.logs[writer]? with
    | none => (writers, none)
    | some log =>
      let (result, log, disk) := log.append writers.disk call draw .written
      ({ logs := writers.logs.set writer log, disk }, result.toOption.map (writer, ·))

def Writers.run (path : String) (writers : Writers) : List WriterStep → Writers × List (Nat × TransparencyEntry)
  | [] => (writers, [])
  | step :: steps =>
    let (stepped, appended) := writers.step path step
    let (final, later) := stepped.run path steps
    (final, appended.toList ++ later)

structure Writers.Valid (path : String) (writers : Writers) (history : List (Nat × TransparencyEntry)) : Prop where
  holds : Holds writers.disk path (history.map Prod.snd)
  own : ∀ (writer : Nat) log, writers.logs[writer]? = some log → log.persistPath = some path ∧ Honest log ∧
    log.entries = (history.filter (·.1 = writer)).map Prod.snd
  created : ∀ appended ∈ history, appended.1 < writers.logs.length
  unbroken : ∀ appended ∈ history, ∀ text ∈ (Json.obj appended.2.toDict).strings, Unseparated text

def WriterStep.OneLine : WriterStep → Prop
  | .create => True
  | .append _ call _ => Proofs.OneLine call

private theorem Writers.Valid.create {path : String} {writers : Writers} {history : List (Nat × TransparencyEntry)}
    (valid : writers.Valid path history) :
    Writers.Valid path { writers with logs := writers.logs ++ [{ persistPath := some path }] } history := by
  refine ⟨valid.holds, ?_, ?_, valid.unbroken⟩
  · intro writer log found
    rcases getElem?_concat_eq_some found with earlier | ⟨rfl, rfl⟩
    · exact valid.own writer log earlier
    · have fresh : history.filter (·.1 = writers.logs.length) = [] := by
        rw [List.filter_eq_nil_iff]
        intro appended member same
        have earlier := valid.created appended member
        simp only [decide_eq_true_eq] at same
        omega
      rw [fresh]
      exact ⟨rfl, .initial _, rfl⟩
  · intro appended member
    have earlier := valid.created appended member
    simp only [List.length_append, List.length_singleton]
    omega

private theorem Writers.Valid.append {path : String} {writers : Writers} {history : List (Nat × TransparencyEntry)}
    (valid : writers.Valid path history) {writer : Nat} {log : TransparencyLog} (found : writers.logs[writer]? = some log)
    {call : AppendCall} (known : call.eventType ∈ validEventTypes) (line : Proofs.OneLine call) (draw : Draw) :
    Writers.Valid path
      { logs := writers.logs.set writer { log with entries := log.entries ++ [log.nextEntry call draw] }
        disk := writers.disk.appendText path (jsonLine (log.nextEntry call draw)) .written }
      (history ++ [(writer, log.nextEntry call draw)]) := by
  obtain ⟨file, honest, entries⟩ := valid.own writer log found
  obtain ⟨inside, _⟩ := List.getElem?_eq_some_iff.mp found
  refine ⟨?_, ?_, ?_, ?_⟩
  · rw [List.map_append]
    exact valid.holds.written _
  · intro other otherLog present
    by_cases same : other = writer
    · subst same
      rw [List.getElem?_set_self inside] at present
      cases present
      exact ⟨file, honest.extend call draw, by simp [List.filter_append, entries]⟩
    · rw [List.getElem?_set_ne (Ne.symm same)] at present
      have untouched : (history ++ [(writer, log.nextEntry call draw)]).filter (·.1 = other) =
          history.filter (·.1 = other) := by
        simp [List.filter_append, Ne.symm same]
      rw [untouched]
      exact valid.own other otherLog present
  · rw [List.forall_mem_append, List.forall_mem_singleton, List.length_set]
    exact ⟨valid.created, inside⟩
  · rw [List.forall_mem_append, List.forall_mem_singleton]
    exact ⟨valid.unbroken, (nextEntry_unseparated_iff honest known draw).mpr line⟩

theorem Writers.Valid.step {path : String} {writers : Writers} {history : List (Nat × TransparencyEntry)}
    (valid : writers.Valid path history) {step : WriterStep} (line : step.OneLine) :
    (writers.step path step).1.Valid path (history ++ (writers.step path step).2.toList) := by
  cases step with
  | create =>
    simp only [Writers.step, Option.toList_none, List.append_nil]
    exact valid.create
  | append writer call draw =>
    simp only [Writers.step]
    cases found : writers.logs[writer]? with
    | none =>
      simp only [Option.toList_none, List.append_nil]
      exact valid
    | some log =>
      obtain ⟨file, _, _⟩ := valid.own writer log found
      rcases append_written file writers.disk call draw with ⟨_, ⟨error, raised⟩, same⟩ | ⟨known, appended⟩
      · have rejected : log.append writers.disk call draw .written = (.error error, log, writers.disk) :=
          Prod.ext raised same
        obtain ⟨_, here⟩ := List.getElem?_eq_some_iff.mp found
        have unchanged : writers.logs.set writer log = writers.logs := by rw [← here, List.set_getElem_self]
        simp only [rejected, unchanged, Except.toOption, Option.map_none, Option.toList_none, List.append_nil]
        exact valid
      · simp only [appended, Except.toOption, Option.map_some, Option.toList_some]
        exact valid.append found known line draw

theorem Writers.Valid.run {path : String} {writers : Writers} {history : List (Nat × TransparencyEntry)}
    (valid : writers.Valid path history) {steps : List WriterStep} (lines : ∀ step ∈ steps, step.OneLine) :
    (writers.run path steps).1.Valid path (history ++ (writers.run path steps).2) := by
  induction steps generalizing writers history with
  | nil => simpa [Writers.run] using valid
  | cons step steps ih =>
    have stepped := valid.step (lines step (by simp))
    have ran := ih stepped (fun later member => lines later (by simp [member]))
    rw [List.append_assoc] at ran
    exact ran

theorem Writers.initial (disk : Disk) (path : String) (absent : disk path = none) :
    Writers.Valid path { disk } [] :=
  ⟨.initial absent, by simp, by simp, by simp⟩

private theorem Writers.Valid.own_sound {path : String} {writers : Writers} {history : List (Nat × TransparencyEntry)}
    (valid : writers.Valid path history) {appended : Nat × TransparencyEntry} (member : appended ∈ history) :
    chain.Sound genesisHash ((history.filter (·.1 = appended.1)).map Prod.snd) := by
  obtain ⟨_, honest, entries⟩ := valid.own appended.1 _ (List.getElem?_eq_getElem (valid.created appended member))
  rw [← entries]
  exact honest.sound

/-- The entries in the file are one chain exactly when one writer appended them all:
the first entry of any other writer points at the genesis value. -/
theorem Writers.Valid.sound_iff (fresh : GenesisFresh) {path : String} {writers : Writers}
    {history : List (Nat × TransparencyEntry)} (valid : writers.Valid path history) :
    chain.Sound genesisHash (history.map Prod.snd) ↔ ∃ writer, ∀ appended ∈ history, appended.1 = writer := by
  constructor
  · intro sound
    cases history with
    | nil => exact ⟨0, by simp⟩
    | cons first rest =>
      refine ⟨first.1, ?_⟩
      by_contra! foreign
      obtain ⟨appended, member, other⟩ := foreign
      have own := valid.own_sound member
      rw [List.filter_cons_of_neg (by simpa using Ne.symm other)] at own
      -- The writer's own first entry lies behind the first entry of the file.
      have among : appended ∈ rest.filter (·.1 = appended.1) := by
        refine List.mem_filter.mpr ⟨(List.mem_cons.mp member).resolve_left ?_, by simp⟩
        rintro rfl
        exact other rfl
      obtain ⟨begin, others, same⟩ := List.exists_cons_of_ne_nil (List.ne_nil_of_mem among)
      have behind : begin ∈ rest := (List.mem_filter.mp (same ▸ List.mem_cons_self)).1
      have opening : chain.previous begin.2 = chain.genesis := by
        rw [same] at own
        exact own.1.1
      have later : chain.declared first.2 ≠ chain.genesis := by
        rw [← sound.1.2]
        exact fresh first.2
      exact sound.2.previous_ne_genesis fresh later (List.mem_map_of_mem behind) opening
  · intro ⟨writer, all⟩
    cases history with
    | nil => trivial
    | cons first rest =>
      have own := valid.own_sound (List.mem_cons_self : first ∈ first :: rest)
      have whole : (first :: rest).filter (·.1 = first.1) = first :: rest := by
        rw [List.filter_eq_self]
        intro appended member
        simp [all first (by simp), all appended member]
      rwa [whole] at own

/-- However many logs were created on a path and in whatever order they appended, the
file loads to every appended entry once, in order. Its chain is intact exactly when
a single log appended them, since each log starts its chain anew. -/
theorem load_writers (fresh : GenesisFresh) (disk : Disk) (path : String) (absent : disk path = none)
    {steps : List WriterStep} (lines : ∀ step ∈ steps, step.OneLine) :
    let result := Writers.run path { disk } steps
    ∃ loaded, loadLog result.1.disk path = some loaded ∧ loaded.entries = result.2.map Prod.snd ∧
      (loaded.verifyChain.ok = true ↔ ∃ writer, ∀ appended ∈ result.2, appended.1 = writer) := by
  intro result
  have valid := (Writers.initial disk path absent).run lines
  rw [List.nil_append] at valid
  refine ⟨_, loadLog_unbroken valid.holds ?_, rfl, ?_⟩
  · intro entry member
    obtain ⟨appended, inside, rfl⟩ := List.mem_map.mp member
    exact valid.unbroken appended inside
  · rw [verifyChain_ok_iff]
    exact valid.sound_iff fresh

def restart : List WriterStep :=
  [.create, .append 0 (sampleCall "ACTION_EXECUTED" "plan-1") sampleDraw, .create,
    .append 1 (sampleCall "ACTION_VERIFIED" "check-1") sampleDraw]

/-- The first process goes on after the second one has started. -/
def interleaved : List WriterStep := restart ++ [.append 0 (sampleCall "ACTION_EXECUTED" "plan-2") sampleDraw]

omit [Runtime] in
private theorem interleaved_lines : ∀ step ∈ interleaved, step.OneLine := by
  intro step member
  have calls : OneLine (sampleCall "ACTION_EXECUTED" "plan-1") ∧ OneLine (sampleCall "ACTION_VERIFIED" "check-1") ∧
      OneLine (sampleCall "ACTION_EXECUTED" "plan-2") := by
    decide
  simp only [interleaved, restart, List.cons_append, List.nil_append, List.mem_cons, List.not_mem_nil, or_false] at member
  rcases member with rfl | rfl | rfl | rfl | rfl
  · trivial
  · exact calls.1
  · trivial
  · exact calls.2.1
  · exact calls.2.2

omit [Runtime] in
theorem load_writers_interleaved :
    letI := Runtime.transparent
    ∃ loaded, loadLog (Writers.run "log.jsonl" { disk := fun _ => none } interleaved).1.disk "log.jsonl" = some loaded ∧
      loaded.entries.map TransparencyEntry.objectId = ["plan-1", "check-1", "plan-2"] ∧ loaded.verifyChain.ok = false := by
  let _ := Runtime.transparent
  obtain ⟨loaded, read, entries, chained⟩ := load_writers transparent_genesisFresh (fun _ => none)
    "log.jsonl" rfl interleaved_lines
  refine ⟨loaded, read, by rw [entries]; rfl, ?_⟩
  rw [Bool.eq_false_iff, ne_eq, chained]
  rintro ⟨writer, all⟩
  obtain rfl := all _ List.mem_cons_self
  exact absurd (all _ (List.mem_cons_of_mem _ List.mem_cons_self)) (by decide)

omit [Runtime] in
theorem load_writers_after_restart :
    letI := Runtime.transparent
    (∀ step ∈ restart, step.OneLine) ∧
      ∃ loaded, loadLog (Writers.run "log.jsonl" { disk := fun _ => none } restart).1.disk "log.jsonl" = some loaded ∧
        loaded.entries.length = 2 ∧ loaded.verifyChain.ok = false := by
  let _ := Runtime.transparent
  have lines : ∀ step ∈ restart, step.OneLine := fun step inside => interleaved_lines step (List.mem_append_left _ inside)
  have valid := (Writers.initial (fun _ => none) "log.jsonl" rfl).run lines
  rw [List.nil_append] at valid
  refine ⟨lines, _, loadLog_unbroken valid.holds ?_, rfl, ?_⟩
  · intro entry member
    obtain ⟨appended, inside, rfl⟩ := List.mem_map.mp member
    exact valid.unbroken appended inside
  · rw [Bool.eq_false_iff, ne_eq, verifyChain_ok_iff]
    rw [valid.sound_iff transparent_genesisFresh]
    intro ⟨writer, all⟩
    obtain rfl := all _ (List.mem_cons_self)
    exact absurd (all _ (List.mem_cons_of_mem _ List.mem_cons_self)) (by decide)

end ArgosCore.Proofs
