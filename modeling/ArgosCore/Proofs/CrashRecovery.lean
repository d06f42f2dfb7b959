import ArgosCore.Foundations.JsonCut
import ArgosCore.Proofs.HonestReplay
import ArgosCore.Proofs.TransparencyPersistence

/-! Recovery after a crash. Of the file of a log, only the first characters are left. What is
loaded from them is a beginning of the log, so a replay over it verifies nothing that the log
itself would not. -/

namespace ArgosCore

/-- What a crash leaves of a file: its first characters. -/
def Disk.crash (disk : Disk) (path : String) (count : Nat) : Disk :=
  Function.update disk path ((disk path).map fun content => String.ofList (content.toList.take count))

end ArgosCore

namespace ArgosCore.Proofs
open Json TransparencyLog

def writtenLength (entries : List TransparencyEntry) : Nat := (linesText (entries.map TransparencyEntry.toDict)).length

theorem crash_text (disk : Disk) (path : String) (count : Nat) :
    ((disk.crash path count path).getD "").toList = ((disk path).getD "").toList.take count := by
  rw [Disk.crash, Function.update_self]
  cases disk path <;> simp

theorem loadLog_crashed {disk : Disk} {path : String} {entries : List TransparencyEntry} (holds : Holds disk path entries)
    (unseparated : ∀ entry ∈ entries, ∀ text ∈ (Json.obj entry.toDict).strings, Unseparated text) (count : Nat) :
    (Torn (entries.map TransparencyEntry.toDict) count ∧ loadLog (disk.crash path count) path = none) ∨
      (¬ Torn (entries.map TransparencyEntry.toDict) count ∧ ∃ whole ≤ entries.length,
        loadLog (disk.crash path count) path = some { entries := entries.take whole } ∧
        ∀ other ≤ entries.length, writtenLength (entries.take other) ≤ count → other ≤ whole) := by
  have distinct : ∀ object ∈ entries.map TransparencyEntry.toDict, (Json.obj object).Distinct := by
    simpa using fun entry _ => TransparencyEntry.toDict_distinct entry
  rw [loadLog_eq, crash_text, holds]
  rcases linesOf_cut _ distinct (by simpa using unseparated) count with
    ⟨torn, line, inside, fails⟩ | ⟨untorn, whole, within, lines, durable⟩
  · exact .inl ⟨torn, by rw [mapM_none inside (by rw [fails]; rfl), Option.map_none]⟩
  · rw [List.length_map] at within durable
    refine .inr ⟨untorn, whole, within, ?_, ?_⟩
    · rw [lines, ← List.map_take, List.map_map, mapM_map_some loads_entry, Option.map_some]
    · intro other bound short
      exact durable other bound (by rwa [← List.map_take])

section
variable [Runtime]

/-- A replay reads of the log whether its chain is intact and which events the run has. -/
theorem replayAndVerify_congr {log other : TransparencyLog} (intact : log.verifyChain.ok = true)
    (otherIntact : other.verifyChain.ok = true) {runId : String} (seen : eventTypesSeen log runId = eventTypesSeen other runId)
    (manifests : List (Option Manifest)) (root : EvidenceRoot) (artifactBytesById : List (String × ByteArray))
    (requiredEventTypes : Finset String) :
    replayAndVerify runId manifests root log artifactBytesById requiredEventTypes =
      replayAndVerify runId manifests root other artifactBytesById requiredEventTypes := by
  simp only [replayAndVerify, seen]
  rw [if_neg (not_not.mpr intact), if_neg (not_not.mpr otherIntact)]

structure Recovered (original : TransparencyLog) (count : Nat) (loaded : TransparencyLog) : Prop where
  beginning : loaded.entries <+: original.entries
  durable : ∀ entries, entries <+: original.entries → writtenLength entries ≤ count → entries <+: loaded.entries
  intact : loaded.verifyChain.ok = true
  /-- Nothing verifies that would not verify over the log itself. -/
  sound : ∀ input : ReplayInput, input.log = loaded → input.Verified → ReplayInput.Verified { input with log := original }
  /-- A run whose entries all survived replays as before. -/
  complete : ∀ runId, (∀ entry ∈ original.entries, entry.runId = runId → entry ∈ loaded.entries) →
    ∀ manifests root artifactBytesById requiredEventTypes,
      replayAndVerify runId manifests root loaded artifactBytesById requiredEventTypes =
        replayAndVerify runId manifests root original artifactBytesById requiredEventTypes

theorem Recovered.of_beginning {original loaded : TransparencyLog} {count : Nat}
    (beginning : loaded.entries <+: original.entries)
    (durable : ∀ entries, entries <+: original.entries → writtenLength entries ≤ count → entries <+: loaded.entries)
    (intact : loaded.verifyChain.ok = true) (originalIntact : original.verifyChain.ok = true) :
    Recovered original count loaded := by
  refine ⟨beginning, durable, intact, ?_, ?_⟩
  · rintro input rfl verified
    obtain ⟨_, root, contents, events⟩ := replay_verified_iff.mp verified
    refine replay_verified_iff.mpr ⟨originalIntact, root, contents, fun eventType required => ?_⟩
    obtain ⟨entry, inside, ofRun, ofType⟩ := mem_eventTypesSeen.mp (events required)
    exact mem_eventTypesSeen.mpr ⟨entry, beginning.subset inside, ofRun, ofType⟩
  · intro runId survived manifests root artifactBytesById requiredEventTypes
    refine replayAndVerify_congr intact originalIntact (Finset.ext fun eventType => ?_) _ _ _ _
    rw [mem_eventTypesSeen, mem_eventTypesSeen]
    constructor
    · rintro ⟨entry, inside, ofRun, ofType⟩
      exact ⟨entry, beginning.subset inside, ofRun, ofType⟩
    · rintro ⟨entry, inside, ofRun, ofType⟩
      exact ⟨entry, survived entry inside ofRun, ofRun, ofType⟩

/-- Wherever the file of a log is cut off, it loads to a recovered log, unless the cut is inside of
the text of an entry, when it does not load at all. -/
theorem crash_recovery (disk : Disk) (path : String) (absent : disk path = none) (calls : List (AppendCall × Draw))
    (lines : ∀ call ∈ calls, call.1.eventType ∈ validEventTypes → OneLine call.1) (count : Nat) :
    let state := appendAll ({ persistPath := some path }, disk) calls
    let recovered := loadLog (state.2.crash path count) path
    (recovered = none ↔ Torn (state.1.entries.map TransparencyEntry.toDict) count) ∧
      ∀ loaded, recovered = some loaded → Recovered state.1 count loaded := by
  intro state recovered
  have start := persisted_initial disk path absent
  have persisted : Persisted path state := start.appendAll calls
  have unseparated := (appendAll_unseparated_iff start calls).mpr ⟨by simp, lines⟩
  have sound := persisted.honest.sound
  rcases loadLog_crashed persisted.holds unseparated count with ⟨torn, failed⟩ | ⟨untorn, whole, _, read, durable⟩
  · refine ⟨iff_of_true failed torn, ?_⟩
    intro loaded some
    cases failed.symm.trans some
  · refine ⟨iff_of_false (by rw [show recovered = _ from read]; simp) untorn, ?_⟩
    intro loaded some
    obtain rfl : { entries := state.1.entries.take whole } = loaded := Option.some.inj (read.symm.trans some)
    have intact : ({ entries := state.1.entries.take whole } : TransparencyLog).verifyChain.ok = true :=
      verifyChain_ok_iff.mpr (sound.take whole)
    refine .of_beginning (List.take_prefix _ _) ?_ intact (verifyChain_ok_iff.mpr sound)
    intro entries beginning short
    refine List.prefix_take_iff.mpr ⟨beginning, durable entries.length beginning.length_le ?_⟩
    rwa [← List.prefix_iff_eq_take.mp beginning]

end

/-- The disk stops between the two lines of a log of two entries. -/
theorem crash_recovery_between_lines :
    letI := Runtime.transparent
    let calls := [(sampleCall "ACTION_EXECUTED" "plan-1", sampleDraw), (sampleCall "ACTION_VERIFIED" "check-1", sampleDraw)]
    let state := appendAll ({ persistPath := some "log.jsonl" }, fun _ => none) calls
    ∃ loaded, loadLog (state.2.crash "log.jsonl" (writtenLength (state.1.entries.take 1))) "log.jsonl" = some loaded ∧
      state.1.entries.take 1 <+: loaded.entries ∧ loaded.verifyChain.ok = true := by
  let _ := Runtime.transparent
  intro calls state
  obtain ⟨torn, recovers⟩ := crash_recovery (fun _ => none) "log.jsonl" rfl calls (by decide)
    (writtenLength (state.1.entries.take 1))
  have untorn : ¬ Torn (state.1.entries.map TransparencyEntry.toDict) (writtenLength (state.1.entries.take 1)) := by
    rw [writtenLength, List.map_take]
    exact not_torn_between _ 1
  obtain ⟨loaded, read⟩ := Option.ne_none_iff_exists'.mp (mt torn.mp untorn)
  have recovered := recovers loaded read
  exact ⟨loaded, read, recovered.durable _ (List.take_prefix _ _) le_rfl, recovered.intact⟩

end ArgosCore.Proofs
