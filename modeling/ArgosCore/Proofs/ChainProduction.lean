import ArgosCore.Proofs.TransparencyChain

/-! Which lists of entries `append` can produce, against those that verification
accepts. Verification follows links and hashes; numbers and event types are also
part of what an append establishes. -/

namespace ArgosCore.Proofs
open TransparencyLog

/-- Entries numbered by position, each of a known event. -/
structure Listed (entries : List TransparencyEntry) : Prop where
  numbered : ∀ (position : Nat) entry, entries[position]? = some entry → entry.sequence = position
  known : ∀ entry ∈ entries, entry.eventType ∈ validEventTypes

theorem listed_concat {entries : List TransparencyEntry} {last : TransparencyEntry} :
    Listed (entries ++ [last]) ↔
      Listed entries ∧ last.sequence = entries.length ∧ last.eventType ∈ validEventTypes := by
  constructor
  · intro ⟨numbered, known⟩
    refine ⟨⟨?_, ?_⟩, numbered entries.length last (by simp), known last (by simp)⟩
    · intro position entry found
      apply numbered position entry
      rw [List.getElem?_append_left (List.getElem?_eq_some_iff.mp found).1]
      exact found
    · exact fun entry inside => known entry (List.mem_append_left _ inside)
  · intro ⟨⟨numbered, known⟩, sequence, event⟩
    constructor
    · intro position entry found
      rcases getElem?_concat_eq_some found with earlier | ⟨rfl, rfl⟩
      · exact numbered position entry earlier
      · exact sequence
    · rw [List.forall_mem_append, List.forall_mem_singleton]
      exact ⟨known, event⟩

section
variable [Runtime]

def entryNamed (log : TransparencyLog) (call : AppendCall) (eventId timestamp : String) : TransparencyEntry :=
  let entryWithoutHash := { log.entryWithoutHash call ⟨0, 0⟩ with eventId, timestamp }
  { entryWithoutHash with entryHash := computeEntryHash entryWithoutHash }

/-- The lists that successful calls of `append` lead to, whatever identifiers and
timestamps they draw. -/
inductive Produced : List TransparencyEntry → Prop where
  | nil : Produced []
  | append {log : TransparencyLog} (earlier : Produced log.entries) {call : AppendCall}
      (known : call.eventType ∈ validEventTypes) (eventId timestamp : String) :
      Produced (log.entries ++ [entryNamed log call eventId timestamp])

theorem nextEntry_eq_entryNamed (log : TransparencyLog) (call : AppendCall) (draw : Draw) :
    log.nextEntry call draw = entryNamed log call (newIdPrefixed "evtlog" draw.uuid) draw.utcNowIso := rfl

theorem Produced.appended {log : TransparencyLog} (produced : Produced log.entries) {disk : Disk} {call : AppendCall}
    {draw : Draw} {write : WriteOutcome} {entry : TransparencyEntry}
    (succeeded : (log.append disk call draw write).1 = .ok entry) :
    Produced (log.append disk call draw write).2.1.entries := by
  rcases append_cases log disk call draw write with ⟨_, ⟨message, raised⟩, _⟩ | ⟨known, extended⟩
  · rw [raised] at succeeded
    cases succeeded
  · rw [extended, nextEntry_eq_entryNamed]
    exact .append produced known _ _

theorem entryNamed_continues (log : TransparencyLog) (call : AppendCall) (eventId timestamp : String) :
    chain.Continues (chain.tip genesisHash log.entries) (entryNamed log call eventId timestamp) := by
  constructor
  · exact (nextEntry_continues log call ⟨0, 0⟩).1
  · exact computeEntryHash_declared { log.entryWithoutHash call ⟨0, 0⟩ with eventId, timestamp } _

theorem eq_entryNamed {entries : List TransparencyEntry} {last : TransparencyEntry}
    (continues : chain.Continues (chain.tip genesisHash entries) last) (sequence : last.sequence = entries.length) :
    last = entryNamed { entries } ⟨last.eventType, last.objectId, last.objectHash, last.runId, last.producer⟩
      last.eventId last.timestamp := by
  obtain ⟨linked, hashed⟩ := continues
  have previous := (nextEntry_continues { entries } ⟨last.eventType, last.objectId, last.objectHash, last.runId,
    last.producer⟩ ⟨0, 0⟩).1
  have unhashed : { last with entryHash := "" } = { entryWithoutHash { entries } ⟨last.eventType, last.objectId,
      last.objectHash, last.runId, last.producer⟩ ⟨0, 0⟩ with eventId := last.eventId, timestamp := last.timestamp } := by
    have same := linked.trans previous.symm
    cases last
    simp only [TransparencyEntry.mk.injEq, true_and]
    exact ⟨sequence, rfl, rfl, rfl, same, rfl, rfl, rfl⟩
  have rehashed : last = { last with entryHash := computeEntryHash { last with entryHash := "" } } := by
    have declared : computeEntryHash last = last.entryHash := hashed
    rw [computeEntryHash_declared, declared]
  rw [rehashed, entryNamed, ← unhashed]

theorem produced_iff {entries : List TransparencyEntry} :
    Produced entries ↔ chain.Sound genesisHash entries ∧ Listed entries := by
  constructor
  · intro produced
    induction produced with
    | nil => exact ⟨trivial, by simp, by simp⟩
    | @append log _ call known eventId timestamp ih =>
      rw [chain.sound_concat, listed_concat]
      exact ⟨⟨ih.1, entryNamed_continues log call eventId timestamp⟩, ih.2, rfl, known⟩
  · intro ⟨sound, listed⟩
    induction entries using List.reverseRecOn with
    | nil => exact .nil
    | append_singleton entries last ih =>
      obtain ⟨earlier, continues⟩ := chain.sound_concat.mp sound
      obtain ⟨before, sequence, known⟩ := listed_concat.mp listed
      rw [eq_entryNamed continues sequence]
      have grown : Produced ({ entries } : TransparencyLog).entries := ih earlier before
      exact .append grown known _ _

/-- Verification accepts exactly what appends can produce when every intact list is
also numbered by position and names known events only. -/
theorem produced_logs_iff (entries : List TransparencyEntry) :
    (((verifyChain { entries }).ok = true ↔ Produced entries) ∧ ((verifyChain { entries }).ok = true → Listed entries)) ↔
      (chain.Sound genesisHash entries → Listed entries) := by
  rw [verifyChain_ok_iff, produced_iff]
  constructor
  · exact fun accepted => accepted.2
  · intro listed
    exact ⟨⟨fun sound => ⟨sound, listed sound⟩, fun both => both.1⟩, listed⟩

def inventedEntry : TransparencyEntry :=
  let entryWithoutHash := { entryWithoutHash {} (sampleCall "COMPONENT_PROMOTED" "model-1") sampleDraw with sequence := 7 }
  { entryWithoutHash with entryHash := computeEntryHash entryWithoutHash }

private theorem inventedEntry_continues : chain.Continues genesisHash inventedEntry :=
  ⟨rfl, computeEntryHash_declared { entryWithoutHash {} (sampleCall "COMPONENT_PROMOTED" "model-1") sampleDraw with
    sequence := 7 } _⟩

end

theorem invented_entry_accepted :
    letI := Runtime.transparent
    (verifyChain { entries := [inventedEntry] }).ok = true ∧ ¬ Produced [inventedEntry] ∧ ¬ Listed [inventedEntry] := by
  let _ := Runtime.transparent
  have unlisted : ¬ Listed [inventedEntry] := by
    intro listed
    exact absurd (listed.numbered 0 inventedEntry rfl) (by decide)
  refine ⟨?_, fun produced => unlisted (produced_iff.mp produced).2, unlisted⟩
  rw [verifyChain_ok_iff]
  exact ⟨inventedEntry_continues, trivial⟩

end ArgosCore.Proofs
