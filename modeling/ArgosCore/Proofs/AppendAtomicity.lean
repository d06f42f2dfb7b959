import ArgosCore.Proofs.TransparencyPersistence

/-! Appends that raise. The entry is in memory before the file is opened, so only a
call that is refused before that leaves both as they were. -/

namespace ArgosCore.Proofs
open TransparencyLog

structure Attempt where
  call : AppendCall
  draw : Draw
  write : WriteOutcome

section
variable [Runtime]

abbrev attempted (state : TransparencyLog × Disk) (attempt : Attempt) :
    Except AppendError TransparencyEntry × TransparencyLog × Disk :=
  state.1.append state.2 attempt.call attempt.draw attempt.write

def runAttempts (state : TransparencyLog × Disk) (attempts : List Attempt) : TransparencyLog × Disk :=
  attempts.foldl (fun state attempt => (attempted state attempt).2) state

/-- Calls that raise leave the entries and the file as they were, and the file holds
one line for each entry after every call when it does at the start. -/
structure AtomicRun (path : String) (state : TransparencyLog × Disk) (attempts : List Attempt) : Prop where
  untouched : ∀ earlier attempt, earlier ++ [attempt] <+: attempts →
    (∃ error, (attempted (runAttempts state earlier) attempt).1 = .error error) →
    (runAttempts state (earlier ++ [attempt])).1.entries = (runAttempts state earlier).1.entries ∧
      (runAttempts state (earlier ++ [attempt])).2 path = (runAttempts state earlier).2 path
  corresponds : Holds state.2 path state.1.entries →
    ∀ earlier, earlier <+: attempts → Holds (runAttempts state earlier).2 path (runAttempts state earlier).1.entries

theorem runAttempts_concat (state : TransparencyLog × Disk) (attempts : List Attempt) (attempt : Attempt) :
    runAttempts state (attempts ++ [attempt]) = (attempted (runAttempts state attempts) attempt).2 := by
  rw [runAttempts, List.foldl_append]
  rfl

theorem attempted_persistPath (state : TransparencyLog × Disk) (attempt : Attempt) :
    (attempted state attempt).2.1.persistPath = state.1.persistPath := by
  rcases append_cases state.1 state.2 attempt.call attempt.draw attempt.write with ⟨_, _, same⟩ | ⟨_, extended⟩
  · rw [same]
  · rw [extended]

theorem runAttempts_persistPath (state : TransparencyLog × Disk) (attempts : List Attempt) :
    (runAttempts state attempts).1.persistPath = state.1.persistPath := by
  induction attempts using List.reverseRecOn with
  | nil => rfl
  | append_singleton attempts attempt ih => rw [runAttempts_concat, attempted_persistPath, ih]

/-- A call with a known event whose write fails raises, and its entry stays in memory. -/
theorem attempted_unwritten {state : TransparencyLog × Disk} {path : String} (file : state.1.persistPath = some path)
    {attempt : Attempt} (known : attempt.call.eventType ∈ validEventTypes) (unwritten : attempt.write ≠ .written) :
    (attempted state attempt).1 = .error .writeError ∧
      (attempted state attempt).2.1.entries = state.1.entries ++ [state.1.nextEntry attempt.call attempt.draw] := by
  simp [attempted, append, known, file, unwritten]

theorem attempted_cases {state : TransparencyLog × Disk} {path : String} (file : state.1.persistPath = some path)
    {attempt : Attempt} (written : attempt.call.eventType ∈ validEventTypes → attempt.write = .written) :
    (attempted state attempt).2 = state ∨
      (∃ entry, (attempted state attempt).1 = .ok entry) ∧
        (Holds state.2 path state.1.entries →
          Holds (attempted state attempt).2.2 path (attempted state attempt).2.1.entries) := by
  by_cases known : attempt.call.eventType ∈ validEventTypes
  · apply Or.inr
    rw [attempted, written known]
    rcases append_written file state.2 attempt.call attempt.draw with ⟨unknown, _⟩ | ⟨_, appended⟩
    · exact absurd known unknown
    · rw [appended]
      exact ⟨⟨_, rfl⟩, fun holds => holds.written _⟩
  · rcases append_cases state.1 state.2 attempt.call attempt.draw attempt.write with ⟨_, _, same⟩ | ⟨accepted, _⟩
    · exact .inl same
    · exact absurd accepted known

/-- The calls of a run are atomic exactly when the line of every known event gets
written. -/
theorem append_atomic_iff (entries : List TransparencyEntry) (path : String) (disk : Disk) (attempts : List Attempt) :
    AtomicRun path ({ entries, persistPath := some path }, disk) attempts ↔
      ∀ attempt ∈ attempts, attempt.call.eventType ∈ validEventTypes → attempt.write = .written := by
  have file (earlier : List Attempt) :
      (runAttempts ({ entries, persistPath := some path }, disk) earlier).1.persistPath = some path :=
    runAttempts_persistPath _ earlier
  constructor
  · intro atomic attempt inside known
    by_contra unwritten
    obtain ⟨earlier, later, rfl⟩ := List.mem_iff_append.mp inside
    obtain ⟨raised, extended⟩ := attempted_unwritten (file earlier) known unwritten
    have kept := (atomic.untouched earlier attempt ⟨later, by simp⟩ ⟨_, raised⟩).1
    rw [runAttempts_concat, extended] at kept
    exact absurd kept (by simp)
  · intro written
    constructor
    · intro earlier attempt run ⟨error, raised⟩
      rw [runAttempts_concat]
      rcases attempted_cases (file earlier) (written attempt (run.subset (by simp))) with same | ⟨⟨entry, done⟩, _⟩
      · rw [same]
        exact ⟨rfl, rfl⟩
      · cases raised.symm.trans done
    · intro start earlier run
      induction earlier using List.reverseRecOn with
      | nil => exact start
      | append_singleton earlier attempt ih =>
        have before := ih ((List.prefix_append earlier [attempt]).trans run)
        rw [runAttempts_concat]
        rcases attempted_cases (file earlier) (written attempt (run.subset (by simp))) with same | ⟨_, kept⟩
        · rw [same]
          exact before
        · exact kept before

end

/-- The disk refuses to open the file: the call raises and the log has grown. -/
theorem failed_append_stays_in_memory :
    letI := Runtime.transparent
    let start : TransparencyLog × Disk := ({ persistPath := some "log.jsonl" }, fun _ => none)
    let attempt : Attempt := ⟨sampleCall "ACTION_EXECUTED" "plan-1", sampleDraw, .cannotOpen⟩
    (attempted start attempt).1 = .error .writeError ∧ (attempted start attempt).2.1.entries.length = 1 ∧
      (attempted start attempt).2.2 "log.jsonl" = none ∧ ¬ AtomicRun "log.jsonl" start [attempt] := by
  let _ := Runtime.transparent
  refine ⟨rfl, rfl, rfl, ?_⟩
  intro atomic
  have kept := (atomic.untouched [] _ (List.prefix_refl _) ⟨_, rfl⟩).1
  exact absurd (congrArg List.length kept) (by decide)

end ArgosCore.Proofs
