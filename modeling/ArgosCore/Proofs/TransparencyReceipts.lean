import ArgosCore.Proofs.TransparencyChain

/-! Receipts against altered logs. A receipt tolerates a chain that breaks later,
and where it breaks is told by the broken entry itself. -/

namespace ArgosCore.Proofs
open TransparencyLog

variable [Runtime]

def IntactPrefix (receipt : TransparencyReceipt) (log altered : TransparencyLog) : Prop :=
  altered.entries.take (receipt.sequence.toNat + 1) = log.entries.take (receipt.sequence.toNat + 1)

/-- A first broken entry at or before the receipt's position also carries a number
that is not greater, or else the entry at the position is not the certified one. -/
def BreakReportedInside (receipt : TransparencyReceipt) (altered : TransparencyLog) : Prop :=
  ∀ (position : Nat) entry, chain.breakAt genesisHash altered.entries = some position →
    altered.entries[position]? = some entry → position ≤ receipt.sequence →
    entry.sequence ≤ receipt.sequence ∨ ¬ Certifies receipt altered.entries

private theorem intact_of_sound (binding : chain.Binding) {receipt : TransparencyReceipt} {log altered : TransparencyLog}
    (honest : Honest log) (original : Certifies receipt log.entries) (certifies : Certifies receipt altered.entries)
    (sound : chain.Sound genesisHash (altered.entries.take (receipt.sequence.toNat + 1))) :
    IntactPrefix receipt log altered := by
  obtain ⟨position, entry, sequence, found, _, hash, _⟩ := original
  obtain ⟨same, other, again, place, _, rehash, _⟩ := certifies
  obtain rfl : same = position := by omega
  have position : receipt.sequence.toNat = same := by omega
  rw [IntactPrefix]
  rw [position] at sound ⊢
  have final : (altered.entries.take (same + 1)).getLast? = some other := by
    rw [List.take_add_one, place, Option.toList_some, List.getLast?_concat]
  exact binding.take_of_declared honest.sound sound final found (rehash.trans hash.symm)

private theorem verifyReceipt_breakAt {receipt : TransparencyReceipt} {altered : TransparencyLog} {position : Nat}
    (sequence : receipt.sequence = position) :
    verifyReceipt receipt altered = some true ↔ Certifies receipt altered.entries ∧
      ∀ (place : Nat) entry, chain.breakAt genesisHash altered.entries = some place →
        altered.entries[place]? = some entry → receipt.sequence < entry.sequence := by
  rw [verifyReceipt_iff sequence, verifyChain_ok_iff, ← chain.breakAt_none_iff]
  apply and_congr_right
  intro _
  cases broken : chain.breakAt genesisHash altered.entries with
  | none => simp
  | some place =>
    obtain ⟨entry, found, reported⟩ := verifyFrom_broken broken
    simp only [verifyChain, reported, reduceCtorEq, false_or, Option.some.injEq, exists_eq_left']
    constructor
    · rintro later _ other rfl same
      rw [found] at same
      cases same
      exact later
    · exact fun later => later place entry rfl found

/-- A receipt certifies an intact beginning of the log exactly when no entry that
breaks the chain up to the receipt's position claims a later number. -/
theorem receipt_certifies_prefix_iff (free : CollisionFree) (fresh : GenesisFresh) {log altered : TransparencyLog}
    (reached : Reachable log) {objectId : String} {draw : Draw} {receipt : TransparencyReceipt}
    (issued : log.issueReceipt objectId draw = .ok receipt) :
    (verifyReceipt receipt altered = some true → IntactPrefix receipt log altered) ↔
      BreakReportedInside receipt altered := by
  have original := issueReceipt_certifies reached.honest issued
  obtain ⟨position, _, sequence, _⟩ := id original
  rw [verifyReceipt_breakAt sequence]
  constructor
  · intro intact place entry broken found inside
    by_contra! hidden
    have reported : ∀ (other : Nat) fake, chain.breakAt genesisHash altered.entries = some other →
        altered.entries[other]? = some fake → receipt.sequence < fake.sequence := by
      intro other fake again same
      obtain rfl : place = other := Option.some.inj (broken.symm.trans again)
      obtain rfl : entry = fake := Option.some.inj (found.symm.trans same)
      exact hidden.1
    have same : altered.entries.take (receipt.sequence.toNat + 1) = log.entries.take (receipt.sequence.toNat + 1) :=
      intact ⟨hidden.2, reported⟩
    have sound := reached.honest.sound.take (receipt.sequence.toNat + 1)
    rw [← same] at sound
    have later := chain.sound_take_iff.mp sound place broken
    omega
  · intro inside ⟨certifies, reported⟩
    apply intact_of_sound (binding free fresh) reached.honest original certifies
    rw [chain.sound_take_iff]
    intro place broken
    by_contra! early
    obtain ⟨entry, found, _⟩ := verifyFrom_broken broken
    have greater := reported place entry broken found
    rcases inside place entry broken found (by omega) with smaller | foreign
    · omega
    · exact foreign certifies

def sampleReceipt : TransparencyReceipt where
  receiptId := newIdPrefixed "rcpt" sampleDraw.uuid
  objectId := "check-1"
  eventType := "ACTION_VERIFIED"
  sequence := 1
  entryHash := ((sampleLog 1).nextEntry (sampleCall "ACTION_VERIFIED" "check-1") sampleDraw).entryHash
  previousEntryHash := ((sampleLog 1).nextEntry (sampleCall "ACTION_VERIFIED" "check-1") sampleDraw).previousEntryHash
  chainLengthAtIssuance := 2
  issuedAt := sampleDraw.utcNowIso

private theorem sampleReceipt_issued : (sampleLog 2).issueReceipt "check-1" sampleDraw = .ok sampleReceipt := rfl

def renumberedLog (sequence : Int) : TransparencyLog where
  entries := match (sampleLog 2).entries with
    | entry :: entries => { entry with sequence } :: entries
    | [] => []

private theorem renumberedLog_entries (sequence : Int) : (renumberedLog sequence).entries =
    [{ ({} : TransparencyLog).nextEntry (sampleCall "ACTION_EXECUTED" "plan-1") sampleDraw with sequence },
      (sampleLog 1).nextEntry (sampleCall "ACTION_VERIFIED" "check-1") sampleDraw] := rfl

private theorem renumberedLog_breakAt (free : CollisionFree) {sequence : Int} (changed : sequence ≠ 0) :
    chain.breakAt genesisHash (renumberedLog sequence).entries = some 0 := by
  rw [renumberedLog_entries, HashChain.breakAt, if_neg]
  rintro ⟨_, hashed⟩
  have original := (nextEntry_continues {} (sampleCall "ACTION_EXECUTED" "plan-1") sampleDraw).2
  have same := computeEntryHash_injective free (hashed.trans original.symm) rfl
  exact changed (congrArg TransparencyEntry.sequence same)

private theorem renumberedLog_certifies (sequence : Int) : Certifies sampleReceipt (renumberedLog sequence).entries :=
  ⟨1, _, rfl, rfl, rfl, rfl, rfl⟩

omit [Runtime] in
theorem receipt_certifies_renumbered :
    letI := Runtime.transparent
    verifyReceipt sampleReceipt (renumberedLog (-1)) ≠ some true := by
  let _ := Runtime.transparent
  have free := Runtime.transparent_collisionFree
  have inside : BreakReportedInside sampleReceipt (renumberedLog (-1)) := by
    intro position entry broken found _
    obtain rfl : 0 = position := Option.some.inj ((renumberedLog_breakAt free (by decide)).symm.trans broken)
    cases found
    exact .inl (by decide)
  intro verified
  have intact := (receipt_certifies_prefix_iff free transparent_genesisFresh (sampleLog_reachable 2)
    sampleReceipt_issued).mpr inside verified
  exact absurd (congrArg (List.map TransparencyEntry.sequence) intact) (by decide)

omit [Runtime] in
/-- With a number beyond the receipt's the altered entry vouches for itself. -/
theorem receipt_certifies_altered_entry :
    letI := Runtime.transparent
    CollisionFree ∧ GenesisFresh ∧ Reachable (sampleLog 2) ∧
      (sampleLog 2).issueReceipt "check-1" sampleDraw = .ok sampleReceipt ∧
      verifyReceipt sampleReceipt (renumberedLog 999) = some true ∧
      ¬ IntactPrefix sampleReceipt (sampleLog 2) (renumberedLog 999) := by
  let _ := Runtime.transparent
  have free := Runtime.transparent_collisionFree
  refine ⟨free, transparent_genesisFresh, sampleLog_reachable 2, sampleReceipt_issued, ?_, ?_⟩
  · refine (verifyReceipt_breakAt (show sampleReceipt.sequence = (1 : Nat) from rfl)).mpr ⟨renumberedLog_certifies 999, ?_⟩
    intro position entry broken found
    obtain rfl : 0 = position := Option.some.inj ((renumberedLog_breakAt free (by decide)).symm.trans broken)
    cases found
    show (1 : Int) < 999
    omega
  · intro same
    have numbers := congrArg (List.map TransparencyEntry.sequence) same
    exact absurd numbers (by decide)

end ArgosCore.Proofs
