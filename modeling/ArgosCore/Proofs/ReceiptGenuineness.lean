import ArgosCore.Proofs.TransparencyReceipts

/-! Forged receipts. A receipt is genuine for a log when some beginning of the log
issues it. Verification looks at three of its claims, at a position that may count
from the end. -/

namespace ArgosCore.Proofs
open TransparencyLog

theorem getLast?_filter_eq_some_iff {α : Type} {p : α → Bool} {items : List α} {item : α} :
    (items.filter p).getLast? = some item ↔
      ∃ position, items[position]? = some item ∧ p item = true ∧ ∀ other ∈ items.drop (position + 1), p other = false := by
  rw [List.getLast?_filter, List.find?_eq_some_iff_append]
  constructor
  · intro ⟨holds, after, before, split, absent⟩
    have whole : items = before.reverse ++ item :: after.reverse := by
      rw [← List.reverse_reverse items, split]
      simp
    refine ⟨before.length, by simp [whole], holds, ?_⟩
    intro other inside
    rw [whole, List.drop_append, List.length_reverse, List.drop_eq_nil_of_le (by simp), Nat.add_sub_cancel_left,
      List.nil_append, List.drop_one, List.tail_cons, List.mem_reverse] at inside
    simpa using absent other inside
  · intro ⟨position, found, holds, absent⟩
    obtain ⟨inside, rfl⟩ := List.getElem?_eq_some_iff.mp found
    refine ⟨holds, (items.drop (position + 1)).reverse, (items.take position).reverse, ?_, ?_⟩
    · rw [← List.singleton_append, ← List.append_assoc, ← List.reverse_singleton, ← List.reverse_append, ← List.reverse_append,
        List.singleton_append, ← List.drop_eq_getElem_cons inside, List.take_append_drop]
    · intro other member
      simpa using absent other (List.mem_reverse.mp member)

/-- The claims that verification compares. -/
structure Matches (entry : TransparencyEntry) (receipt : TransparencyReceipt) : Prop where
  object : entry.objectId = receipt.objectId
  hash : entry.entryHash = receipt.entryHash
  previous : entry.previousEntryHash = receipt.previousEntryHash

/-- The claims that it does not compare: the place itself, the event, and a length of
the log at which the entry was still the latest one of its object. -/
structure ClaimsFit (log : TransparencyLog) (receipt : TransparencyReceipt) (entry : TransparencyEntry) : Prop where
  position : 0 ≤ receipt.sequence
  event : entry.eventType = receipt.eventType
  issuedAfter : receipt.sequence < receipt.chainLengthAtIssuance
  issuedWithin : receipt.chainLengthAtIssuance ≤ log.entries.length
  latest : ∀ other ∈ (log.entries.take receipt.chainLengthAtIssuance.toNat).drop (receipt.sequence.toNat + 1),
    other.objectId ≠ receipt.objectId

section
variable [Runtime]

/-- A receipt with the same claims that a beginning of the log would issue. -/
def Genuine (receipt : TransparencyReceipt) (log : TransparencyLog) : Prop :=
  ∃ length ≤ log.entries.length, ∃ draw issued,
    TransparencyLog.issueReceipt { log with entries := log.entries.take length } receipt.objectId draw = .ok issued ∧
      issued.objectId = receipt.objectId ∧ issued.eventType = receipt.eventType ∧ issued.sequence = receipt.sequence ∧
      issued.entryHash = receipt.entryHash ∧ issued.previousEntryHash = receipt.previousEntryHash ∧
      issued.chainLengthAtIssuance = receipt.chainLengthAtIssuance

theorem genuine_iff {receipt : TransparencyReceipt} {log : TransparencyLog} (honest : Honest log) :
    Genuine receipt log ↔ ∃ (position : Nat) (entry : TransparencyEntry), receipt.sequence = position ∧
      log.entries[position]? = some entry ∧ Matches entry receipt ∧ ClaimsFit log receipt entry := by
  constructor
  · intro ⟨length, within, draw, issued, issues, object, event, sequence, hash, previous, count⟩
    unfold issueReceipt at issues
    split at issues
    next => cases issues
    next entry final =>
      cases issues
      obtain ⟨position, found, _, latest⟩ := getLast?_filter_eq_some_iff.mp final
      have before : position < length := by
        have inside := (List.getElem?_eq_some_iff.mp found).1
        rw [List.length_take] at inside
        omega
      rw [List.getElem?_take_of_lt before] at found
      have placed : receipt.sequence = position := sequence.symm.trans (honest.numbered position entry found)
      have counted : receipt.chainLengthAtIssuance = length := by
        rw [← count, List.length_take, Nat.min_eq_left within]
      refine ⟨position, entry, placed, found, ⟨object, hash, previous⟩, ?_⟩
      refine ⟨by omega, event, by omega, by omega, ?_⟩
      intro other inside
      rw [counted, placed] at inside
      simpa using latest other inside
  · intro ⟨position, entry, sequence, found, same, fit⟩
    have after := fit.issuedAfter
    have within := fit.issuedWithin
    have final : ((log.entries.take receipt.chainLengthAtIssuance.toNat).filter
        fun other => other.objectId = receipt.objectId).getLast? = some entry := by
      refine getLast?_filter_eq_some_iff.mpr ⟨position, ?_, by simpa using same.object, ?_⟩
      · rw [List.getElem?_take_of_lt (by omega)]
        exact found
      · intro other inside
        have latest := fit.latest other
        rw [sequence, Int.toNat_natCast] at latest
        simpa using latest inside
    refine ⟨receipt.chainLengthAtIssuance.toNat, by omega, ⟨0, 0⟩, ?_⟩
    rw [issueReceipt, entriesFor, final]
    refine ⟨_, rfl, same.object, fit.event, ?_, same.hash, same.previous, ?_⟩
    · exact (honest.numbered position entry found).trans sequence.symm
    · show ((log.entries.take receipt.chainLengthAtIssuance.toNat).length : Int) = receipt.chainLengthAtIssuance
      rw [List.length_take]
      omega

omit [Runtime] in
private theorem pyIndex_lt {α : Type} {items : List α} {index : Int} {item : α} (selected : pyIndex items index = some item) :
    index < items.length := by
  rw [pyIndex] at selected
  split_ifs at selected with counted
  · have inside := (List.getElem?_eq_some_iff.mp selected).1
    omega
  · omega

omit [Runtime] in
private theorem pyIndex_isSome_iff {α : Type} {items : List α} {index : Int} (before : index < items.length) :
    (pyIndex items index).isSome ↔ -(items.length : Int) ≤ index := by
  rw [pyIndex]
  split_ifs with counted back
  · rw [List.getElem?_eq_getElem (by omega)]
    simp only [Option.isSome_some, true_iff]
    omega
  · rw [List.getElem?_eq_getElem (by omega)]
    simp only [Option.isSome_some, true_iff]
    exact back
  · simpa using back

private theorem verifyReceipt_intact (receipt : TransparencyReceipt) {log : TransparencyLog}
    (verified : log.verifyChain.ok = true) :
    ((verifyReceipt receipt log).isSome ↔ -(log.entries.length : Int) ≤ receipt.sequence) ∧
      (verifyReceipt receipt log = some true ↔ receipt.sequence < log.entries.length ∧
        ∃ entry, pyIndex log.entries receipt.sequence = some entry ∧ Matches entry receipt) := by
  rw [verifyReceipt]
  by_cases outside : (log.entries.length : Int) ≤ receipt.sequence
  · rw [if_pos outside]
    constructor
    · simp only [Option.isSome_some, true_iff]
      omega
    · simp [outside]
  · rw [if_neg outside]
    have before : receipt.sequence < log.entries.length := by omega
    rw [← pyIndex_isSome_iff before]
    cases pyIndex log.entries receipt.sequence with
    | none => simp
    | some entry =>
      simp only [before, true_and, Option.some.injEq, exists_eq_left', Option.bind_eq_bind, Option.bind_some, verified]
      split_ifs with foreign moved
      · refine ⟨by simp, ?_⟩
        simp only [Option.pure_def, Option.some.injEq, Bool.false_eq_true, false_iff]
        intro same
        exact foreign.elim (fun other => other same.object) (fun other => other same.hash)
      · refine ⟨by simp, ?_⟩
        simp only [Option.pure_def, Option.some.injEq, Bool.false_eq_true, false_iff]
        intro same
        exact moved same.previous
      · refine ⟨by simp, ?_⟩
        simp only [not_or, not_not] at foreign moved
        simp only [Option.pure_def, true_iff]
        exact ⟨foreign.1, foreign.2, moved⟩

/-- Verification ends without an error and accepts genuine receipts only, exactly
when the sequence is not before the beginning of the log and an entry that matches
the receipt there also fits its other claims. -/
theorem genuine_receipts_iff (log : TransparencyLog) (reached : Reachable log) (receipt : TransparencyReceipt) :
    ((verifyReceipt receipt log).isSome ∧ (verifyReceipt receipt log = some true ↔ Genuine receipt log)) ↔
      -(log.entries.length : Int) ≤ receipt.sequence ∧
        ∀ entry, pyIndex log.entries receipt.sequence = some entry → Matches entry receipt →
          ClaimsFit log receipt entry := by
  obtain ⟨returns, accepts⟩ := verifyReceipt_intact receipt (verifyChain_ok_iff.mpr reached.honest.sound)
  rw [returns, accepts, genuine_iff reached.honest]
  apply and_congr_right
  intro _
  constructor
  · intro exact entry selected same
    obtain ⟨position, other, sequence, found, _, fit⟩ := exact.mp ⟨pyIndex_lt selected, entry, selected, same⟩
    have here : pyIndex log.entries receipt.sequence = some other := by simp [pyIndex, sequence, found]
    rw [selected] at here
    cases here
    exact fit
  · intro fits
    constructor
    · rintro ⟨_, entry, selected, same⟩
      have fit := fits entry selected same
      have counted := fit.position
      rw [pyIndex, if_pos counted] at selected
      exact ⟨receipt.sequence.toNat, entry, by omega, selected, same, fit⟩
    · rintro ⟨position, entry, sequence, found, same, _⟩
      refine ⟨?_, entry, by simp [pyIndex, sequence, found], same⟩
      have inside := (List.getElem?_eq_some_iff.mp found).1
      omega

def sampleLast : TransparencyEntry := (sampleLog 1).nextEntry (sampleCall "ACTION_VERIFIED" "check-1") sampleDraw

def forgedReceipt (sequence : Int) (eventType : String) : TransparencyReceipt :=
  { sampleReceipt with sequence, eventType }

private theorem forgedReceipt_matches (sequence : Int) (eventType : String) :
    Matches sampleLast (forgedReceipt sequence eventType) := ⟨rfl, rfl, rfl⟩

end

theorem genuine_receipt_accepted :
    letI := Runtime.transparent
    (verifyReceipt sampleReceipt (sampleLog 2)).isSome ∧
      (verifyReceipt sampleReceipt (sampleLog 2) = some true ↔ Genuine sampleReceipt (sampleLog 2)) := by
  let _ := Runtime.transparent
  apply (genuine_receipts_iff (sampleLog 2) (sampleLog_reachable 2) sampleReceipt).mpr
  refine ⟨by decide, ?_⟩
  intro entry selected _
  cases selected
  refine ⟨by decide, rfl, by decide, by decide, ?_⟩
  intro other inside
  cases inside

/-- The last entry is also found at -1, and under another event; -3 is an index error. -/
theorem forged_receipts_accepted :
    letI := Runtime.transparent
    Reachable (sampleLog 2) ∧
      verifyReceipt (forgedReceipt (-1) "ACTION_VERIFIED") (sampleLog 2) = some true ∧
      ¬ Genuine (forgedReceipt (-1) "ACTION_VERIFIED") (sampleLog 2) ∧
      verifyReceipt (forgedReceipt 1 "ACTION_ROLLED_BACK") (sampleLog 2) = some true ∧
      ¬ Genuine (forgedReceipt 1 "ACTION_ROLLED_BACK") (sampleLog 2) ∧
      verifyReceipt (forgedReceipt (-3) "ACTION_VERIFIED") (sampleLog 2) = none := by
  let _ := Runtime.transparent
  have reached := sampleLog_reachable 2
  have verified := verifyChain_ok_iff.mpr reached.honest.sound
  refine ⟨reached, ?_, ?_, ?_, ?_, rfl⟩
  · apply (verifyReceipt_intact _ verified).2.mpr
    exact ⟨by decide, sampleLast, rfl, forgedReceipt_matches _ _⟩
  · intro genuine
    obtain ⟨position, _, sequence, _⟩ := (genuine_iff reached.honest).mp genuine
    have negative : (-1 : Int) = position := sequence
    omega
  · apply (verifyReceipt_intact _ verified).2.mpr
    exact ⟨by decide, sampleLast, rfl, forgedReceipt_matches _ _⟩
  · intro genuine
    obtain ⟨position, entry, sequence, found, _, fit⟩ := (genuine_iff reached.honest).mp genuine
    obtain rfl : 1 = position := Int.ofNat_inj.mp sequence
    cases found
    exact absurd fit.event (by decide)

end ArgosCore.Proofs
