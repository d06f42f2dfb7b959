import ArgosCore.Foundations.Fallible
import ArgosCore.Investigator

/-! When a signal is left alone. A tombstone about the signal whose times cannot be compared
with the clock ends the search with an exception, unless one in force comes before it. -/

namespace ArgosCore.Proofs
open IsoTime Investigator

/-- The instant of a well-formed time: a text of ISO 8601 with a timezone. -/
def instantOf? : Json → Option Instant
  | .str text => (fromisoformat text).bind DateTime.instant?
  | _ => none

structure Concerns (tombstone : DetectionTombstone) (entityRefs : List String) (signalSignature : String) : Prop where
  signature : tombstone.signalSignature = signalSignature
  shared : ∃ ref ∈ entityRefs, ref ∈ tombstone.entityRefs

structure InEffect (tombstone : DetectionTombstone) (now : Instant) : Prop where
  times : ∃ validFrom validUntil, instantOf? tombstone.validFrom = some validFrom ∧
    instantOf? tombstone.validUntil = some validUntil ∧ validFrom ≤ now ∧ now ≤ validUntil

/-- Its times can be compared with the clock. The end has to be readable, but a timezone it
needs only when the beginning has passed. -/
structure Checkable (tombstone : DetectionTombstone) (now : Instant) : Prop where
  beginning : ∃ validFrom, instantOf? tombstone.validFrom = some validFrom ∧
    (validFrom ≤ now → (instantOf? tombstone.validUntil).isSome)
  readable : ∃ text, tombstone.validUntil = .str text ∧ (fromisoformat text).isSome

theorem parseTime_ok_iff {value : Json} {time : DateTime} :
    parseTime value = .ok time ↔ ∃ text, value = .str text ∧ fromisoformat text = some time := by
  cases value with
  | str text =>
    rw [parseTime]
    cases parsed : fromisoformat text <;> simp [parsed]
  | _ => simp [parseTime]

theorem instantOf?_of_read {value : Json} {time : DateTime} (read : parseTime value = .ok time) :
    instantOf? value = time.instant? := by
  obtain ⟨text, rfl, parsed⟩ := parseTime_ok_iff.mp read
  rw [instantOf?, parsed, Option.bind_some]

theorem exists_read_of_instantOf? {value : Json} {instant : Instant} (known : instantOf? value = some instant) :
    ∃ time, parseTime value = .ok time ∧ time.instant? = some instant := by
  cases value with
  | str text =>
    obtain ⟨time, parsed, aware⟩ := Option.bind_eq_some_iff.mp known
    exact ⟨time, parseTime_ok_iff.mpr ⟨text, rfl, parsed⟩, aware⟩
  | _ => cases known

section
variable {now : DateTime} {instant : Instant}

theorem notAfter_now_iff (aware : now.instant? = some instant) {time : DateTime} {answer : Bool} :
    notAfter time now = .ok answer ↔ ∃ other, time.instant? = some other ∧ decide (other ≤ instant) = answer := by
  obtain ⟨ahead, known, rfl⟩ := Option.map_eq_some_iff.mp aware
  rw [notAfter, known, DateTime.instant?]
  cases time.offset <;> simp

theorem now_notAfter_iff (aware : now.instant? = some instant) {time : DateTime} {answer : Bool} :
    notAfter now time = .ok answer ↔ ∃ other, time.instant? = some other ∧ decide (instant ≤ other) = answer := by
  obtain ⟨ahead, known, rfl⟩ := Option.map_eq_some_iff.mp aware
  rw [notAfter, known, DateTime.instant?]
  cases time.offset <;> simp

variable {entityRefs : List String} {signalSignature : String} {tombstone : DetectionTombstone}

theorem suppresses_of_not_concerns (other : ¬ Concerns tombstone entityRefs signalSignature) :
    suppresses entityRefs signalSignature now tombstone = .ok false := by
  rw [suppresses]
  split_ifs with different apart
  · rfl
  · rfl
  · refine absurd ⟨not_not.mp different, ?_⟩ other
    simpa using apart

theorem suppresses_of_concerns (about : Concerns tombstone entityRefs signalSignature) :
    suppresses entityRefs signalSignature now tombstone = (do
      let validFrom ← parseTime tombstone.validFrom
      let validUntil ← parseTime tombstone.validUntil
      if ← notAfter validFrom now then notAfter now validUntil else return false) := by
  obtain ⟨same, ref, inside, among⟩ := about
  have shared : ¬ (!entityRefs.any (· ∈ tombstone.entityRefs)) = true := by
    simp only [Bool.not_eq_true', Bool.not_eq_false, List.any_eq_true, decide_eq_true_eq]
    exact ⟨ref, inside, among⟩
  rw [suppresses, if_neg (not_not.mpr same), if_neg shared]

theorem suppresses_true_iff (aware : now.instant? = some instant) :
    suppresses entityRefs signalSignature now tombstone = .ok true ↔
      Concerns tombstone entityRefs signalSignature ∧ InEffect tombstone instant := by
  by_cases about : Concerns tombstone entityRefs signalSignature
  · rw [suppresses_of_concerns about]
    simp only [Fallible.bind_ok_iff, about, true_and]
    constructor
    · rintro ⟨start, readStart, stop, readStop, begun, compared, ended⟩
      obtain ⟨validFrom, startAware, rfl⟩ := (notAfter_now_iff aware).mp compared
      by_cases passed : validFrom ≤ instant
      · rw [decide_eq_true passed, if_pos rfl] at ended
        obtain ⟨validUntil, stopAware, running⟩ := (now_notAfter_iff aware).mp ended
        exact ⟨validFrom, validUntil, (instantOf?_of_read readStart).trans startAware,
          (instantOf?_of_read readStop).trans stopAware, passed, of_decide_eq_true running⟩
      · rw [decide_eq_false passed, if_neg Bool.false_ne_true] at ended
        cases ended
    · rintro ⟨validFrom, validUntil, startKnown, stopKnown, passed, running⟩
      obtain ⟨start, readStart, startAware⟩ := exists_read_of_instantOf? startKnown
      obtain ⟨stop, readStop, stopAware⟩ := exists_read_of_instantOf? stopKnown
      refine ⟨start, readStart, stop, readStop, true, ?_, ?_⟩
      · exact (notAfter_now_iff aware).mpr ⟨validFrom, startAware, decide_eq_true passed⟩
      · exact (now_notAfter_iff aware).mpr ⟨validUntil, stopAware, decide_eq_true running⟩
  · simp [suppresses_of_not_concerns about, about]

theorem suppresses_returns_iff (aware : now.instant? = some instant) :
    (∃ answer, suppresses entityRefs signalSignature now tombstone = .ok answer) ↔
      (Concerns tombstone entityRefs signalSignature → Checkable tombstone instant) := by
  by_cases about : Concerns tombstone entityRefs signalSignature
  · rw [suppresses_of_concerns about]
    simp only [Fallible.bind_ok_iff, about, true_imp_iff]
    constructor
    · rintro ⟨answer, start, readStart, stop, readStop, begun, compared, ended⟩
      obtain ⟨validFrom, startAware, rfl⟩ := (notAfter_now_iff aware).mp compared
      obtain ⟨text, written, parsed⟩ := parseTime_ok_iff.mp readStop
      refine ⟨⟨validFrom, (instantOf?_of_read readStart).trans startAware, fun passed => ?_⟩, text, written, ?_⟩
      · rw [decide_eq_true passed, if_pos rfl] at ended
        obtain ⟨validUntil, stopAware, _⟩ := (now_notAfter_iff aware).mp ended
        rw [instantOf?_of_read readStop, stopAware, Option.isSome_some]
      · rw [parsed, Option.isSome_some]
    · rintro ⟨⟨validFrom, startKnown, aligned⟩, text, written, readable⟩
      obtain ⟨start, readStart, startAware⟩ := exists_read_of_instantOf? startKnown
      obtain ⟨stop, parsed⟩ := Option.isSome_iff_exists.mp readable
      have readStop := parseTime_ok_iff.mpr ⟨text, written, parsed⟩
      have compared := (notAfter_now_iff aware).mpr ⟨validFrom, startAware, rfl⟩
      by_cases passed : validFrom ≤ instant
      · obtain ⟨validUntil, stopKnown⟩ := Option.isSome_iff_exists.mp (aligned passed)
        rw [instantOf?_of_read readStop] at stopKnown
        have ended := (now_notAfter_iff aware).mpr ⟨validUntil, stopKnown, rfl⟩
        exact ⟨_, start, readStart, stop, readStop, _, compared, by rw [decide_eq_true passed, if_pos rfl, ended]⟩
      · exact ⟨false, start, readStart, stop, readStop, _, compared, by rw [decide_eq_false passed]; rfl⟩
  · simp [suppresses_of_not_concerns about, about]

/-- The search is open to failure only where a tombstone about the signal cannot be compared
with the clock and none in force comes before it. -/
theorem tombstoned_iff (aware : now.instant? = some instant) {tombstones arranged : List DetectionTombstone}
    (perm : arranged.Perm tombstones) :
    (∃ answer, isSignalTombstoned entityRefs signalSignature arranged now = .ok answer ∧
        (answer = true ↔ ∃ tombstone ∈ tombstones,
          Concerns tombstone entityRefs signalSignature ∧ InEffect tombstone instant)) ↔
      ∀ before tombstone after, arranged = before ++ tombstone :: after →
        Concerns tombstone entityRefs signalSignature → ¬ Checkable tombstone instant →
          ∃ earlier ∈ before, Concerns earlier entityRefs signalSignature ∧ InEffect earlier instant := by
  have answers (answer : Bool) (done : isSignalTombstoned entityRefs signalSignature arranged now = .ok answer) :
      answer = true ↔ ∃ tombstone ∈ tombstones, Concerns tombstone entityRefs signalSignature ∧ InEffect tombstone instant := by
    rw [Fallible.anyM_answer done]
    simp only [suppresses_true_iff aware, perm.mem_iff]
  have returns : (∃ answer, isSignalTombstoned entityRefs signalSignature arranged now = .ok answer) ↔ _ :=
    Fallible.anyM_returns_iff
  simp only [suppresses_true_iff aware, ← not_exists, suppresses_returns_iff aware, Classical.not_imp, and_imp] at returns
  rw [← returns]
  constructor
  · rintro ⟨answer, done, _⟩
    exact ⟨answer, done⟩
  · rintro ⟨answer, done⟩
    exact ⟨answer, done, answers answer done⟩

end

private def tombstoneFrom (validFrom : String) : DetectionTombstone where
  entityRefs := ["asset-1"]
  signalSignature := "sig-a"
  validFrom := .str validFrom
  validUntil := .str "2026-08-25T12:00:00+00:00"

private def withTimezone : DetectionTombstone := tombstoneFrom "2026-08-18T12:00:00+00:00"

private def withoutTimezone : DetectionTombstone := tombstoneFrom "2026-08-18T12:00:00"

/-- 2026-08-18T13:00:00+00:00 -/
private def oneHourLater : DateTime := ⟨1787058000000000, some 0⟩

theorem tombstoned_iff_two_tombstones :
    (∃ answer, isSignalTombstoned ["asset-1"] "sig-a" [withTimezone, withoutTimezone] oneHourLater = .ok answer ∧
        (answer = true ↔ ∃ tombstone ∈ [withoutTimezone, withTimezone],
          Concerns tombstone ["asset-1"] "sig-a" ∧ InEffect tombstone 1787058000000000)) ↔
      ∀ before tombstone after, [withTimezone, withoutTimezone] = before ++ tombstone :: after →
        Concerns tombstone ["asset-1"] "sig-a" → ¬ Checkable tombstone 1787058000000000 →
          ∃ earlier ∈ before, Concerns earlier ["asset-1"] "sig-a" ∧ InEffect earlier 1787058000000000 :=
  tombstoned_iff rfl (List.Perm.swap ..)

/-- A tombstone without a timezone keeps the one in force from being found, in one order of the
two, and the signal from being investigated when it is alone. -/
theorem defective_tombstone_raises :
    isSignalTombstoned ["asset-1"] "sig-a" [withTimezone, withoutTimezone] oneHourLater = .ok true ∧
      isSignalTombstoned ["asset-1"] "sig-a" [withoutTimezone, withTimezone] oneHourLater = .error .naiveAndAware ∧
      isSignalTombstoned ["asset-1"] "sig-a" [withoutTimezone] oneHourLater = .error .naiveAndAware ∧
      ¬ ∃ tombstone ∈ [withoutTimezone], InEffect tombstone 1787058000000000 := by
  refine ⟨by decide, by decide, by decide, ?_⟩
  rintro ⟨tombstone, inside, validFrom, _, known, _⟩
  rw [List.mem_singleton.mp inside] at known
  have unknown : instantOf? withoutTimezone.validFrom = none := by decide
  rw [unknown] at known
  cases known

end ArgosCore.Proofs
