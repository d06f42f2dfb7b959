import Mathlib.Data.Nat.Basic
import Mathlib.Data.String.Defs

/-! Points in time and their ISO 8601 text. An instant counts microseconds from
the Unix epoch; `isoformat` is the text of an aware UTC datetime, whose fraction
is left out when it is zero. -/

namespace IsoTime

abbrev Instant := Int

def minutes (count : Int) : Instant := count * 60000000

structure Day where
  year : Int
  month : Nat
  day : Nat
  deriving DecidableEq, Repr

/-- The calendar day a number of days after the epoch. Years start in March, so
the leap day is the last one of its year and of its 400-year era. -/
def civil (days : Int) : Day :=
  let shifted := days + 719468
  let era := shifted / 146097
  let dayOfEra := (shifted % 146097).toNat
  let yearOfEra := (dayOfEra - dayOfEra / 1460 + dayOfEra / 36524 - dayOfEra / 146096) / 365
  let dayOfYear := dayOfEra - (365 * yearOfEra + yearOfEra / 4 - yearOfEra / 100)
  let index := (5 * dayOfYear + 2) / 153
  let month := if index < 10 then index + 3 else index - 9
  { year := yearOfEra + era * 400 + (if month ≤ 2 then 1 else 0)
    month
    day := dayOfYear - (153 * index + 2) / 5 + 1 }

def padded : Nat → Nat → List Char
  | 0, _ => []
  | width + 1, n => padded width (n / 10) ++ [Nat.digitChar (n % 10)]

/-- `datetime.isoformat()` in UTC, for the years 1 to 9999 that a datetime has. -/
def isoformat (instant : Instant) : String :=
  let date := civil (instant / 86400000000)
  let time := (instant % 86400000000).toNat
  let fraction := time % 1000000
  String.ofList (padded 4 date.year.toNat ++ '-' :: padded 2 date.month ++ '-' :: padded 2 date.day ++
    'T' :: padded 2 (time / 3600000000) ++ ':' :: padded 2 (time / 60000000 % 60) ++
    ':' :: padded 2 (time / 1000000 % 60) ++
    (if fraction = 0 then [] else '.' :: padded 6 fraction) ++ ['+', '0', '0', ':', '0', '0'])

example : isoformat 1785920400500000 = "2026-08-05T09:00:00.500000+00:00" := by decide

def isTimestampChar (c : Char) : Bool := c.isDigit || ['-', 'T', ':', '.', '+'].contains c

private theorem padded_all (width n : Nat) : (padded width n).all isTimestampChar = true := by
  induction width generalizing n with
  | zero => rfl
  | succ width ih =>
    have digits : ∀ d < 10, isTimestampChar d.digitChar = true := by decide
    simp [padded, ih, digits (n % 10) (Nat.mod_lt _ (by omega))]

theorem isoformat_all (instant : Instant) : (isoformat instant).toList.all isTimestampChar = true := by
  have punctuation : isTimestampChar '-' = true ∧ isTimestampChar 'T' = true ∧ isTimestampChar ':' = true ∧
      isTimestampChar '+' = true ∧ isTimestampChar '0' = true := by decide
  simp only [isoformat, String.toList_ofList, List.all_append, List.all_cons, padded_all, List.all_nil, Bool.true_and,
    Bool.and_true, punctuation]
  split
  · rfl
  · rw [List.all_cons, padded_all]
    rfl

end IsoTime
