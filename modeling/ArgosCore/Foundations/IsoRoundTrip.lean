import ArgosCore.Foundations.IsoParse
import Mathlib.Algebra.Group.Nat.Defs

/-! Timestamps that are written can be read back: `fromisoformat` of `isoformat` is the
same instant, in UTC. The calendar day of an instant is checked against the ordinal that
the reader computes. -/

namespace IsoTime

/-! A year that starts in March, within an era of 400. -/

def yearOfEra (dayOfEra : Nat) : Nat := (dayOfEra - dayOfEra / 1460 + dayOfEra / 36524 - dayOfEra / 146096) / 365

def yearStart (year : Nat) : Nat := 365 * year + year / 4 - year / 100

/-- The last day of such a year is a leap day when the calendar year in which it ends is leap. -/
def yearLast (year : Nat) : Nat := yearStart year + if isLeap (year + 1) then 365 else 364

theorem yearOfEra_mono_step {day : Nat} (inside : day + 1 < 146097) : yearOfEra day ≤ yearOfEra (day + 1) := by
  rw [yearOfEra, yearOfEra]
  apply Nat.div_le_div_right
  omega

theorem yearOfEra_mono {first last : Nat} (ordered : first ≤ last) (inside : last < 146097) :
    yearOfEra first ≤ yearOfEra last := by
  induction ordered with
  | refl => exact le_refl _
  | step _ ih => exact Nat.le_trans (ih (by omega)) (yearOfEra_mono_step inside)

private theorem year_table : ∀ year < 400, yearOfEra (yearStart year) = year ∧ yearOfEra (yearLast year) = year ∧
    yearLast year < 146097 ∧ (year < 399 → yearStart (year + 1) = yearLast year + 1) ∧
    (year = 399 → yearLast year = 146096) := by
  decide +kernel

/-- Every day of an era lies in one of its years, the one that is computed. -/
theorem yearOfEra_spec {day : Nat} (inside : day < 146097) :
    yearOfEra day < 400 ∧ yearStart (yearOfEra day) ≤ day ∧ day ≤ yearLast (yearOfEra day) := by
  have found : ∀ count ≤ 400, (day < yearStart count ∨ count = 400) →
      ∃ year < count, yearStart year ≤ day ∧ day ≤ yearLast year := by
    intro count
    induction count with
    | zero =>
      rintro _ (before | none)
      · cases before
      · cases none
    | succ count ih =>
      intro bounded before
      by_cases earlier : day < yearStart count
      · obtain ⟨year, smaller, held⟩ := ih (by omega) (.inl earlier)
        exact ⟨year, by omega, held⟩
      · have table := year_table count (by omega)
        exact ⟨count, by omega, by omega, by omega⟩
  obtain ⟨year, small, started, ended⟩ := found 400 le_rfl (.inr rfl)
  obtain ⟨first, last, bounded, _⟩ := year_table year small
  have below := yearOfEra_mono started inside
  have above := yearOfEra_mono ended bounded
  obtain rfl : yearOfEra day = year := by omega
  exact ⟨small, started, ended⟩

/-! The months of such a year, and the calendar's own count of days. -/

theorem isLeap_iff (year : Nat) : isLeap year = true ↔ 4 ∣ year ∧ (¬ 100 ∣ year ∨ 400 ∣ year) := by
  simp [isLeap, Nat.dvd_iff_mod_eq_zero]

theorem daysBeforeYear_next {year : Nat} (positive : 1 ≤ year) :
    daysBeforeYear (year + 1) = daysBeforeYear year + if isLeap year then 366 else 365 := by
  obtain ⟨before, rfl⟩ := Nat.exists_eq_add_of_le' positive
  have centuries : before / 100 ≤ before / 4 := Nat.div_le_div_left (by omega) (by omega)
  have hundred (era : 400 ∣ before + 1) : 100 ∣ before + 1 := Nat.dvd_trans (by decide) era
  have four (century : 100 ∣ before + 1) : 4 ∣ before + 1 := Nat.dvd_trans (by decide) century
  simp only [daysBeforeYear, Nat.add_sub_cancel, Nat.succ_div, isLeap_iff]
  by_cases era : 400 ∣ before + 1
  · simp only [era, hundred era, four (hundred era)]
    simp
    omega
  · by_cases century : 100 ∣ before + 1
    · simp only [era, century, four century]
      simp
      omega
    · by_cases fourth : 4 ∣ before + 1
      · simp only [era, century, fourth]
        simp
        omega
      · simp only [era, century, fourth]
        simp
        omega

private theorem daysInMonth_congr {year other : Nat} (same : isLeap year = isLeap other) (month : Nat) :
    daysInMonth year month = daysInMonth other month := by
  rw [daysInMonth, daysInMonth, same]

private theorem daysBeforeMonth_congr {year other : Nat} (same : isLeap year = isLeap other) (month : Nat) :
    daysBeforeMonth year month = daysBeforeMonth other month := by
  rw [daysBeforeMonth, daysBeforeMonth]
  simp only [daysInMonth_congr same]

def monthIndex (dayOfYear : Nat) : Nat := (5 * dayOfYear + 2) / 153

def marchOffset (index : Nat) : Nat := (153 * index + 2) / 5

def monthOf (index : Nat) : Nat := if index < 10 then index + 3 else index - 9

theorem month_spec {dayOfYear : Nat} (inside : dayOfYear < 366) :
    monthIndex dayOfYear < 12 ∧ marchOffset (monthIndex dayOfYear) ≤ dayOfYear ∧
      dayOfYear < marchOffset (monthIndex dayOfYear + 1) := by
  rw [monthIndex, marchOffset, marchOffset]
  omega

/-- From March on, the days before a month are those since the first of March and two months. -/
theorem daysBeforeMonth_late (year : Nat) {index : Nat} (late : index < 10) :
    daysBeforeMonth year (monthOf index) = marchOffset index + if isLeap year then 60 else 59 := by
  have leapYear : ∀ index < 10, daysBeforeMonth 4 (monthOf index) = marchOffset index + 60 := by decide
  have plainYear : ∀ index < 10, daysBeforeMonth 1 (monthOf index) = marchOffset index + 59 := by decide
  cases leap : isLeap year with
  | true => rw [daysBeforeMonth_congr (show isLeap year = isLeap 4 from leap), leapYear index late, if_pos rfl]
  | false => rw [daysBeforeMonth_congr (show isLeap year = isLeap 1 from leap), plainYear index late, if_neg (by decide)]

theorem daysBeforeMonth_early (year : Nat) {index : Nat} (early : 10 ≤ index) (bounded : index < 12) :
    daysBeforeMonth year (monthOf index) + 306 = marchOffset index := by
  have leapYear : ∀ index < 12, 10 ≤ index → daysBeforeMonth 4 (monthOf index) + 306 = marchOffset index := by decide
  have plainYear : ∀ index < 12, 10 ≤ index → daysBeforeMonth 1 (monthOf index) + 306 = marchOffset index := by decide
  cases leap : isLeap year with
  | true => rw [daysBeforeMonth_congr (show isLeap year = isLeap 4 from leap), leapYear index bounded early]
  | false => rw [daysBeforeMonth_congr (show isLeap year = isLeap 1 from leap), plainYear index bounded early]

theorem daysInMonth_monthOf (year : Nat) {index : Nat} (bounded : index < 11) :
    daysInMonth year (monthOf index) + marchOffset index = marchOffset (index + 1) := by
  have plainYear : ∀ index < 11, daysInMonth 1 (monthOf index) + marchOffset index = marchOffset (index + 1) ∧
      monthOf index ≠ 2 := by decide
  obtain ⟨length, other⟩ := plainYear index bounded
  rw [← length, daysInMonth, daysInMonth, if_neg other, if_neg other]

theorem civil_eq (days : Int) :
    let shifted := days + 719468
    let dayOfEra := (shifted % 146097).toNat
    let dayOfYear := dayOfEra - yearStart (yearOfEra dayOfEra)
    let index := monthIndex dayOfYear
    civil days = {
      year := yearOfEra dayOfEra + shifted / 146097 * 400 + if monthOf index ≤ 2 then 1 else 0
      month := monthOf index
      day := dayOfYear - marchOffset index + 1 } := rfl

theorem daysBeforeYear_era (era : Nat) {year : Nat} (small : year < 400) :
    daysBeforeYear (era * 400 + year + 1) = era * 146097 + yearStart year := by
  simp only [daysBeforeYear, yearStart, Nat.add_sub_cancel]
  omega

theorem isLeap_era (era year : Nat) : isLeap (era * 400 + year) = isLeap year := by
  rw [Bool.eq_iff_iff, isLeap_iff, isLeap_iff]
  omega

theorem calendarDate_eq {year month day : Nat} (yearPositive : 1 ≤ year) (monthPositive : 1 ≤ month) (months : month ≤ 12)
    (dayPositive : 1 ≤ day) (days : day ≤ daysInMonth year month) :
    calendarDate year month day = some (daysBeforeYear year + daysBeforeMonth year month + day) :=
  if_pos ⟨yearPositive, monthPositive, months, dayPositive, days⟩

/-- The day of a March year, counted the calendar's way. -/
theorem calendarDate_march (era : Nat) {year dayOfYear : Nat} (small : year < 400)
    (ended : yearStart year + dayOfYear ≤ yearLast year) (positive : era * 400 + year = 0 → 306 ≤ dayOfYear) :
    let index := monthIndex dayOfYear
    calendarDate (era * 400 + year + if monthOf index ≤ 2 then 1 else 0) (monthOf index) (dayOfYear - marchOffset index + 1) =
      some (era * 146097 + yearStart year + dayOfYear - 305) := by
  have atEnd : dayOfYear ≤ if isLeap (year + 1) then 365 else 364 := by
    rw [yearLast] at ended
    omega
  have bounded : dayOfYear < 366 := by
    split at atEnd <;> omega
  obtain ⟨last, first, next⟩ := month_spec bounded
  have counted := daysBeforeYear_era era small
  have months : ∀ index < 12, 1 ≤ monthOf index ∧ monthOf index ≤ 12 ∧ (monthOf index ≤ 2 ↔ 10 ≤ index) := by decide
  simp only
  generalize monthIndex dayOfYear = index at *
  obtain ⟨low, high, early⟩ := months index last
  by_cases new : 10 ≤ index
  · -- January and February belong to the next calendar year
    have offset := daysBeforeMonth_early (era * 400 + year + 1) new last
    rw [if_pos (early.mpr new), calendarDate_eq (by omega) low high (by omega), counted]
    · apply congrArg some
      omega
    · by_cases february : index < 11
      · have length := daysInMonth_monthOf (era * 400 + year + 1) february
        omega
      · obtain rfl : index = 11 := by omega
        have length : daysInMonth (era * 400 + year + 1) (monthOf 11) = if isLeap (year + 1) then 29 else 28 := by
          rw [daysInMonth, if_pos (by decide), Nat.add_assoc, isLeap_era]
        rw [length]
        have offset : marchOffset 11 = 337 := by decide
        split at atEnd <;> rename_i leap <;> simp only [leap, if_true, Bool.false_eq_true, if_false] <;> omega
  · have yearPositive : 1 ≤ era * 400 + year := by
      by_contra none
      have late := positive (by omega)
      have tenth : marchOffset (index + 1) ≤ 306 := by
        rw [marchOffset]
        omega
      omega
    have offset := daysBeforeMonth_late (era * 400 + year) (show index < 10 by omega)
    have length := daysInMonth_monthOf (era * 400 + year) (show index < 11 by omega)
    have before := daysBeforeYear_next yearPositive
    rw [if_neg (mt early.mp new), Nat.add_zero, calendarDate_eq yearPositive low high (by omega) (by omega), offset]
    apply congrArg some
    cases leap : isLeap (era * 400 + year) <;> simp only [leap] at before ⊢ <;> simp at before ⊢ <;> omega

theorem calendarDate_civil {days : Int} (lower : 0 < days + epochOrdinal) (upper : days + epochOrdinal ≤ maxOrdinal) :
    1 ≤ (civil days).year ∧ (civil days).year ≤ 9999 ∧
      calendarDate (civil days).year.toNat (civil days).month (civil days).day = some (days + epochOrdinal).toNat := by
  simp only [epochOrdinal, maxOrdinal] at lower upper ⊢
  obtain ⟨era, eraIs⟩ := Int.eq_ofNat_of_zero_le (show 0 ≤ (days + 719468) / 146097 by omega)
  obtain ⟨dayOfEra, dayIs⟩ := Int.eq_ofNat_of_zero_le (show 0 ≤ (days + 719468) % 146097 by omega)
  have shifted : days + 719468 = era * 146097 + dayOfEra := by omega
  have inside : dayOfEra < 146097 := by omega
  obtain ⟨small, started, ended⟩ := yearOfEra_spec inside
  have date := civil_eq days
  simp only [eraIs, dayIs, Int.toNat_natCast] at date
  rw [date]
  generalize yearOfEra dayOfEra = year at *
  obtain ⟨dayOfYear, rfl⟩ := Nat.exists_eq_add_of_le started
  rw [Nat.add_sub_cancel_left]
  have counted := calendarDate_march era small ended (by rw [yearStart] at *; omega)
  have bounded : dayOfYear < 366 := by
    rw [yearLast] at ended
    split at ended <;> omega
  obtain ⟨last, first, _⟩ := month_spec bounded
  simp only at counted
  generalize monthIndex dayOfYear = index at *
  have yearIs : (year : Int) + era * 400 + (if monthOf index ≤ 2 then 1 else 0) =
      ((era * 400 + year + if monthOf index ≤ 2 then 1 else 0 : Nat) : Int) := by
    split <;> omega
  have final : era * 400 + year + (if monthOf index ≤ 2 then 1 else 0) ≤ 9999 := by
    split
    next early =>
      have late : 10 ≤ index := by
        rw [monthOf] at early
        split at early <;> omega
      rw [marchOffset] at first
      rw [yearStart] at shifted
      omega
    next =>
      rw [yearStart] at shifted
      omega
  obtain ⟨calendarYear, named⟩ : ∃ calendarYear, calendarYear = era * 400 + year + if monthOf index ≤ 2 then 1 else 0 :=
    ⟨_, rfl⟩
  rw [← named] at counted yearIs final
  have positive : 1 ≤ calendarYear := by
    by_contra none
    rw [calendarDate, if_neg fun valid => none valid.1] at counted
    cases counted
  rw [yearIs, Int.toNat_natCast, counted]
  refine ⟨Int.ofNat_le.mpr positive, Int.ofNat_le.mpr final, ?_⟩
  apply congrArg some
  omega

/-! Reading the text. -/

private theorem digitChar_digit : ∀ digit < 10, digit.digitChar.isDigit = true ∧ digit.digitChar.toNat - '0'.toNat = digit := by
  decide

theorem length_padded (width n : Nat) : (padded width n).length = width := by
  induction width generalizing n with
  | zero => rfl
  | succ width ih => rw [padded, List.length_append, ih, List.length_singleton]

theorem isDigit_padded {width n : Nat} {c : Char} (member : c ∈ padded width n) : c.isDigit = true := by
  induction width generalizing n with
  | zero => cases member
  | succ width ih =>
    rcases List.mem_append.mp member with front | final
    · exact ih front
    · rw [List.mem_singleton.mp final]
      exact (digitChar_digit _ (Nat.mod_lt _ (by decide))).1

private theorem value_padded (width n : Nat) (before : Nat) :
    (padded width n).foldl (fun value c => value * 10 + (c.toNat - '0'.toNat)) before =
      before * 10 ^ width + n % 10 ^ width := by
  induction width generalizing n with
  | zero => simp [padded, Nat.mod_one]
  | succ width ih =>
    have digit := (digitChar_digit (n % 10) (Nat.mod_lt _ (by decide))).2
    rw [padded, List.foldl_append, ih, List.foldl_cons, List.foldl_nil, digit, Nat.pow_succ', Nat.mod_mul, Nat.add_mul,
      Nat.mul_assoc, Nat.mul_comm (10 ^ width) 10, Nat.add_assoc, Nat.add_comm (n / 10 % 10 ^ width * 10), Nat.mul_comm _ 10]

theorem readDigits_padded {width n : Nat} (fits : n < 10 ^ width) (rest : List Char) :
    readDigits width (padded width n ++ rest) = some (n, rest) := by
  have taken : (padded width n ++ rest).take width = padded width n := by
    rw [List.take_left' (length_padded ..)]
  have dropped : (padded width n ++ rest).drop width = rest := by
    rw [List.drop_left' (length_padded ..)]
  rw [readDigits, taken, dropped, if_pos ⟨length_padded .., List.all_eq_true.mpr fun _ => isDigit_padded⟩, value_padded,
    Nat.zero_mul, Nat.zero_add, Nat.mod_eq_of_lt fits]

theorem head?_padded (width n : Nat) (rest : List Char) :
    ∃ c, c.isDigit = true ∧ (padded (width + 1) n ++ rest).head? = some c := by
  cases written : padded (width + 1) n with
  | nil => cases (length_padded (width + 1) n).symm.trans (congrArg List.length written)
  | cons c later => exact ⟨c, isDigit_padded (written ▸ List.mem_cons_self), rfl⟩

private def dateText (year month day : Nat) : List Char := padded 4 year ++ '-' :: padded 2 month ++ '-' :: padded 2 day

private def clockText (hours minutes seconds fraction : Nat) : List Char :=
  padded 2 hours ++ ':' :: padded 2 minutes ++ ':' :: padded 2 seconds ++
    if fraction = 0 then [] else '.' :: padded 6 fraction

private theorem readDate_dateText {year month day : Nat} (years : year < 10000) (months : month < 100) (days : day < 100) :
    readDate (dateText year month day) = calendarDate year month day := by
  obtain ⟨c, digit, head⟩ := head?_padded 1 month ('-' :: padded 2 day)
  have other : c ≠ 'W' := by
    rintro rfl
    cases digit
  have final : readDigits 2 (padded 2 day) = some (day, []) := by
    rw [← List.append_nil (padded 2 day)]
    exact readDigits_padded (by omega) []
  have plain : (padded 2 month ++ '-' :: padded 2 day).head? ≠ some 'W' := by
    rw [head]
    simpa using other
  have middle : readDigits 2 (padded 2 month ++ '-' :: padded 2 day) = some (month, '-' :: padded 2 day) :=
    readDigits_padded months _
  rw [readDate, dateText, List.append_assoc, readDigits_padded years]
  simp only [readHyphen, List.cons_append, List.head?_cons, Option.bind_eq_bind, Option.bind_some, decide_true, if_true,
    Option.filter_some, Option.map_some, List.tail_cons, plain, if_false, middle, final]

private theorem readFraction_padded {fraction : Nat} (small : fraction < 1000000) :
    readFraction (padded 6 fraction) = some fraction := by
  have full : padded 6 fraction ≠ [] := List.ne_nil_of_length_pos (by rw [length_padded]; decide)
  rw [readFraction, if_pos ⟨full, List.all_eq_true.mpr fun _ => isDigit_padded⟩, readDigits_padded small]
  rfl

private theorem readClock_clockText {hours minutes seconds fraction : Nat} (hour : hours < 100) (minute : minutes < 100)
    (second : seconds < 100) (small : fraction < 1000000) :
    readClock (clockText hours minutes seconds fraction) = some ⟨hours, minutes, seconds, fraction⟩ := by
  have middle (rest : List Char) : readDigits 2 (padded 2 minutes ++ rest) = some (minutes, rest) :=
    readDigits_padded minute rest
  have last (rest : List Char) : readDigits 2 (padded 2 seconds ++ rest) = some (seconds, rest) :=
    readDigits_padded second rest
  rw [readClock, clockText, List.append_assoc, List.append_assoc, readDigits_padded hour]
  simp only [readColon, List.cons_append, List.head?_cons, Option.bind_eq_bind, Option.bind_some, decide_true, if_true,
    Option.filter_some, Option.map_some, List.tail_cons, if_false, middle, last, reduceCtorEq]
  by_cases whole : fraction = 0
  · simp only [whole, if_true]
    rfl
  · simp only [whole, if_false, readFraction_padded small]
    rfl

private theorem clockText_unsigned (hours minutes seconds fraction : Nat) :
    ∀ c ∈ clockText hours minutes seconds fraction, (!isOffsetStart c) = true := by
  have digits (c : Char) (digit : c.isDigit = true) : (!isOffsetStart c) = true := by
    have apart : c ≠ '+' ∧ c ≠ '-' ∧ c ≠ 'Z' := by
      refine ⟨?_, ?_, ?_⟩ <;>
      · rintro rfl
        cases digit
    simp [isOffsetStart, apart]
  intro c member
  simp only [clockText, List.mem_append, List.mem_cons] at member
  rcases member with ((hour | rfl | minute) | rfl | second) | fractional
  · exact digits c (isDigit_padded hour)
  · rfl
  · exact digits c (isDigit_padded minute)
  · rfl
  · exact digits c (isDigit_padded second)
  · split at fractional
    · cases fractional
    · rcases List.mem_cons.mp fractional with rfl | later
      · rfl
      · exact digits c (isDigit_padded later)

private theorem readTime_clockText {hours minutes seconds fraction : Nat} (hour : hours < 24) (minute : minutes < 60)
    (second : seconds < 60) (small : fraction < 1000000) :
    readTime (clockText hours minutes seconds fraction ++ ['+', '0', '0', ':', '0', '0']) =
      some ((⟨hours, minutes, seconds, fraction⟩ : Clock).total, some 0) := by
  have unsigned := clockText_unsigned hours minutes seconds fraction
  have text : (clockText hours minutes seconds fraction ++ ['+', '0', '0', ':', '0', '0']).takeWhile (!isOffsetStart ·) =
      clockText hours minutes seconds fraction := by
    rw [List.takeWhile_append_of_pos unsigned]
    simp [isOffsetStart]
  have sign : (clockText hours minutes seconds fraction ++ ['+', '0', '0', ':', '0', '0']).dropWhile (!isOffsetStart ·) =
      ['+', '0', '0', ':', '0', '0'] := by
    rw [List.dropWhile_append_of_pos unsigned]
    simp [isOffsetStart]
  have offset : readOffset ['+', '0', '0', ':', '0', '0'] = some (some 0) := by decide
  rw [readTime, text, sign, readClock_clockText (by omega) (by omega) (by omega) small, offset]
  simp [hour, minute, second]

private theorem length_dateText (year month day : Nat) : (dateText year month day).length = 10 := by
  simp [dateText, length_padded]

private theorem dateLength_dateText (year month day : Nat) (time : List Char) :
    dateLength (dateText year month day ++ 'T' :: time) = some 10 := by
  have long : (dateText year month day ++ 'T' :: time).length ≠ 7 := by
    rw [List.length_append, length_dateText]
    omega
  obtain ⟨c, digit, head⟩ := head?_padded 1 month ('-' :: padded 2 day ++ 'T' :: time)
  have hyphen : (dateText year month day ++ 'T' :: time)[4]? = some '-' := by
    rw [dateText, List.append_assoc, List.append_assoc, List.getElem?_append_right (by rw [length_padded]), length_padded]
    rfl
  have fifth : (dateText year month day ++ 'T' :: time)[5]? ≠ some 'W' := by
    have same : (dateText year month day ++ 'T' :: time)[5]? = some c := by
      rw [dateText, List.append_assoc, List.append_assoc, List.getElem?_append_right (by rw [length_padded]; omega),
        length_padded, ← head, List.head?_eq_getElem?]
      rfl
    rw [same]
    rintro same
    rw [Option.some.inj same] at digit
    cases digit
  rw [dateLength, if_neg long, if_pos hyphen, if_neg fifth]

theorem calendarDate_bounds {year month day found : Nat} (valid : calendarDate year month day = some found) :
    month < 100 ∧ day < 100 := by
  rw [calendarDate] at valid
  split at valid
  next bounds =>
    obtain ⟨_, _, months, _, days⟩ := bounds
    rw [daysInMonth] at days
    split at days
    · split at days <;> omega
    · split at days <;> omega
  next => cases valid

/-- What a datetime can be: the years 1 to 9999. -/
def Representable (instant : Int) : Prop := -62135596800000000 ≤ instant ∧ instant < 253402300800000000

instance (instant : Int) : Decidable (Representable instant) := instDecidableAnd

/-- A timestamp that was written is read as the instant it was written for. -/
theorem fromisoformat_isoformat {instant : Int} (representable : Representable instant) :
    fromisoformat (isoformat instant) = some ⟨instant, some 0⟩ := by
  obtain ⟨low, high⟩ := representable
  have lower : 0 < instant / 86400000000 + epochOrdinal := by
    rw [epochOrdinal]
    omega
  have upper : instant / 86400000000 + epochOrdinal ≤ maxOrdinal := by
    rw [epochOrdinal, maxOrdinal]
    omega
  obtain ⟨first, last, date⟩ := calendarDate_civil lower upper
  have text : (isoformat instant).toList =
      dateText (civil (instant / 86400000000)).year.toNat (civil (instant / 86400000000)).month
          (civil (instant / 86400000000)).day ++
        'T' :: (clockText ((instant % 86400000000).toNat / 3600000000) ((instant % 86400000000).toNat / 60000000 % 60)
            ((instant % 86400000000).toNat / 1000000 % 60) ((instant % 86400000000).toNat % 1000000) ++
          ['+', '0', '0', ':', '0', '0']) := by
    rw [isoformat, String.toList_ofList, dateText, clockText]
    simp only [List.append_assoc, List.cons_append]
  generalize civil (instant / 86400000000) = day at *
  obtain ⟨months, days⟩ := calendarDate_bounds date
  have clock : (⟨(instant % 86400000000).toNat / 3600000000, (instant % 86400000000).toNat / 60000000 % 60,
      (instant % 86400000000).toNat / 1000000 % 60, (instant % 86400000000).toNat % 1000000⟩ : Clock).total =
        instant % 86400000000 := by
    simp only [Clock.total]
    omega
  have time := readTime_clockText (show (instant % 86400000000).toNat / 3600000000 < 24 by omega)
    (Nat.mod_lt ((instant % 86400000000).toNat / 60000000) (by decide))
    (Nat.mod_lt ((instant % 86400000000).toNat / 1000000) (by decide))
    (Nat.mod_lt (instant % 86400000000).toNat (by decide))
  rw [clock] at time
  simp only [fromisoformat, text]
  rw [if_neg (by rw [List.length_append, length_dateText]; omega), dateLength_dateText]
  simp only [Option.bind_eq_bind, Option.bind_some, List.take_left' (length_dateText ..),
    List.drop_left' (length_dateText ..), readDate_dateText (show day.year.toNat < 10000 by omega) months days, date, time]
  have wall : (((instant / 86400000000 + epochOrdinal).toNat : Int) - epochOrdinal) * 86400000000 +
      instant % 86400000000 = instant := by
    omega
  rw [wall]
  rfl

end IsoTime
