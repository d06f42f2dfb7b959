import ArgosCore.Foundations.JsonRoundTrip

/-! Torn text. What the reader has taken from a text does not depend on what
follows it, so no proper beginning of a written object decodes. -/

namespace Json

theorem readUnit_extend {chars rest : List Char} {unit : Nat} (read : readUnit chars = some (unit, rest))
    (tail : List Char) : readUnit (chars ++ tail) = some (unit, rest ++ tail) := by
  unfold readUnit at read
  split at read
  next a b c d others =>
    simp only [Option.bind_eq_bind, Option.bind_eq_some_iff, Option.pure_def, Option.some.injEq, Prod.mk.injEq] at read
    obtain ⟨first, readFirst, second, readSecond, third, readThird, fourth, readFourth, rfl, rfl⟩ := read
    simp [readUnit, readFirst, readSecond, readThird, readFourth]
  next => cases read

theorem readEscape_extend {chars rest : List Char} {c : Char} (read : readEscape chars = some (c, rest))
    (tail : List Char) : readEscape (chars ++ tail) = some (c, rest ++ tail) := by
  unfold readEscape at read ⊢
  simp only [Option.bind_eq_bind, Option.bind_eq_some_iff, Prod.exists] at read
  obtain ⟨unit, others, first, read⟩ := read
  rw [readUnit_extend first]
  simp only [Option.bind_eq_bind, Option.bind_some]
  split at read
  next high =>
    rw [if_pos high]
    split at read
    next following =>
      obtain ⟨⟨low, remaining⟩, second, read⟩ := Option.bind_eq_some_iff.mp read
      simp only [List.cons_append, readUnit_extend second, Option.bind_some]
      split at read
      next trailing =>
        simp only [Option.pure_def, Option.some.injEq, Prod.mk.injEq] at read
        obtain ⟨rfl, rfl⟩ := read
        simp [trailing]
      next => cases read
    next => cases read
  next other =>
    rw [if_neg other]
    split at read
    next => cases read
    next single =>
      simp only [Option.pure_def, Option.some.injEq, Prod.mk.injEq] at read
      obtain ⟨rfl, rfl⟩ := read
      simp [single]

theorem readChar_extend {chars rest : List Char} {c : Char} (read : readChar chars = some (c, rest))
    (tail : List Char) : readChar (chars ++ tail) = some (c, rest ++ tail) := by
  cases chars with
  | nil => cases read
  | cons d chars =>
    simp only [readChar, List.cons_append] at read ⊢
    split at read
    next backslash =>
      rw [if_pos backslash]
      cases chars with
      | nil => cases read
      | cons e chars =>
        simp only [List.cons_append] at read ⊢
        split at read
        next unit => rw [if_pos unit]; exact readEscape_extend read tail
        next simple =>
          obtain ⟨meaning, found, same⟩ := Option.map_eq_some_iff.mp read
          cases same
          simp [simple, found]
    next plain =>
      rw [if_neg plain]
      split at read
      next => cases read
      next printable =>
        cases read
        simp [printable]

theorem readString_extend {fuel : Nat} {chars text rest : List Char} (read : readString fuel chars = some (text, rest))
    (more : Nat) (tail : List Char) : readString (fuel + more) (chars ++ tail) = some (text, rest ++ tail) := by
  induction fuel generalizing chars text rest with
  | zero => cases read
  | succ fuel ih =>
    rw [Nat.succ_add]
    cases chars with
    | nil => simp [readString, readChar] at read
    | cons c chars =>
      by_cases quote : c = '"'
      · subst quote
        simp only [readString, Option.some.injEq, Prod.mk.injEq] at read
        obtain ⟨rfl, rfl⟩ := read
        simp [readString]
      · simp only [readString, List.cons_append] at read ⊢
        split at read
        next same => exact absurd (List.cons.inj same).1 quote
        next =>
          simp only [Option.bind_eq_bind, Option.bind_eq_some_iff, Prod.exists] at read
          obtain ⟨d, others, one, letters, remaining, following, same⟩ := read
          cases same
          have first := readChar_extend one tail
          rw [List.cons_append] at first
          simp [quote, first, ih following]

theorem skipSpace_extend {chars rest : List Char} {c : Char} (skipped : skipSpace chars = c :: rest)
    (tail : List Char) : skipSpace (chars ++ tail) = c :: (rest ++ tail) := by
  rw [skipSpace] at skipped ⊢
  rw [List.dropWhile_append, skipped]
  rfl

theorem readNat_extend {chars rest : List Char} {n : Nat} (read : readNat chars = some (n, rest))
    (more : rest ≠ []) (tail : List Char) : readNat (chars ++ tail) = some (n, rest ++ tail) := by
  obtain ⟨shape, delimited, number, following⟩ := readNat_eq_some.mp read
  obtain ⟨c, others, rfl⟩ := List.exists_cons_of_ne_nil more
  have partly : (chars.takeWhile Char.isDigit).length ≠ chars.length := by
    intro whole
    have parts := congrArg List.length (List.takeWhile_append_dropWhile (p := Char.isDigit) (l := chars))
    rw [← following, List.length_append, List.length_cons] at parts
    omega
  have taken : (chars ++ tail).takeWhile Char.isDigit = chars.takeWhile Char.isDigit := by
    rw [List.takeWhile_append, if_neg partly]
  have dropped : (chars ++ tail).dropWhile Char.isDigit = c :: others ++ tail := by
    rw [List.dropWhile_append, ← following]
    rfl
  rw [readNat_eq_some, taken, dropped]
  refine ⟨shape, ?_, number, rfl⟩
  intro d remaining same
  exact delimited d others (by rw [(List.cons.inj same).1])

theorem readInt_extend {chars rest : List Char} {n : Int} (read : readInt chars = some (n, rest))
    (more : rest ≠ []) (tail : List Char) : readInt (chars ++ tail) = some (n, rest ++ tail) := by
  unfold readInt at read
  split at read
  next digits =>
    obtain ⟨⟨count, others⟩, found, same⟩ := Option.map_eq_some_iff.mp read
    cases same
    simp [readInt, readNat_extend found more tail]
  next positive =>
    obtain ⟨⟨count, others⟩, found, same⟩ := Option.map_eq_some_iff.mp read
    cases same
    unfold readInt
    split
    next digits minus =>
      obtain ⟨shape, _⟩ := readNat_eq_some.mp found
      cases chars with
      | nil => exact absurd rfl shape.1
      | cons c chars => exact absurd (by rw [(List.cons.inj minus).1]) (positive chars)
    next => rw [readNat_extend found more tail]; rfl

private theorem readInt_head {chars rest : List Char} {n : Int} (read : readInt chars = some (n, rest)) :
    ∃ c others, chars = c :: others ∧ (c.isDigit = true ∨ c = '-') := by
  unfold readInt at read
  split at read
  next digits => exact ⟨_, _, rfl, .inr rfl⟩
  next =>
    obtain ⟨⟨count, others⟩, found, _⟩ := Option.map_eq_some_iff.mp read
    have nonempty := (readNat_eq_some.mp found).1.1
    cases chars with
    | nil => exact absurd rfl nonempty
    | cons c chars =>
      refine ⟨c, chars, rfl, .inl ?_⟩
      by_contra other
      simp [other] at nonempty

private theorem readValue_ne_nil {fuel : Nat} {chars rest : List Char} {value : Json}
    (read : readValue fuel chars = some (value, rest)) : chars ≠ [] := by
  rintro rfl
  cases fuel with
  | zero => cases read
  | succ fuel => simp [readValue, readInt, readNat] at read

private theorem readItems_ne_nil {fuel : Nat} {chars rest : List Char} {items : List Json}
    (read : readItems fuel chars = some (items, rest)) : chars ≠ [] := by
  cases fuel with
  | zero => cases read
  | succ fuel =>
    obtain ⟨⟨item, others⟩, first, _⟩ := Option.bind_eq_some_iff.mp read
    exact readValue_ne_nil first

private theorem readMembers_ne_nil {fuel : Nat} {chars rest : List Char} {members : Object}
    (read : readMembers fuel chars = some (members, rest)) : chars ≠ [] := by
  rintro rfl
  cases fuel <;> cases read

private theorem skipSpace_append {chars : List Char} (more : skipSpace chars ≠ []) (tail : List Char) :
    skipSpace (chars ++ tail) = skipSpace chars ++ tail := by
  cases skipped : skipSpace chars with
  | nil => exact absurd skipped more
  | cons c rest => exact skipSpace_extend skipped tail

private theorem skipSpace_first {chars tail rest : List Char} {c : Char} (more : skipSpace chars ≠ [])
    (same : skipSpace (chars ++ tail) = c :: rest) : ∃ first, skipSpace chars = c :: first := by
  rw [skipSpace_append more] at same
  obtain ⟨d, first, skipped⟩ := List.exists_cons_of_ne_nil more
  rw [skipped, List.cons_append] at same
  exact ⟨first, (List.cons.inj same).1 ▸ skipped⟩

mutual
/-- The reader takes the same value from a longer text, with more fuel. Only a
number needs to be followed by something, lest it grow. -/
theorem readValue_extend : (fuel : Nat) → {chars rest : List Char} → {value : Json} →
    readValue fuel chars = some (value, rest) → (rest ≠ [] ∨ ∀ n, value ≠ .int n) → (more : Nat) →
    (tail : List Char) → readValue (fuel + more) (chars ++ tail) = some (value, rest ++ tail)
  | 0, _, _, _, read, _, _, _ => by cases read
  | fuel + 1, chars, rest, value, read, ended, more, tail => by
    rw [Nat.succ_add]
    unfold readValue at read
    split at read
    next others =>
      obtain ⟨⟨text, following⟩, found, same⟩ := Option.map_eq_some_iff.mp read
      cases same
      simp [readValue, readString_extend found more tail]
    next others =>
      simp only [List.cons_append, readValue]
      split at read
      next closed =>
        cases read
        simp [skipSpace_extend closed]
      next open_ =>
        obtain ⟨⟨members, following⟩, found, same⟩ := Option.map_eq_some_iff.mp read
        cases same
        have longer := readMembers_extend fuel found more tail
        rw [← skipSpace_append (readMembers_ne_nil found)] at longer
        split
        next same =>
          obtain ⟨first, closed⟩ := skipSpace_first (readMembers_ne_nil found) same
          exact absurd closed (open_ first)
        next => rw [longer]; rfl
    next others =>
      simp only [List.cons_append, readValue]
      split at read
      next closed =>
        cases read
        simp [skipSpace_extend closed]
      next open_ =>
        obtain ⟨⟨items, following⟩, found, same⟩ := Option.map_eq_some_iff.mp read
        cases same
        have longer := readItems_extend fuel found more tail
        rw [← skipSpace_append (readItems_ne_nil found)] at longer
        split
        next same =>
          obtain ⟨first, closed⟩ := skipSpace_first (readItems_ne_nil found) same
          exact absurd closed (open_ first)
        next => rw [longer]; rfl
    next => cases read; simp [readValue]
    next => cases read; simp [readValue]
    next => cases read; simp [readValue]
    next =>
      obtain ⟨⟨n, following⟩, found, same⟩ := Option.map_eq_some_iff.mp read
      cases same
      have longer := readInt_extend found (ended.resolve_right fun never => never n rfl) tail
      obtain ⟨c, others, rfl, first⟩ := readInt_head found
      rw [List.cons_append] at longer ⊢
      rw [readValue_number first, longer]
      rfl

theorem readItems_extend : (fuel : Nat) → {chars rest : List Char} → {items : List Json} →
    readItems fuel chars = some (items, rest) → (more : Nat) → (tail : List Char) →
    readItems (fuel + more) (chars ++ tail) = some (items, rest ++ tail)
  | 0, _, _, _, read, _, _ => by cases read
  | fuel + 1, chars, rest, items, read, more, tail => by
    rw [Nat.succ_add]
    simp only [readItems, Option.bind_eq_bind, Option.bind_eq_some_iff, Prod.exists] at read ⊢
    obtain ⟨item, others, first, read⟩ := read
    have nonempty : others ≠ [] := by
      rintro rfl
      cases read
    refine ⟨item, others ++ tail, readValue_extend fuel first (.inl nonempty) more tail, ?_⟩
    split at read
    next closed =>
      cases read
      simp [skipSpace_extend closed]
    next separated =>
      obtain ⟨⟨following, remaining⟩, found, same⟩ := Option.bind_eq_some_iff.mp read
      cases same
      have longer := readItems_extend fuel found more tail
      rw [← skipSpace_append (readItems_ne_nil found)] at longer
      simp [skipSpace_extend separated, longer]
    next => cases read

theorem readMembers_extend : (fuel : Nat) → {chars rest : List Char} → {members : Object} →
    readMembers fuel chars = some (members, rest) → (more : Nat) → (tail : List Char) →
    readMembers (fuel + more) (chars ++ tail) = some (members, rest ++ tail)
  | 0, _, _, _, read, _, _ => by cases read
  | fuel + 1, chars, rest, members, read, more, tail => by
    rw [Nat.succ_add]
    simp only [readMembers] at read
    split at read
    next others =>
      simp only [readMembers, List.cons_append, Option.bind_eq_bind, Option.bind_eq_some_iff, Prod.exists] at read ⊢
      obtain ⟨key, named, label, read⟩ := read
      refine ⟨key, named ++ tail, readString_extend label more tail, ?_⟩
      split at read
      next colon =>
        obtain ⟨⟨value, following⟩, found, read⟩ := Option.bind_eq_some_iff.mp read
        have nonempty : following ≠ [] := by
          rintro rfl
          cases read
        have longer := readValue_extend fuel found (.inl nonempty) more tail
        rw [← skipSpace_append (readValue_ne_nil found)] at longer
        simp only [skipSpace_extend colon, longer, Option.bind_some]
        split at read
        next closed =>
          cases read
          simp [skipSpace_extend closed]
        next separated =>
          obtain ⟨⟨next, ending⟩, others, same⟩ := Option.bind_eq_some_iff.mp read
          cases same
          have rest := readMembers_extend fuel others more tail
          rw [← skipSpace_append (readMembers_ne_nil others)] at rest
          simp [skipSpace_extend separated, rest]
        next => cases read
      next => cases read
    next => cases read
end

private theorem readValue_brace {fuel : Nat} {others rest : List Char} {value : Json}
    (read : readValue fuel ('{' :: others) = some (value, rest)) (n : Int) : value ≠ .int n := by
  rintro rfl
  cases fuel with
  | zero => cases read
  | succ fuel =>
    simp only [readValue] at read
    split at read
    next => cases read
    next =>
      obtain ⟨_, _, impossible⟩ := Option.map_eq_some_iff.mp read
      cases impossible

/-- A proper beginning of a written object does not decode. -/
theorem loads_torn (ensureAscii : Bool) {members : Object} (distinct : (obj members).Distinct)
    {before after : List Char} (torn : dumpValue ensureAscii (.obj members) = before ++ after) (more : after ≠ []) :
    loads before = none := by
  have whole := readValue_dumpValue ensureAscii (.obj members) [] _ distinct delimited_nil (Nat.le_refl _)
  rw [List.append_nil, torn, List.length_append] at whole
  have opened : ∃ others, before ++ after = '{' :: others := by
    rw [← torn]
    exact dumpValue_obj ensureAscii members
  cases before with
  | nil => simp [loads, skipSpace, readValue, readInt, readNat]
  | cons c before =>
    obtain ⟨others, same⟩ := opened
    obtain rfl : c = '{' := (List.cons.inj same).1
    simp only [loads, skipSpace_cons (c := '{') (by decide)]
    split
    next value rest read =>
      -- What was read up to the tear is also what the whole text begins with.
      have longer := readValue_extend _ read (.inr (readValue_brace read)) after.length after
      rw [Nat.succ_add, whole] at longer
      have ending := congrArg Prod.snd (Option.some.inj longer)
      exact absurd (List.append_eq_nil_iff.mp ending.symm).2 more
    next => rfl

end Json
