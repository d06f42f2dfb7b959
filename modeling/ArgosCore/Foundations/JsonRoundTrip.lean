import ArgosCore.Foundations.JsonText

/-! Reading back what was written. Both escaping modes are read to the same
value, so canonical text determines a document up to the order of its keys. -/

namespace Json

def Delimited (rest : List Char) : Prop :=
  ∀ c tail, rest = c :: tail → c = ',' ∨ c = ']' ∨ c = '}'

theorem delimited_nil : Delimited [] := by simp [Delimited]

theorem delimited_cons {c : Char} {tail : List Char} (delimiter : c = ',' ∨ c = ']' ∨ c = '}') :
    Delimited (c :: tail) := by
  intro d rest same
  cases same
  exact delimiter

private theorem toDigits_head {n : Nat} (positive : 0 < n) : ∃ c tail, Nat.toDigits 10 n = c :: tail ∧ c ≠ '0' := by
  induction n using Nat.strongRecOn with
  | ind n ih =>
    rw [Nat.toDigits_eq_if (by omega)]
    split
    next small =>
      have nonzero : ∀ d < 10, 0 < d → d.digitChar ≠ '0' := by decide
      exact ⟨n.digitChar, [], rfl, nonzero n small positive⟩
    next large =>
      obtain ⟨c, tail, same, nonzero⟩ := ih (n / 10) (by omega) (by omega)
      exact ⟨c, tail ++ [(n % 10).digitChar], by simp [same], nonzero⟩

theorem readNat_eq_some {chars rest : List Char} {n : Nat} :
    readNat chars = some (n, rest) ↔
      (chars.takeWhile Char.isDigit ≠ [] ∧ ∀ c others, chars.takeWhile Char.isDigit ≠ '0' :: c :: others) ∧
      (∀ c others, rest = c :: others → c ≠ '.' ∧ c ≠ 'e' ∧ c ≠ 'E') ∧
      n = Nat.ofDigitChars 10 (chars.takeWhile Char.isDigit) 0 ∧ rest = chars.dropWhile Char.isDigit := by
  rw [readNat]
  generalize chars.takeWhile Char.isDigit = digits
  generalize chars.dropWhile Char.isDigit = others
  split
  next => simp
  next => simp
  next =>
    constructor
    · intro impossible
      cases impossible
    · rintro ⟨_, delimited, _, rfl⟩
      exact absurd rfl (delimited _ _ rfl).1
  next =>
    constructor
    · intro impossible
      cases impossible
    · rintro ⟨_, delimited, _, rfl⟩
      exact absurd rfl (delimited _ _ rfl).2.1
  next =>
    constructor
    · intro impossible
      cases impossible
    · rintro ⟨_, delimited, _, rfl⟩
      exact absurd rfl (delimited _ _ rfl).2.2
  next empty leading point lower upper =>
    simp only [Option.some.injEq, Prod.mk.injEq]
    constructor
    · rintro ⟨rfl, rfl⟩
      refine ⟨⟨empty, leading⟩, ?_, rfl, rfl⟩
      rintro c remaining rfl
      exact ⟨fun same => point remaining (same ▸ rfl), fun same => lower remaining (same ▸ rfl),
        fun same => upper remaining (same ▸ rfl)⟩
    · rintro ⟨_, _, rfl, rfl⟩
      exact ⟨rfl, rfl⟩

theorem readNat_toDigits (n : Nat) {rest : List Char} (delimited : Delimited rest) :
    readNat (Nat.toDigits 10 n ++ rest) = some (n, rest) := by
  have digits : ∀ c ∈ Nat.toDigits 10 n, c.isDigit = true :=
    fun c member => Nat.isDigit_of_mem_toDigits (by omega) (by omega) member
  have stop : rest.takeWhile Char.isDigit = [] ∧ rest.dropWhile Char.isDigit = rest := by
    cases rest with
    | nil => simp
    | cons c tail => rcases delimited c tail rfl with rfl | rfl | rfl <;> simp [Char.isDigit]
  have taken : (Nat.toDigits 10 n ++ rest).takeWhile Char.isDigit = Nat.toDigits 10 n := by
    rw [List.takeWhile_append_of_pos digits, stop.1, List.append_nil]
  have dropped : (Nat.toDigits 10 n ++ rest).dropWhile Char.isDigit = rest := by
    rw [List.dropWhile_append_of_pos digits, stop.2]
  have shape : Nat.toDigits 10 n ≠ [] ∧ ∀ c tail, Nat.toDigits 10 n ≠ '0' :: c :: tail := by
    refine ⟨Nat.toDigits_ne_nil, ?_⟩
    intro c tail same
    by_cases zero : n = 0
    · subst zero; simp at same
    · obtain ⟨d, others, first, nonzero⟩ := toDigits_head (Nat.pos_of_ne_zero zero)
      rw [first] at same
      exact nonzero (List.cons.inj same).1
  rw [readNat_eq_some, taken, dropped]
  refine ⟨shape, ?_, Nat.ofDigitChars_ten_toDigits.symm, rfl⟩
  intro c tail same
  rcases delimited c tail same with rfl | rfl | rfl <;> decide

private theorem toDigits_not_minus (n : Nat) (rest : List Char) :
    ∃ c tail, Nat.toDigits 10 n ++ rest = c :: tail ∧ c.isDigit = true := by
  obtain ⟨c, tail, same⟩ := List.exists_cons_of_ne_nil (Nat.toDigits_ne_nil (n := n) (b := 10))
  refine ⟨c, tail ++ rest, by simp [same], ?_⟩
  exact Nat.isDigit_of_mem_toDigits (b := 10) (n := n) (by omega) (by omega) (by simp [same])

theorem readInt_dumpInt (value : Int) {rest : List Char} (delimited : Delimited rest) :
    readInt (dumpInt value ++ rest) = some (value, rest) := by
  cases value with
  | ofNat n =>
    obtain ⟨c, tail, same, digit⟩ := toDigits_not_minus n rest
    have read := readNat_toDigits n delimited
    simp only [dumpInt, readInt]
    split
    next minus =>
      rw [same] at minus
      cases minus
      cases digit
    next => simp [read]
  | negSucc n =>
    simp only [dumpInt, readInt, List.cons_append, readNat_toDigits (n + 1) delimited, Option.map_some]
    rfl

theorem toList_toString (value : Int) : (toString value).toList = dumpInt value := by
  cases value with
  | ofNat n =>
    change (Nat.repr n).toList = Nat.toDigits 10 n
    simp [Nat.repr]
  | negSucc n =>
    change ("-" ++ Nat.repr (n + 1)).toList = '-' :: Nat.toDigits 10 (n + 1)
    simp [Nat.repr]

theorem toString_injective : Function.Injective (toString : Int → String) := by
  intro left right same
  have read := readInt_dumpInt left delimited_nil
  rw [← toList_toString, same, toList_toString, readInt_dumpInt right delimited_nil] at read
  simpa using read.symm

theorem hexValue_hexDigit (n : Nat) : hexValue (hexDigit n) = some (n % 16) := by
  have digits : ∀ d < 16, hexValue d.digitChar = some d := by decide
  exact digits (n % 16) (Nat.mod_lt _ (by omega))

theorem readUnit_escapeUnit (unit : Nat) (bound : unit < 0x10000) (rest : List Char) :
    readUnit ((escapeUnit unit).drop 2 ++ rest) = some (unit, rest) := by
  simp only [escapeUnit, List.drop_succ_cons, List.drop_zero, List.cons_append, List.nil_append, readUnit,
    hexValue_hexDigit, Option.bind_eq_bind, Option.bind_some, Option.pure_def]
  congr 2
  omega

private theorem escapeUnit_append (unit : Nat) (rest : List Char) :
    escapeUnit unit ++ rest = '\\' :: 'u' :: ((escapeUnit unit).drop 2 ++ rest) := rfl

private theorem char_bound (c : Char) : c.toNat < 0xd800 ∨ 0xdfff < c.toNat ∧ c.toNat < 0x110000 := by
  have valid := c.valid
  simp only [UInt32.isValidChar, Nat.isValidChar] at valid
  exact valid

private theorem readEscape_unit (unit : Nat) (basic : unit < 0xd800 ∨ 0xdfff < unit ∧ unit < 0x10000)
    (rest : List Char) : readEscape ((escapeUnit unit).drop 2 ++ rest) = some (Char.ofNat unit, rest) := by
  have high : ¬ (0xd800 ≤ unit ∧ unit ≤ 0xdbff) := by omega
  have low : ¬ (0xdc00 ≤ unit ∧ unit ≤ 0xdfff) := by omega
  simp only [readEscape, readUnit_escapeUnit unit (by omega), Option.bind_eq_bind, Option.bind_some,
    if_neg high, if_neg low, Option.pure_def]

private theorem readEscape_pair {n : Nat} (bound : n < 0x100000) (rest : List Char) :
    readEscape ((escapeUnit (0xd800 + n / 0x400)).drop 2 ++ (escapeUnit (0xdc00 + n % 0x400) ++ rest)) =
      some (Char.ofNat (0x10000 + n), rest) := by
  have high : 0xd800 ≤ 0xd800 + n / 0x400 ∧ 0xd800 + n / 0x400 ≤ 0xdbff := by omega
  have low : 0xdc00 ≤ 0xdc00 + n % 0x400 ∧ 0xdc00 + n % 0x400 ≤ 0xdfff := by omega
  have whole : 0x10000 + (0xd800 + n / 0x400 - 0xd800) * 0x400 + (0xdc00 + n % 0x400 - 0xdc00) = 0x10000 + n := by
    omega
  rw [escapeUnit_append (0xdc00 + n % 0x400)]
  simp only [readEscape, readUnit_escapeUnit (0xd800 + n / 0x400) (by omega),
    readUnit_escapeUnit (0xdc00 + n % 0x400) (by omega), Option.bind_eq_bind, Option.bind_some,
    if_pos high, if_pos low, whole, Option.pure_def]

theorem escapeChar_cases {motive : List Char → Prop} {ensureAscii : Bool} {c : Char}
    (quote : c = '"' → motive ['\\', '"']) (backslash : c = '\\' → motive ['\\', '\\'])
    (newline : c = '\n' → motive ['\\', 'n']) (carriage : c = '\r' → motive ['\\', 'r'])
    (tab : c = '\t' → motive ['\\', 't']) (backspace : c.toNat = 8 → motive ['\\', 'b'])
    (formFeed : c.toNat = 12 → motive ['\\', 'f']) (unit : c.toNat < 0x10000 → motive (escapeUnit c.toNat))
    (pair : 0x10000 ≤ c.toNat → motive
      (escapeUnit (0xd800 + (c.toNat - 0x10000) / 0x400) ++ escapeUnit (0xdc00 + (c.toNat - 0x10000) % 0x400)))
    (plain : c ≠ '"' → c ≠ '\\' → ¬ c.toNat < 32 → motive [c]) : motive (escapeChar ensureAscii c) := by
  rw [escapeChar]
  refine iteInduction quote fun notQuote => ?_
  refine iteInduction backslash fun notBackslash => ?_
  refine iteInduction newline fun _ => ?_
  refine iteInduction carriage fun _ => ?_
  refine iteInduction tab fun _ => ?_
  refine iteInduction backspace fun _ => ?_
  refine iteInduction formFeed fun _ => ?_
  refine iteInduction (fun control => unit (by omega)) fun printable => ?_
  refine iteInduction (fun _ => ?_) fun _ => plain notQuote notBackslash printable
  exact iteInduction unit fun wide => pair (by omega)

theorem readChar_escapeChar (ensureAscii : Bool) (c : Char) (rest : List Char) :
    readChar (escapeChar ensureAscii c ++ rest) = some (c, rest) := by
  have bound := char_bound c
  have same (n : Nat) (equal : c.toNat = n) : Char.ofNat n = c := by rw [← equal, Char.ofNat_toNat]
  apply escapeChar_cases (motive := fun escaped => readChar (escaped ++ rest) = some (c, rest))
  case quote => rintro rfl; rfl
  case backslash => rintro rfl; rfl
  case newline => rintro rfl; rfl
  case carriage => rintro rfl; rfl
  case tab => rintro rfl; rfl
  case backspace =>
    intro backspace
    simp only [readChar, simpleEscape, List.cons_append, List.nil_append, ← same 8 backspace]
    rfl
  case formFeed =>
    intro formFeed
    simp only [readChar, simpleEscape, List.cons_append, List.nil_append, ← same 12 formFeed]
    rfl
  case unit =>
    intro basic
    rw [escapeUnit_append]
    simp only [readChar, ↓reduceIte, readEscape_unit c.toNat (by omega), Char.ofNat_toNat]
  case pair =>
    intro wide
    rw [List.append_assoc, escapeUnit_append]
    simp only [readChar, ↓reduceIte, readEscape_pair (n := c.toNat - 0x10000) (by omega)]
    rw [same (0x10000 + (c.toNat - 0x10000)) (by omega)]
  case plain =>
    intro _ backslash printable
    simp [readChar, backslash, printable]

private theorem escapeChar_shape (ensureAscii : Bool) (c : Char) :
    ∃ first others, escapeChar ensureAscii c = first :: others ∧ first ≠ '"' := by
  apply escapeChar_cases (motive := fun escaped => ∃ first others, escaped = first :: others ∧ first ≠ '"')
  case plain => exact fun notQuote _ _ => ⟨c, [], rfl, notQuote⟩
  all_goals exact fun _ => ⟨'\\', _, rfl, by decide⟩

theorem readString_escaped (ensureAscii : Bool) (text rest : List Char) {fuel : Nat} (enough : text.length < fuel) :
    readString fuel (text.flatMap (escapeChar ensureAscii) ++ '"' :: rest) = some (text, rest) := by
  induction text generalizing fuel with
  | nil =>
    obtain ⟨fuel, rfl⟩ := Nat.exists_eq_succ_of_ne_zero (by omega : fuel ≠ 0)
    rfl
  | cons c text ih =>
    obtain ⟨fuel, rfl⟩ := Nat.exists_eq_succ_of_ne_zero (by omega : fuel ≠ 0)
    have read := @ih fuel (by simp only [List.length_cons] at enough; omega)
    obtain ⟨first, others, shape, notQuote⟩ := escapeChar_shape ensureAscii c
    have one := readChar_escapeChar ensureAscii c (text.flatMap (escapeChar ensureAscii) ++ '"' :: rest)
    rw [List.flatMap_cons, List.append_assoc]
    rw [shape] at one ⊢
    simp only [List.cons_append] at one ⊢
    unfold readString
    split
    next same => exact absurd (List.cons.inj same).1 notQuote
    next => simp [one, read]

private theorem length_le_escaped (ensureAscii : Bool) (text : List Char) :
    text.length ≤ (text.flatMap (escapeChar ensureAscii)).length := by
  induction text with
  | nil => simp
  | cons c text ih =>
    obtain ⟨first, others, shape, _⟩ := escapeChar_shape ensureAscii c
    simp only [List.flatMap_cons, List.length_append, List.length_cons, shape]
    omega

theorem readString_dumpString (ensureAscii : Bool) (text : String) (rest : List Char) (fuel : Nat)
    (enough : (dumpString ensureAscii text).length ≤ fuel + 1) :
    dumpString ensureAscii text ++ rest = '"' :: (dumpString ensureAscii text ++ rest).tail ∧
      readString fuel (dumpString ensureAscii text ++ rest).tail = some (text.toList, rest) := by
  have shorter := length_le_escaped ensureAscii text.toList
  simp only [dumpString, List.cons_append, List.length_cons, List.length_append, List.length_nil] at enough
  refine ⟨rfl, ?_⟩
  simp only [dumpString, List.cons_append, List.append_assoc, List.tail_cons, List.nil_append]
  exact readString_escaped ensureAscii text.toList rest (by omega)

theorem skipSpace_cons {c : Char} (solid : isSpace c = false) (tail : List Char) :
    skipSpace (c :: tail) = c :: tail := by
  simp [skipSpace, solid]

theorem dumpValue_obj (ensureAscii : Bool) (members : Object) :
    ∃ others, dumpValue ensureAscii (.obj members) = '{' :: others := by
  rcases members with _ | ⟨⟨_, _⟩, _⟩ <;> exact ⟨_, rfl⟩

mutual
theorem dumpValue_eq_write (ensureAscii : Bool) : (value : Json) →
    dumpValue ensureAscii value = writeValue ensureAscii [] value
  | .null | .bool true | .bool false | .int _ | .str _ | .arr [] | .obj [] => rfl
  | .arr (item :: items) => by
    rw [dumpValue, writeValue, dumpValue_eq_write, dumpItems_eq_write]
  | .obj ((key, value) :: members) => by
    rw [dumpValue, writeValue, dumpValue_eq_write, dumpMembers_eq_write, List.nil_append]

theorem dumpItems_eq_write (ensureAscii : Bool) : (items : List Json) →
    dumpItems ensureAscii items = writeItems ensureAscii [] items
  | [] => rfl
  | item :: items => by rw [dumpItems, writeItems, dumpValue_eq_write, dumpItems_eq_write, List.nil_append]

theorem dumpMembers_eq_write (ensureAscii : Bool) : (members : Object) →
    dumpMembers ensureAscii members = writeMembers ensureAscii [] members
  | [] => rfl
  | (key, value) :: members => by
    rw [dumpMembers, writeMembers, dumpValue_eq_write, dumpMembers_eq_write, List.nil_append, List.nil_append]
end

private theorem writeValue_head (ensureAscii : Bool) (blanks : List Char) (value : Json) (rest : List Char) :
    ∃ c tail, writeValue ensureAscii blanks value ++ rest = c :: tail ∧ isSpace c = false ∧ c ≠ ']' := by
  cases value with
  | null => exact ⟨_, _, rfl, by decide, by decide⟩
  | bool value => cases value <;> exact ⟨_, _, rfl, by decide, by decide⟩
  | str text => exact ⟨_, _, rfl, by decide, by decide⟩
  | arr items => cases items <;> exact ⟨_, _, rfl, by decide, by decide⟩
  | obj members => rcases members with _ | ⟨⟨_, _⟩, _⟩ <;> exact ⟨_, _, rfl, by decide, by decide⟩
  | int value =>
    cases value with
    | negSucc n => exact ⟨_, _, rfl, by decide, by decide⟩
    | ofNat n =>
      obtain ⟨c, tail, same, digit⟩ := toDigits_not_minus n rest
      refine ⟨c, tail, same, ?_, ?_⟩
      · simp only [isSpace, Bool.or_eq_false_iff, decide_eq_false_iff_not]
        refine ⟨⟨⟨?_, ?_⟩, ?_⟩, ?_⟩ <;> (rintro rfl; cases digit)
      · rintro rfl; cases digit

/-- A digit or a minus sign leaves the reader no other choice than a number. -/
theorem readValue_number {c : Char} (first : c.isDigit = true ∨ c = '-') (fuel : Nat) (others : List Char) :
    readValue (fuel + 1) (c :: others) = (readInt (c :: others)).map fun (n, rest) => (.int n, rest) := by
  have other : c ≠ '"' ∧ c ≠ '{' ∧ c ≠ '[' ∧ c ≠ 'n' ∧ c ≠ 't' ∧ c ≠ 'f' := by
    refine ⟨?_, ?_, ?_, ?_, ?_, ?_⟩ <;> (rintro rfl; revert first; decide)
  unfold readValue
  split
  next equal => exact absurd (List.cons.inj equal).1 other.1
  next equal => exact absurd (List.cons.inj equal).1 other.2.1
  next equal => exact absurd (List.cons.inj equal).1 other.2.2.1
  next equal => exact absurd (List.cons.inj equal).1 other.2.2.2.1
  next equal => exact absurd (List.cons.inj equal).1 other.2.2.2.2.1
  next equal => exact absurd (List.cons.inj equal).1 other.2.2.2.2.2
  next => rfl

private theorem readValue_int (fuel : Nat) (value : Int) {rest : List Char} (delimited : Delimited rest) :
    readValue (fuel + 1) (dumpInt value ++ rest) = some (.int value, rest) := by
  have read := readInt_dumpInt value delimited
  have head : ∃ c tail, dumpInt value ++ rest = c :: tail ∧ (c.isDigit = true ∨ c = '-') := by
    cases value with
    | negSucc n => exact ⟨_, _, rfl, .inr rfl⟩
    | ofNat n =>
      obtain ⟨c, tail, same, digit⟩ := toDigits_not_minus n rest
      exact ⟨c, tail, same, .inl digit⟩
  obtain ⟨c, tail, same, first⟩ := head
  rw [same] at read ⊢
  rw [readValue_number first, read]
  rfl

section
variable {blanks : List Char}

private theorem skipSpace_blanks (blank : ∀ c ∈ blanks, isSpace c = true) {c : Char} (solid : isSpace c = false)
    (tail : List Char) : skipSpace (blanks ++ c :: tail) = c :: tail := by
  rw [skipSpace, List.dropWhile_append_of_pos blank]
  exact skipSpace_cons solid tail

mutual
theorem readValue_writeValue (blank : ∀ c ∈ blanks, isSpace c = true) (ensureAscii : Bool) : (value : Json) →
    (rest : List Char) → (fuel : Nat) → value.Distinct → Delimited rest → (writeValue ensureAscii blanks value).length ≤ fuel →
    readValue (fuel + 1) (writeValue ensureAscii blanks value ++ rest) = some (value, rest)
  | .null, rest, fuel, _, _, _ => rfl
  | .bool true, rest, fuel, _, _, _ => rfl
  | .bool false, rest, fuel, _, _, _ => rfl
  | .int value, rest, fuel, _, delimited, _ => by
    simpa only [writeValue] using readValue_int fuel value delimited
  | .str text, rest, fuel, _, _, enough => by
    simp only [writeValue] at enough ⊢
    obtain ⟨opened, read⟩ := readString_dumpString ensureAscii text rest fuel (by omega)
    rw [opened, readValue, read]
    simp
  | .arr [], rest, fuel, _, _, _ => rfl
  | .arr (item :: items), rest, fuel, distinct, _, enough => by
    simp only [writeValue, List.length_cons, List.length_append] at enough
    obtain ⟨fuel, rfl⟩ := Nat.exists_eq_succ_of_ne_zero (by omega : fuel ≠ 0)
    have read := readItems_writeItems blank ensureAscii item items rest fuel distinct (by omega)
    obtain ⟨c, tail, same, solid, open_⟩ :=
      writeValue_head ensureAscii blanks item (writeItems ensureAscii blanks items ++ rest)
    simp only [writeValue, List.cons_append, List.append_assoc] at read ⊢
    rw [same] at read ⊢
    simp only [readValue, skipSpace_cons solid]
    split
    next equal => exact absurd (List.cons.inj equal).1 open_
    next => rw [read]; rfl
  | .obj [], rest, fuel, _, _, _ => rfl
  | .obj ((key, value) :: members), rest, fuel, distinct, _, enough => by
    simp only [writeValue, List.length_cons, List.length_append] at enough
    obtain ⟨fuel, rfl⟩ := Nat.exists_eq_succ_of_ne_zero (by omega : fuel ≠ 0)
    have read := readMembers_writeMembers blank ensureAscii key value members rest fuel distinct.2 (by omega)
    have opened := (readString_dumpString ensureAscii key (':' :: (blanks ++ (writeValue ensureAscii blanks value ++
      writeMembers ensureAscii blanks members)) ++ rest) fuel (by omega)).1
    simp only [writeValue, List.cons_append, List.append_assoc] at read opened ⊢
    rw [opened] at read ⊢
    simp only [readValue, skipSpace_cons (c := '"') (by decide)]
    split
    next equal => exact absurd (List.cons.inj equal).1 (by decide)
    next =>
      rw [read, Option.map_some, Dict.setAll_of_nodup (by simpa [Distinct] using distinct.1), List.nil_append]
termination_by _ _ fuel => fuel

theorem readItems_writeItems (blank : ∀ c ∈ blanks, isSpace c = true) (ensureAscii : Bool) : (item : Json) →
    (items : List Json) → (rest : List Char) → (fuel : Nat) → DistinctItems (item :: items) →
    (writeValue ensureAscii blanks item).length + (writeItems ensureAscii blanks items).length ≤ fuel →
    readItems (fuel + 1) (writeValue ensureAscii blanks item ++ (writeItems ensureAscii blanks items ++ rest)) =
      some (item :: items, rest)
  | item, [], rest, fuel, distinct, enough => by
    simp only [writeItems, List.length_cons, List.length_nil] at enough
    obtain ⟨fuel, rfl⟩ := Nat.exists_eq_succ_of_ne_zero (by omega : fuel ≠ 0)
    have read := readValue_writeValue blank ensureAscii item (']' :: rest) fuel distinct.1
      (delimited_cons (by simp)) (by omega)
    rw [writeItems, readItems]
    simp only [List.cons_append, List.nil_append, read, Option.bind_eq_bind, Option.bind_some,
      skipSpace_cons (c := ']') (by decide), Option.pure_def]
  | item, next :: items, rest, fuel, distinct, enough => by
    simp only [writeItems, List.length_cons, List.length_append] at enough
    obtain ⟨fuel, rfl⟩ := Nat.exists_eq_succ_of_ne_zero (by omega : fuel ≠ 0)
    have read := readValue_writeValue blank ensureAscii item (',' :: (blanks ++ (writeValue ensureAscii blanks next ++
      (writeItems ensureAscii blanks items ++ rest)))) fuel distinct.1 (delimited_cons (by simp)) (by omega)
    have more := readItems_writeItems blank ensureAscii next items rest fuel distinct.2 (by omega)
    obtain ⟨c, tail, same, solid, _⟩ :=
      writeValue_head ensureAscii blanks next (writeItems ensureAscii blanks items ++ rest)
    simp only [writeItems, List.cons_append, List.append_assoc]
    rw [same] at read more ⊢
    rw [readItems]
    simp only [read, Option.bind_eq_bind, Option.bind_some, skipSpace_cons (c := ',') (by decide),
      skipSpace_blanks blank solid, more, Option.pure_def]
termination_by _ _ _ fuel => fuel

theorem readMembers_writeMembers (blank : ∀ c ∈ blanks, isSpace c = true) (ensureAscii : Bool) : (key : String) → (value : Json) →
    (members : Object) → (rest : List Char) → (fuel : Nat) → DistinctMembers ((key, value) :: members) →
    (dumpString ensureAscii key).length + (writeValue ensureAscii blanks value).length +
      (writeMembers ensureAscii blanks members).length ≤ fuel →
    readMembers (fuel + 1) (dumpString ensureAscii key ++
      ':' :: (blanks ++ (writeValue ensureAscii blanks value ++ (writeMembers ensureAscii blanks members ++ rest)))) =
      some ((key, value) :: members, rest)
  | key, value, [], rest, fuel, distinct, enough => by
    simp only [writeMembers, List.length_cons, List.length_nil] at enough
    obtain ⟨fuel, rfl⟩ := Nat.exists_eq_succ_of_ne_zero (by omega : fuel ≠ 0)
    obtain ⟨opened, name⟩ := readString_dumpString ensureAscii key
      (':' :: (blanks ++ (writeValue ensureAscii blanks value ++ '}' :: rest))) (fuel + 1) (by omega)
    have read := readValue_writeValue blank ensureAscii value ('}' :: rest) fuel distinct.1
      (delimited_cons (by simp)) (by omega)
    obtain ⟨c, tail, same, solid, _⟩ := writeValue_head ensureAscii blanks value ('}' :: rest)
    simp only [writeMembers, List.cons_append, List.nil_append]
    rw [opened]
    rw [same] at read name ⊢
    rw [readMembers]
    simp only [name, Option.bind_eq_bind, Option.bind_some, skipSpace_cons (c := ':') (by decide),
      skipSpace_blanks blank solid, read, skipSpace_cons (c := '}') (by decide), String.ofList_toList, Option.pure_def]
  | key, value, (name, next) :: members, rest, fuel, distinct, enough => by
    simp only [writeMembers, List.length_cons, List.length_append] at enough
    obtain ⟨fuel, rfl⟩ := Nat.exists_eq_succ_of_ne_zero (by omega : fuel ≠ 0)
    have more := readMembers_writeMembers blank ensureAscii name next members rest fuel distinct.2 (by omega)
    have quoted := (readString_dumpString ensureAscii name (':' :: (blanks ++ (writeValue ensureAscii blanks next ++
      (writeMembers ensureAscii blanks members ++ rest)))) fuel (by omega)).1
    rw [quoted] at more
    obtain ⟨opened, label⟩ := readString_dumpString ensureAscii key (':' :: (blanks ++
      (writeValue ensureAscii blanks value ++ ',' :: (blanks ++ (dumpString ensureAscii name ++ ':' :: (blanks ++ (writeValue ensureAscii blanks next ++
        (writeMembers ensureAscii blanks members ++ rest)))))))) (fuel + 1) (by omega)
    have read := readValue_writeValue blank ensureAscii value (',' :: (blanks ++ (dumpString ensureAscii name ++
      ':' :: (blanks ++ (writeValue ensureAscii blanks next ++ (writeMembers ensureAscii blanks members ++ rest)))))) fuel
      distinct.1 (delimited_cons (by simp)) (by omega)
    obtain ⟨c, tail, same, solid, _⟩ := writeValue_head ensureAscii blanks value (',' :: (blanks ++
      (dumpString ensureAscii name ++ ':' :: (blanks ++ (writeValue ensureAscii blanks next ++
        (writeMembers ensureAscii blanks members ++ rest))))))
    simp only [writeMembers, List.cons_append, List.append_assoc]
    rw [opened]
    rw [same] at read label ⊢
    rw [readMembers]
    simp only [label, Option.bind_eq_bind, Option.bind_some, skipSpace_cons (c := ':') (by decide),
      skipSpace_blanks blank solid, read, skipSpace_cons (c := ',') (by decide)]
    rw [quoted, skipSpace_blanks blank (c := '"') (by decide), more]
    simp
termination_by _ _ _ _ fuel => fuel
end

theorem loads_writeValue (blank : ∀ c ∈ blanks, isSpace c = true) (ensureAscii : Bool) {value : Json}
    (distinct : value.Distinct) : loads (writeValue ensureAscii blanks value) = some value := by
  have read := readValue_writeValue blank ensureAscii value [] (writeValue ensureAscii blanks value).length distinct
    delimited_nil (Nat.le_refl _)
  obtain ⟨c, tail, same, solid, _⟩ := writeValue_head ensureAscii blanks value []
  rw [List.append_nil] at read same
  simp only [loads]
  rw [same] at read ⊢
  simp only [skipSpace_cons solid, read]
  simp [skipSpace]

end

theorem readValue_dumpValue (ensureAscii : Bool) (value : Json) (rest : List Char) (fuel : Nat) (distinct : value.Distinct)
    (delimited : Delimited rest) (enough : (dumpValue ensureAscii value).length ≤ fuel) :
    readValue (fuel + 1) (dumpValue ensureAscii value ++ rest) = some (value, rest) := by
  rw [dumpValue_eq_write] at enough ⊢
  exact readValue_writeValue (by simp) ensureAscii value rest fuel distinct delimited enough

/-- `json.loads(json.dumps(value)) == value`, in either escaping mode. -/
theorem loads_dumps (ensureAscii : Bool) {value : Json} (distinct : value.Distinct) :
    loads (dumps ensureAscii value).toList = some value := by
  rw [dumps, String.toList_ofList, dumpValue_eq_write]
  exact loads_writeValue (by simp) ensureAscii distinct

theorem loads_spaced (ensureAscii : Bool) {value : Json} (distinct : value.Distinct) :
    loads (spaced ensureAscii value).toList = some value.sortKeys := by
  have blank : ∀ c ∈ [' '], isSpace c = true := by
    intro c member
    obtain rfl := List.mem_singleton.mp member
    rfl
  rw [spaced, String.toList_ofList]
  exact loads_writeValue blank ensureAscii (sortKeys_distinct value distinct)

theorem spaced_injective {ensureAscii : Bool} {left right : Json} (first : left.Distinct) (second : right.Distinct)
    (same : spaced ensureAscii left = spaced ensureAscii right) : left.sortKeys = right.sortKeys := by
  have read := loads_spaced ensureAscii first
  rw [same, loads_spaced ensureAscii second] at read
  exact (Option.some.inj read).symm

/-- Canonical text determines the document up to the order of object keys. -/
theorem canonical_injective {left right : Json} (first : left.Distinct) (second : right.Distinct)
    (same : canonical left = canonical right) : left.sortKeys = right.sortKeys := by
  have read := loads_dumps true (sortKeys_distinct left first)
  rw [← canonical, same, canonical, loads_dumps true (sortKeys_distinct right second)] at read
  exact (Option.some.inj read).symm

end Json
