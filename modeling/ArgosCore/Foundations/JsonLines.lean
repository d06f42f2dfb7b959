import ArgosCore.Foundations.JsonTorn
import ArgosCore.Foundations.TextLines

/-! One JSON object on each line. Text written without ASCII escapes keeps three
line boundaries inside strings, and splitting at Unicode boundaries tears the
objects that contain one. -/

namespace Json
open TextLines

mutual
def strings : Json → List String
  | .str text => [text]
  | .arr items => itemStrings items
  | .obj members => memberStrings members
  | .null | .bool _ | .int _ => []

def itemStrings : List Json → List String
  | [] => []
  | item :: items => item.strings ++ itemStrings items

def memberStrings : List (String × Json) → List String
  | [] => []
  | (key, value) :: members => key :: (value.strings ++ memberStrings members)
end

def isPrintable (c : Char) : Bool := 32 ≤ c.toNat && c.toNat < 127

private theorem printable_of_mem {text : List Char} (all : text.all isPrintable = true) {c : Char} (member : c ∈ text) :
    32 ≤ c.toNat ∧ c.toNat < 127 := by
  simpa [isPrintable] using List.all_eq_true.mp all c member

theorem hexDigit_ascii (n : Nat) : 32 ≤ (hexDigit n).toNat ∧ (hexDigit n).toNat < 127 := by
  have digits : ∀ d < 16, 32 ≤ d.digitChar.toNat ∧ d.digitChar.toNat < 127 := by decide
  exact digits (n % 16) (Nat.mod_lt _ (by omega))

private theorem escapeUnit_ascii {unit : Nat} {c : Char} (member : c ∈ escapeUnit unit) :
    32 ≤ c.toNat ∧ c.toNat < 127 := by
  simp only [escapeUnit, List.mem_cons, List.not_mem_nil, or_false] at member
  rcases member with rfl | rfl | rfl | rfl | rfl | rfl
  · decide
  · decide
  all_goals exact hexDigit_ascii _

private theorem mem_escapeChar {c d : Char} (member : c ∈ escapeChar false d) :
    32 ≤ c.toNat ∧ (c.toNat < 127 ∨ c = d) := by
  simp only [escapeChar, Bool.false_and, Bool.false_eq_true, if_false] at member
  split_ifs at member with quote backslash newline carriage tab backspace formFeed control
  case neg =>
    obtain rfl := List.mem_singleton.mp member
    exact ⟨by omega, .inr rfl⟩
  all_goals apply And.imp_right .inl
  · exact printable_of_mem (by decide) member
  · exact printable_of_mem (by decide) member
  · exact printable_of_mem (by decide) member
  · exact printable_of_mem (by decide) member
  · exact printable_of_mem (by decide) member
  · exact printable_of_mem (by decide) member
  · exact printable_of_mem (by decide) member
  · exact escapeUnit_ascii member

private theorem self_mem_escapeChar {c : Char} (wide : 127 ≤ c.toNat) : c ∈ escapeChar false c := by
  have other (d : Char) (narrow : d.toNat < 127) : c ≠ d := by
    rintro rfl
    omega
  simp only [escapeChar, Bool.false_and, Bool.false_eq_true, if_false, if_neg (other '"' (by decide)),
    if_neg (other '\\' (by decide)), if_neg (other '\n' (by decide)), if_neg (other '\r' (by decide)),
    if_neg (other '\t' (by decide)), if_neg (show ¬ c.toNat = 8 by omega), if_neg (show ¬ c.toNat = 12 by omega),
    if_neg (show ¬ c.toNat < 32 by omega), List.mem_singleton]

/-- Text without control characters whose wide characters are those of the strings in it. -/
structure Shows (text : List Char) (strings : List String) : Prop where
  printable : ∀ c ∈ text, 32 ≤ c.toNat
  wide : ∀ c : Char, 127 ≤ c.toNat → (c ∈ text ↔ ∃ string ∈ strings, c ∈ string.toList)

theorem Shows.append {first second : List Char} {strings others : List String} (left : Shows first strings)
    (right : Shows second others) : Shows (first ++ second) (strings ++ others) where
  printable c member := (List.mem_append.mp member).elim (left.printable c) (right.printable c)
  wide c large := by
    rw [List.mem_append, left.wide c large, right.wide c large]
    simp only [List.mem_append, or_and_right, exists_or]

theorem Shows.ascii (text : List Char) (printable : text.all isPrintable = true) : Shows text [] where
  printable c member := (printable_of_mem printable member).1
  wide c large := by
    simp only [List.not_mem_nil, false_and, exists_false, iff_false]
    intro member
    have narrow := (printable_of_mem printable member).2
    omega

theorem Shows.cons {text : List Char} {strings : List String} (shows : Shows text strings) {c : Char}
    (narrow : isPrintable c = true) : Shows (c :: text) strings :=
  (Shows.ascii [c] (by simp [narrow])).append shows

private theorem dumpString_shows (text : String) : Shows (dumpString false text) [text] := by
  have inner : Shows (text.toList.flatMap (escapeChar false)) [text] := by
    constructor
    · intro c member
      obtain ⟨d, _, escaped⟩ := List.mem_flatMap.mp member
      exact (mem_escapeChar escaped).1
    · intro c large
      simp only [List.mem_flatMap, List.mem_singleton, exists_eq_left]
      constructor
      · intro ⟨d, inside, escaped⟩
        rcases (mem_escapeChar escaped).2 with narrow | rfl
        · omega
        · exact inside
      · exact fun inside => ⟨c, inside, self_mem_escapeChar large⟩
  have quoted := (inner.cons (c := '"') (by decide)).append (Shows.ascii ['"'] (by decide))
  rwa [List.append_nil] at quoted

private theorem dumpInt_printable (value : Int) : (dumpInt value).all isPrintable = true := by
  have digits (n : Nat) : (Nat.toDigits 10 n).all isPrintable = true := by
    rw [List.all_eq_true]
    intro c digit
    have bounds := Nat.isDigit_of_mem_toDigits (b := 10) (n := n) (by omega) (by omega) digit
    simp only [Char.isDigit, Bool.and_eq_true, decide_eq_true_eq, UInt32.le_iff_toNat_le] at bounds
    change 48 ≤ c.toNat ∧ c.toNat ≤ 57 at bounds
    simp only [isPrintable, Bool.and_eq_true, decide_eq_true_eq]
    omega
  cases value with
  | ofNat n => exact digits n
  | negSucc n => rw [dumpInt, List.all_cons, digits]; rfl

mutual
theorem dumpValue_shows : (value : Json) → Shows (dumpValue false value) value.strings
  | .null => .ascii _ (by decide)
  | .bool true => .ascii _ (by decide)
  | .bool false => .ascii _ (by decide)
  | .int value => by
    rw [dumpValue]
    exact .ascii _ (dumpInt_printable value)
  | .str text => by
    rw [dumpValue]
    exact dumpString_shows text
  | .arr [] => .ascii _ (by decide)
  | .arr (item :: items) => by
    rw [dumpValue]
    exact ((dumpValue_shows item).append (dumpItems_shows items)).cons (by decide)
  | .obj [] => .ascii _ (by decide)
  | .obj ((key, value) :: members) => by
    rw [dumpValue]
    have rest := ((dumpValue_shows value).append (dumpMembers_shows members)).cons (c := ':') (by decide)
    exact ((dumpString_shows key).append rest).cons (by decide)

theorem dumpItems_shows : (items : List Json) → Shows (dumpItems false items) (itemStrings items)
  | [] => .ascii _ (by decide)
  | item :: items => by
    rw [dumpItems]
    exact ((dumpValue_shows item).append (dumpItems_shows items)).cons (by decide)

theorem dumpMembers_shows : (members : Object) → Shows (dumpMembers false members) (memberStrings members)
  | [] => .ascii _ (by decide)
  | (key, value) :: members => by
    rw [dumpMembers]
    have rest := ((dumpValue_shows value).append (dumpMembers_shows members)).cons (c := ':') (by decide)
    exact ((dumpString_shows key).append rest).cons (by decide)
end

/-- The line boundaries that JSON text may hold: next line, line separator and
paragraph separator. -/
def separators : List Nat := [0x85, 0x2028, 0x2029]

def Unseparated (text : String) : Prop := ∀ c ∈ text.toList, c.toNat ∉ separators

instance (text : String) : Decidable (Unseparated text) := List.decidableBAll _ _

/-- Written text stays on its line when no string of the document breaks it. -/
theorem dumpValue_unbroken_iff {value : Json} :
    (∀ c ∈ dumpValue false value, isBoundary c = false) ↔ ∀ text ∈ value.strings, Unseparated text := by
  have shows := dumpValue_shows value
  have boundary : ∀ c : Char, 32 ≤ c.toNat → (isBoundary c = true ↔ c.toNat ∈ separators) := by
    intro c printable
    simp only [isBoundary, boundaries, separators, List.contains_eq_mem, List.mem_cons, List.not_mem_nil, or_false,
      decide_eq_true_eq]
    omega
  have large : ∀ c : Char, c.toNat ∈ separators → 127 ≤ c.toNat := by
    intro c member
    simp only [separators, List.mem_cons, List.not_mem_nil, or_false] at member
    omega
  constructor
  · intro unbroken text member c inside separator
    have written := (shows.wide c (large c separator)).mpr ⟨text, member, inside⟩
    rw [← boundary c (shows.printable c written), unbroken c written] at separator
    cases separator
  · intro unseparated c written
    rw [Bool.eq_false_iff, ne_eq, boundary c (shows.printable c written)]
    intro separator
    obtain ⟨text, member, inside⟩ := (shows.wide c (large c separator)).mp written
    exact unseparated text member c inside separator

def linesText (objects : List Object) : List Char := objects.flatMap fun object => dumpValue false (.obj object) ++ ['\n']

def linesOf (text : List Char) : List (List Char) := (splitlines (universalNewlines text)).filter (!blank ·)

theorem linesText_clean (objects : List Object) : '\r' ∉ linesText objects := by
  simp only [linesText, List.mem_flatMap, List.mem_append, List.mem_singleton, not_exists, not_and, not_or]
  refine fun object _ => ⟨fun written => ?_, by decide⟩
  exact absurd ((dumpValue_shows (.obj object)).printable _ written) (by decide)

private theorem linesText_newlines (objects : List Object) : universalNewlines (linesText objects) = linesText objects :=
  universalNewlines_eq (linesText_clean objects)

theorem not_blank {line rest : List Char} {members : Object}
    (written : dumpValue false (.obj members) = line ++ rest) (nonempty : line ≠ []) : blank line = false := by
  obtain ⟨others, opened⟩ := dumpValue_obj false members
  obtain ⟨c, following, rfl⟩ := List.exists_cons_of_ne_nil nonempty
  rw [written] at opened
  obtain rfl : c = '{' := (List.cons.inj opened).1
  rfl

theorem linesOf_unbroken (objects : List Object)
    (unseparated : ∀ object ∈ objects, ∀ text ∈ (obj object).strings, Unseparated text) :
    linesOf (linesText objects) = objects.map fun object => dumpValue false (.obj object) := by
  have split : splitlines (linesText objects) = objects.map fun object => dumpValue false (.obj object) := by
    have lines := splitlines_flatMap (objects.map fun object => dumpValue false (.obj object)) (by
      intro line member
      obtain ⟨object, inside, rfl⟩ := List.mem_map.mp member
      exact dumpValue_unbroken_iff.mpr (unseparated object inside))
    rwa [List.flatMap_map] at lines
  rw [linesOf, linesText_newlines, split, List.filter_eq_self]
  intro line member
  obtain ⟨object, _, rfl⟩ := List.mem_map.mp member
  obtain ⟨others, opened⟩ := dumpValue_obj false object
  rw [not_blank (List.append_nil _).symm (by rw [opened]; simp)]
  rfl

private theorem splitlines_torn {object : Object} (distinct : (obj object).Distinct) {text : String}
    (inside : text ∈ (obj object).strings) (separated : ¬ Unseparated text) (rest : List Char) :
    ∃ line ∈ splitlines (dumpValue false (.obj object) ++ rest), blank line = false ∧ loads line = none := by
  have broken : ∃ c ∈ dumpValue false (.obj object), isBoundary c = true := by
    by_contra! unbroken
    exact separated (dumpValue_unbroken_iff.mp (fun c member => Bool.eq_false_iff.mpr (unbroken c member)) text inside)
  obtain ⟨line, boundary, remaining, written, before, ends⟩ := exists_first_boundary broken
  have nonempty : line ≠ [] := by
    rintro rfl
    obtain ⟨others, opened⟩ := dumpValue_obj false object
    rw [written] at opened
    obtain rfl : boundary = '{' := (List.cons.inj opened).1
    cases ends
  have plain : boundary ≠ '\r' := by
    rintro rfl
    exact absurd ((dumpValue_shows (.obj object)).printable '\r' (by rw [written]; simp)) (by decide)
  refine ⟨line, ?_, not_blank written nonempty, loads_torn false distinct written (by simp)⟩
  rw [written, List.append_assoc, List.cons_append, splitlines_append before ends plain]
  exact List.mem_cons_self

theorem linesOf_broken {objects : List Object} (distinct : ∀ object ∈ objects, (obj object).Distinct)
    {object : Object} (member : object ∈ objects) {text : String} (inside : text ∈ (obj object).strings)
    (separated : ¬ Unseparated text) : ∃ line ∈ linesOf (linesText objects), loads line = none := by
  suffices torn : ∃ line ∈ splitlines (linesText objects), blank line = false ∧ loads line = none by
    obtain ⟨line, found, visible, failed⟩ := torn
    rw [linesOf, linesText_newlines]
    exact ⟨line, List.mem_filter.mpr ⟨found, by rw [visible]; rfl⟩, failed⟩
  induction objects with
  | nil => cases member
  | cons first objects ih =>
    rw [linesText, List.flatMap_cons, List.append_assoc]
    by_cases whole : ∀ text ∈ (obj first).strings, Unseparated text
    · have later : object ∈ objects := by
        rcases List.mem_cons.mp member with rfl | later
        · exact absurd (whole text inside) separated
        · exact later
      obtain ⟨line, found, failed⟩ := ih (fun object later => distinct object (by simp [later])) later
      rw [List.singleton_append, splitlines_append (dumpValue_unbroken_iff.mpr whole) (by decide) (by decide)]
      exact ⟨line, List.mem_cons_of_mem _ found, failed⟩
    · obtain ⟨name, among, breaks⟩ : ∃ text ∈ (obj first).strings, ¬ Unseparated text := by simpa using whole
      exact splitlines_torn (distinct first (by simp)) among breaks _

end Json
