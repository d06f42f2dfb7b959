import Mathlib.Data.List.Basic

/-! Regular expressions without alternatives: characters, repeated classes of characters and
the two anchors, read as a search that is tied to the beginning of the text does. -/

/-- `^`, `$`, a character, or between `least` and `most` characters of a class. -/
inductive Piece where
  | beginning
  | ending
  | char (c : Char)
  | times (accepts : Char → Bool) (least : Nat) (most : Option Nat)

abbrev Pattern := List Piece

/-- Whether nothing was read yet, and what is left of the text. -/
structure Pattern.Position where
  fresh : Bool
  rest : List Char

open Pattern

/-- The positions after a piece. The end of the text is also in front of a newline that ends it. -/
def Piece.after (position : Position) : Piece → List Position
  | beginning => if position.fresh then [position] else []
  | ending => if position.rest = [] ∨ position.rest = ['\n'] then [position] else []
  | char c =>
    match position.rest with
    | [] => []
    | first :: rest => if first = c then [⟨false, rest⟩] else []
  | times accepts least most =>
    let run := (position.rest.takeWhile accepts).length
    ((List.range (run + 1)).filter fun count => least ≤ count ∧ most.all (count ≤ ·)).map fun count =>
      ⟨position.fresh && count = 0, position.rest.drop count⟩

namespace Pattern

def matchesFrom (position : Position) : Pattern → Bool
  | [] => true
  | piece :: pattern => (piece.after position).any fun next => matchesFrom next pattern

/-- `re.match(pattern, text)` finds something. -/
def matchesText (pattern : Pattern) (text : String) : Bool := matchesFrom ⟨true, text.toList⟩ pattern

def literal (text : String) : Pattern := text.toList.map .char

variable {pattern : Pattern} {fresh : Bool} {chars : List Char}

@[simp] theorem matchesFrom_beginning : matchesFrom ⟨true, chars⟩ (.beginning :: pattern) = matchesFrom ⟨true, chars⟩ pattern := by
  simp [matchesFrom, Piece.after]

theorem matchesFrom_ending : matchesFrom ⟨fresh, chars⟩ [.ending] = true ↔ chars = [] ∨ chars = ['\n'] := by
  rw [matchesFrom, Piece.after]
  split_ifs with last <;> simp [matchesFrom, last]

theorem matchesFrom_char {c : Char} : matchesFrom ⟨fresh, chars⟩ (.char c :: pattern) = true ↔
    ∃ rest, chars = c :: rest ∧ matchesFrom ⟨false, rest⟩ pattern = true := by
  rw [matchesFrom, Piece.after]
  cases chars with
  | nil => simp
  | cons first rest => by_cases same : first = c <;> simp [same]

theorem matchesFrom_literal (text : String) : matchesFrom ⟨fresh, chars⟩ (literal text ++ pattern) = true ↔
    ∃ rest, chars = text.toList ++ rest ∧ matchesFrom ⟨fresh && text.toList = [], rest⟩ pattern = true := by
  rw [literal]
  induction text.toList generalizing fresh chars with
  | nil => simp
  | cons c word ih =>
    rw [List.map_cons, List.cons_append, matchesFrom_char]
    simp only [ih, List.cons_append]
    constructor
    · rintro ⟨_, rfl, rest, rfl, later⟩
      exact ⟨rest, rfl, by simpa using later⟩
    · rintro ⟨rest, rfl, later⟩
      exact ⟨_, rfl, rest, rfl, by simpa using later⟩

theorem matchesFrom_times {accepts : Char → Bool} {least : Nat} {most : Option Nat} :
    matchesFrom ⟨fresh, chars⟩ (.times accepts least most :: pattern) = true ↔
      ∃ taken rest, chars = taken ++ rest ∧ taken.all accepts = true ∧ least ≤ taken.length ∧
        (∀ bound ∈ most, taken.length ≤ bound) ∧ matchesFrom ⟨fresh && taken = [], rest⟩ pattern = true := by
  rw [matchesFrom, Piece.after, List.any_map, List.any_filter, List.any_eq_true]
  constructor
  · rintro ⟨count, among, both⟩
    simp only [Bool.and_eq_true, decide_eq_true_eq, Option.all_eq_true, Function.comp_apply] at both
    obtain ⟨⟨enough, bounded⟩, later⟩ := both
    have within : count ≤ (chars.takeWhile accepts).length := Nat.le_of_lt_succ (List.mem_range.mp among)
    have shorter := Nat.le_trans within (List.takeWhile_prefix accepts).length_le
    have length : (chars.take count).length = count := List.length_take_of_le shorter
    have accepted : (chars.take count).all accepts = true := by
      have whole : chars.take count = (chars.takeWhile accepts).take count := by
        conv_lhs => rw [← List.takeWhile_append_dropWhile (p := accepts) (l := chars)]
        rw [List.take_append_of_le_length within]
      rw [whole, List.all_eq_true]
      exact fun c inside => List.all_eq_true.mp List.all_takeWhile c (List.mem_of_mem_take inside)
    refine ⟨chars.take count, chars.drop count, (List.take_append_drop ..).symm, accepted, ?_, ?_, ?_⟩
    · omega
    · intro bound known
      rw [length]
      exact bounded bound known
    · have empty : (chars.take count = []) ↔ count = 0 := by rw [← List.length_eq_zero_iff, length]
      simpa only [empty] using later
  · rintro ⟨taken, rest, rfl, accepted, enough, bounded, later⟩
    have run : taken.length ≤ ((taken ++ rest).takeWhile accepts).length := by
      rw [List.takeWhile_append_of_pos (List.all_eq_true.mp accepted), List.length_append]
      omega
    refine ⟨taken.length, List.mem_range.mpr (Nat.lt_succ_of_le run), ?_⟩
    simp only [Bool.and_eq_true, decide_eq_true_eq, Option.all_eq_true, Function.comp_apply, List.drop_left]
    exact ⟨⟨enough, bounded⟩, by simpa only [List.length_eq_zero_iff] using later⟩

end Pattern
