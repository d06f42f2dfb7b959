import Mathlib.Data.List.Basic

/-! Lines of text. A line-oriented file is written with `\n` alone, while the
splitting used to read it back breaks at every Unicode line boundary. A record
comes back whole exactly when none of these boundaries occurs inside it. -/

namespace TextLines

/-- Reading in text mode turns `\r\n` and a lone `\r` into `\n`. -/
def universalNewlines : List Char → List Char
  | [] => []
  | '\r' :: '\n' :: rest => '\n' :: universalNewlines rest
  | c :: rest => (if c = '\r' then '\n' else c) :: universalNewlines rest

/-- The line boundaries of `str.splitlines`. -/
def boundaries : List Nat := [0x0a, 0x0b, 0x0c, 0x0d, 0x1c, 0x1d, 0x1e, 0x85, 0x2028, 0x2029]

def isBoundary (c : Char) : Bool := boundaries.contains c.toNat

def splitlines : List Char → List (List Char)
  | [] => []
  | '\r' :: '\n' :: rest => [] :: splitlines rest
  | c :: rest =>
    if isBoundary c then [] :: splitlines rest
    else match splitlines rest with
      | [] => [[c]]
      | line :: lines => (c :: line) :: lines

/-- `str.isspace` of one character. -/
def isWhitespace (c : Char) : Bool :=
  let n := c.toNat
  (9 ≤ n && n ≤ 13) || (28 ≤ n && n ≤ 32) || (0x2000 ≤ n && n ≤ 0x200a) ||
    [0x85, 0xa0, 0x1680, 0x2028, 0x2029, 0x202f, 0x205f, 0x3000].contains n

/-- `not line.strip()`. -/
def blank (line : List Char) : Bool := line.all isWhitespace

theorem universalNewlines_eq {text : List Char} (clean : '\r' ∉ text) : universalNewlines text = text := by
  induction text with
  | nil => rfl
  | cons c text ih =>
    simp only [List.mem_cons, not_or] at clean
    have plain : c ≠ '\r' := fun same => clean.1 same.symm
    rw [universalNewlines]
    · rw [ih clean.2, if_neg plain]
    · rintro rest rfl
      exact absurd rfl plain

private theorem splitlines_cons {c : Char} (inside : isBoundary c = false) {text line : List Char}
    {lines : List (List Char)} (split : splitlines text = line :: lines) :
    splitlines (c :: text) = (c :: line) :: lines := by
  rw [splitlines]
  · simp [inside, split]
  · rintro rest rfl
    cases inside

theorem splitlines_append {line : List Char} (inside : ∀ c ∈ line, isBoundary c = false)
    {boundary : Char} (ends : isBoundary boundary = true) (plain : boundary ≠ '\r') (rest : List Char) :
    splitlines (line ++ boundary :: rest) = line :: splitlines rest := by
  induction line with
  | nil =>
    rw [List.nil_append, splitlines]
    · simp [ends]
    · rintro rest rfl
      exact absurd rfl plain
  | cons c line ih =>
    exact splitlines_cons (inside c (by simp)) (ih fun d member => inside d (by simp [member]))

theorem splitlines_flatMap (lines : List (List Char))
    (inside : ∀ line ∈ lines, ∀ c ∈ line, isBoundary c = false) :
    splitlines (lines.flatMap (· ++ ['\n'])) = lines := by
  induction lines with
  | nil => rfl
  | cons line lines ih =>
    rw [List.flatMap_cons, List.append_assoc, List.singleton_append,
      splitlines_append (inside line (by simp)) (by decide) (by decide),
      ih fun line member => inside line (by simp [member])]

theorem exists_first_boundary {text : List Char} (found : ∃ c ∈ text, isBoundary c = true) :
    ∃ line boundary rest, text = line ++ boundary :: rest ∧
      (∀ c ∈ line, isBoundary c = false) ∧ isBoundary boundary = true := by
  induction text with
  | nil => simp at found
  | cons c text ih =>
    by_cases ends : isBoundary c = true
    · exact ⟨[], c, text, rfl, by simp, ends⟩
    · obtain ⟨d, member, broken⟩ := found
      have later : d ∈ text := (List.mem_cons.mp member).resolve_left (by rintro rfl; exact ends broken)
      obtain ⟨line, boundary, rest, rfl, inside, stop⟩ := ih ⟨d, later, broken⟩
      refine ⟨c :: line, boundary, rest, rfl, ?_, stop⟩
      intro e member
      rcases List.mem_cons.mp member with rfl | member
      · exact Bool.eq_false_iff.mpr ends
      · exact inside e member

end TextLines
