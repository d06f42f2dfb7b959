import Mathlib.Logic.Function.Basic

/-! Words that can be read off the front of a text, whatever stands behind them, and
sequences of such words that end where no word begins. -/

namespace PrefixCode

variable {α β : Type} {code : α → List β}

/-- A text that begins with this word begins with no other. -/
def Readable (code : α → List β) (one : α) : Prop :=
  ∀ other rest otherRest, code one ++ rest = code other ++ otherRest → one = other ∧ rest = otherRest

theorem injective (readable : ∀ one, Readable code one) : Function.Injective code := by
  intro one other same
  exact (readable one other [] [] (congrArg (· ++ []) same)).1

theorem flatMap (stops : List β → Prop) (clear : ∀ a rest, ¬ stops (code a ++ rest)) {ones others : List α}
    (readable : ∀ one ∈ ones, Readable code one) {rest otherRest : List β} (first : stops rest) (second : stops otherRest)
    (same : ones.flatMap code ++ rest = others.flatMap code ++ otherRest) : ones = others ∧ rest = otherRest := by
  induction ones generalizing others with
  | nil =>
    cases others with
    | nil => exact ⟨rfl, same⟩
    | cons other others =>
      rw [List.flatMap_cons, List.append_assoc] at same
      change rest = _ at same
      rw [same] at first
      exact (clear _ _ first).elim
  | cons one ones ih =>
    obtain ⟨here, later⟩ := List.forall_mem_cons.mp readable
    rw [List.flatMap_cons, List.append_assoc] at same
    cases others with
    | nil =>
      change _ = otherRest at same
      rw [← same] at second
      exact (clear _ _ second).elim
    | cons other others =>
      rw [List.flatMap_cons, List.append_assoc] at same
      obtain ⟨rfl, behind⟩ := here other _ _ same
      obtain ⟨rfl, ends⟩ := ih later behind
      exact ⟨rfl, ends⟩

def Behind (accepts : α → Bool) (rest : List α) : Prop := ∀ a ∈ rest.head?, accepts a = false

theorem takeWhile_append {accepts : α → Bool} {run rest : List α} (accepted : ∀ a ∈ run, accepts a = true)
    (behind : Behind accepts rest) : (run ++ rest).takeWhile accepts = run := by
  have none : rest.takeWhile accepts = [] := by
    cases rest with
    | nil => rfl
    | cons a rest => exact List.takeWhile_cons_of_neg (by simp [behind a rfl])
  rw [List.takeWhile_append_of_pos accepted, none, List.append_nil]

theorem run_unique {accepts : α → Bool} {one other rest otherRest : List α} (first : ∀ a ∈ one, accepts a = true)
    (second : ∀ a ∈ other, accepts a = true) (behind : Behind accepts rest) (otherBehind : Behind accepts otherRest)
    (same : one ++ rest = other ++ otherRest) : one = other ∧ rest = otherRest := by
  have runs : one = other := by rw [← takeWhile_append first behind, same, takeWhile_append second otherBehind]
  subst runs
  exact ⟨rfl, List.append_cancel_left same⟩

end PrefixCode
