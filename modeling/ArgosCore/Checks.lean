import Mathlib.Data.List.Basic

/-! Three-valued checks, as both barriers before an execution make them. A check
that could not be evaluated is neither passed nor violated. -/

namespace ArgosCore

structure Check where
  name : String
  passed : Option Bool
  detail : String
  deriving DecidableEq, Repr

def violated (checks : List Check) : List String := (checks.filter (·.passed = some false)).map Check.name

def notEvaluated (checks : List Check) : List String := (checks.filter (·.passed = none)).map Check.name

theorem all_passed_iff {checks : List Check} :
    violated checks = [] ∧ notEvaluated checks = [] ↔ ∀ check ∈ checks, check.passed = some true := by
  simp only [violated, notEvaluated, List.map_eq_nil_iff, List.filter_eq_nil_iff, decide_eq_true_eq]
  constructor
  · intro ⟨known, evaluated⟩ check member
    have notViolated := known check member
    have notNone := evaluated check member
    cases passed : check.passed with
    | none => exact absurd passed notNone
    | some value =>
      cases value with
      | false => exact absurd passed notViolated
      | true => rfl
  · intro passed
    constructor <;> (intro check member; rw [passed check member]; decide)

/-- The decision of a barrier: a violation outweighs what was not evaluated, and
only a full set of passed checks is accepted. -/
def decideOver {σ : Type} (checks : List Check) (refuse undecided : List String → σ × String)
    (accept : σ × String) : σ × String :=
  if violated checks ≠ [] then refuse (violated checks)
  else if notEvaluated checks ≠ [] then undecided (notEvaluated checks)
  else accept

theorem decideOver_accept_iff {σ : Type} {checks : List Check} {refuse undecided : List String → σ × String}
    {accept : σ × String} (refused : ∀ names, (refuse names).1 ≠ accept.1)
    (notDecided : ∀ names, (undecided names).1 ≠ accept.1) :
    (decideOver checks refuse undecided accept).1 = accept.1 ↔ ∀ check ∈ checks, check.passed = some true := by
  rw [← all_passed_iff, decideOver]
  split_ifs with known unevaluated
  · simp [known, refused]
  · simp [unevaluated, notDecided]
  · simp_all

end ArgosCore
