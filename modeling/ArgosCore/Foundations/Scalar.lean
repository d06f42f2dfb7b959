import ArgosCore.Foundations.Json
import Mathlib.Data.Finset.Card

/-! Values that can be hashed and so be members of a set: what a document holds apart
from its lists and objects. -/

inductive Scalar where
  | null
  | bool (value : Bool)
  | int (value : Int)
  | str (value : String)
  deriving DecidableEq, Repr

namespace Scalar

def toJson : Scalar → Json
  | null => .null
  | bool value => .bool value
  | int value => .int value
  | str value => .str value

/-- The value, when it can be hashed: lists and objects cannot. -/
def ofJson? : Json → Option Scalar
  | .null => some .null
  | .bool value => some (.bool value)
  | .int value => some (.int value)
  | .str value => some (.str value)
  | .arr _ | .obj _ => none

/-- Equal values, as one value: booleans are equal to the integers 0 and 1. -/
def number : Scalar → Scalar
  | bool value => int (if value then 1 else 0)
  | null => null
  | int value => int value
  | str value => str value

/-- `set(values)` -/
def setOf (values : List Scalar) : Finset Scalar := (values.map number).toFinset

theorem card_setOf_le_one_iff (values : List Scalar) :
    (setOf values).card ≤ 1 ↔ ∀ one ∈ values, ∀ other ∈ values, one.number = other.number := by
  simp [Finset.card_le_one, setOf]

theorem card_setOf_pos_iff (values : List Scalar) : 0 < (setOf values).card ↔ values ≠ [] := by
  simp [Finset.card_pos, setOf, Finset.nonempty_iff_ne_empty]

end Scalar
