import ArgosCore.Foundations.Dict
import Mathlib.Data.List.Sort
import Mathlib.Data.List.Infix
import Mathlib.Data.String.Basic

/-! Decoded JSON documents, held the way a dynamically typed program holds them:
objects are dictionaries in insertion order, absent keys read as `null`, and
every operation that would raise a type error is partial. Floating point numbers
are not represented. -/

inductive Json where
  | null
  | bool (value : Bool)
  | int (value : Int)
  | str (value : String)
  | arr (items : List Json)
  | obj (members : List (String × Json))
  deriving Repr

namespace Json

abbrev Object := Dict Json

mutual
private def decEq : (left right : Json) → Decidable (left = right)
  | .null, right => by cases right <;> first | exact isTrue rfl | exact isFalse (by simp)
  | .bool left, right => by
    cases right with
    | bool right => exact decidable_of_iff (left = right) (by simp)
    | _ => exact isFalse (by simp)
  | .int left, right => by
    cases right with
    | int right => exact decidable_of_iff (left = right) (by simp)
    | _ => exact isFalse (by simp)
  | .str left, right => by
    cases right with
    | str right => exact decidable_of_iff (left = right) (by simp)
    | _ => exact isFalse (by simp)
  | .arr left, right => by
    cases right with
    | arr right => exact @decidable_of_iff _ (left = right) (by simp) (decideItems left right)
    | _ => exact isFalse (by simp)
  | .obj left, right => by
    cases right with
    | obj right => exact @decidable_of_iff _ (left = right) (by simp) (decideMembers left right)
    | _ => exact isFalse (by simp)

private def decideItems : (left right : List Json) → Decidable (left = right)
  | [], [] => isTrue rfl
  | [], _ :: _ => isFalse (by simp)
  | _ :: _, [] => isFalse (by simp)
  | left :: lefts, right :: rights =>
    @decidable_of_iff _ (left = right ∧ lefts = rights) (by simp)
      (@instDecidableAnd _ _ (decEq left right) (decideItems lefts rights))

private def decideMembers : (left right : List (String × Json)) → Decidable (left = right)
  | [], [] => isTrue rfl
  | [], _ :: _ => isFalse (by simp)
  | _ :: _, [] => isFalse (by simp)
  | (key, left) :: lefts, (other, right) :: rights =>
    @decidable_of_iff _ (key = other ∧ left = right ∧ lefts = rights) (by simp [and_assoc])
      (@instDecidableAnd _ _ _ (@instDecidableAnd _ _ (decEq left right) (decideMembers lefts rights)))
end

instance : DecidableEq Json := decEq

/-- `dict.get(key, default)`. -/
def getOr (object : Object) (key : String) (default : Json) : Json :=
  (object.lookup key).getD default

/-- `dict.get(key)`: an absent key and an explicit null are the same answer. -/
def get (object : Object) (key : String) : Json := getOr object key .null

/-- `dict[key]`, with what is raised when there is no such key. -/
def item {ε : Type} (object : Object) (key : String) (missing : ε) : Except ε Json :=
  match object.lookup key with
  | none => .error missing
  | some value => .ok value

/-- `bool(value)`. -/
def truthy : Json → Bool
  | .null => false
  | .bool value => value
  | .int value => value ≠ 0
  | .str value => value ≠ ""
  | .arr items => !items.isEmpty
  | .obj members => !members.isEmpty

/-- `len(value)`; `none` is the type error of a value that has no length. -/
def length? : Json → Option Nat
  | .str value => some value.length
  | .arr items => some items.length
  | .obj members => some members.length
  | _ => none

/-- The integer a number stands for in comparisons; booleans are integers. -/
def number? : Json → Option Int
  | .bool value => some (if value then 1 else 0)
  | .int value => some value
  | _ => none

mutual
/-- Sort the members of every object by key, as serialisation with sorted keys does. -/
def sortKeys : Json → Json
  | .arr items => .arr (sortItems items)
  | .obj members => .obj ((sortMembers members).insertionSort (fun left right => left.1 ≤ right.1))
  | .null => .null
  | .bool value => .bool value
  | .int value => .int value
  | .str value => .str value

def sortItems : List Json → List Json
  | [] => []
  | item :: items => item.sortKeys :: sortItems items

def sortMembers : List (String × Json) → List (String × Json)
  | [] => []
  | (key, value) :: members => (key, value.sortKeys) :: sortMembers members
end

mutual
def numeric : Json → Json
  | .arr items => .arr (numericItems items)
  | .obj members => .obj (numericMembers members)
  | .bool value => .int (if value then 1 else 0)
  | .null => .null
  | .int value => .int value
  | .str value => .str value

def numericItems : List Json → List Json
  | [] => []
  | item :: items => item.numeric :: numericItems items

def numericMembers : List (String × Json) → List (String × Json)
  | [] => []
  | (key, value) :: members => (key, value.numeric) :: numericMembers members
end

/-- `left == right`: key order is irrelevant and booleans are numbers. -/
def equals (left right : Json) : Bool := left.numeric.sortKeys = right.numeric.sortKeys

@[simp] theorem equals_refl (value : Json) : value.equals value = true := by simp [equals]

@[simp] theorem equals_str (value : Json) (text : String) :
    equals value (.str text) = true ↔ value = .str text := by
  cases value <;> simp [equals, numeric, sortKeys]

/-- `text in container`; `none` is the type error of a value that contains nothing. -/
def contains? (container : Json) (text : String) : Option Bool :=
  match container with
  | .str value => some (decide (text.toList <:+: value.toList))
  | .arr items => some (items.any (equals (.str text)))
  | .obj members => some (members.any fun member => member.1 = text)
  | _ => none

theorem contains?_texts (texts : List String) (text : String) :
    (arr (texts.map str)).contains? text = some (decide (text ∈ texts)) := by
  have same (other : String) : equals (.str text) (.str other) = decide (text = other) := by
    rw [Bool.eq_iff_iff, equals_str, decide_eq_true_eq, str.injEq]
  simp only [contains?, List.any_map, Function.comp_def, same, Option.some.injEq]
  rw [Bool.eq_iff_iff, List.any_eq_true]
  simp

mutual
/-- No object names the same key twice; every decoded document has this shape. -/
def Distinct : Json → Prop
  | .arr items => DistinctItems items
  | .obj members => (members.map Prod.fst).Nodup ∧ DistinctMembers members
  | .null | .bool _ | .int _ | .str _ => True

def DistinctItems : List Json → Prop
  | [] => True
  | item :: items => item.Distinct ∧ DistinctItems items

def DistinctMembers : List (String × Json) → Prop
  | [] => True
  | (_, value) :: members => value.Distinct ∧ DistinctMembers members
end

theorem distinctMembers_iff {members : Object} :
    DistinctMembers members ↔ ∀ member ∈ members, member.2.Distinct := by
  induction members with
  | nil => simp [DistinctMembers]
  | cons member members ih => simp [DistinctMembers, ih]

theorem distinct_set {members : Object} (distinct : (obj members).Distinct) (key : String) (value : Json)
    (plain : value.Distinct) : (obj (Dict.set members key value)).Distinct := by
  refine ⟨Dict.nodup_set distinct.1 _ _, distinctMembers_iff.mpr fun member inside => ?_⟩
  rcases Dict.mem_of_mem_set inside with rfl | held
  · exact plain
  · exact distinctMembers_iff.mp distinct.2 member held

theorem distinctItems_iff {items : List Json} : DistinctItems items ↔ ∀ item ∈ items, item.Distinct := by
  induction items with
  | nil => simp [DistinctItems]
  | cons item items ih => simp [DistinctItems, ih]

theorem sortItems_eq_map (items : List Json) : sortItems items = items.map sortKeys := by
  induction items with
  | nil => rfl
  | cons item items ih => rw [sortItems, ih, List.map_cons]

theorem sortMembers_keys (members : Object) :
    (sortMembers members).map Prod.fst = members.map Prod.fst := by
  induction members with
  | nil => rfl
  | cons member members ih => simp [sortMembers, ih]

theorem lookup_sortMembers (members : Object) (key : String) :
    (sortMembers members).lookup key = (members.lookup key).map sortKeys := by
  induction members with
  | nil => rfl
  | cons member members ih =>
    obtain ⟨name, value⟩ := member
    by_cases same : key = name
    · simp [sortMembers, same]
    · simp [sortMembers, List.lookup_cons, beq_false_of_ne same, ih]

theorem lookup_of_sortKeys_eq {left right : Object} (first : (left.map Prod.fst).Nodup)
    (second : (right.map Prod.fst).Nodup) (same : (obj left).sortKeys = (obj right).sortKeys) (key : String) :
    (left.lookup key).map sortKeys = (right.lookup key).map sortKeys := by
  have sorted : ∀ {members : Object}, (members.map Prod.fst).Nodup →
      ((sortMembers members).insertionSort (fun left right => left.1 ≤ right.1)).lookup key =
        (members.lookup key).map sortKeys := by
    intro members distinct
    have keys : ((sortMembers members).map Prod.fst).Nodup := by rwa [sortMembers_keys]
    rw [← Dict.lookup_perm (List.perm_insertionSort _ _).symm keys, lookup_sortMembers]
  rw [← sorted first, ← sorted second]
  simp only [sortKeys, obj.injEq] at same
  rw [same]

theorem sortKeys_eq_of_lookup {left right : Object} (first : (left.map Prod.fst).Nodup)
    (second : (right.map Prod.fst).Nodup)
    (same : ∀ key, (left.lookup key).map sortKeys = (right.lookup key).map sortKeys) :
    (obj left).sortKeys = (obj right).sortKeys := by
  have leftKeys : ((sortMembers left).map Prod.fst).Nodup := by rwa [sortMembers_keys]
  have rightKeys : ((sortMembers right).map Prod.fst).Nodup := by rwa [sortMembers_keys]
  have perm : (sortMembers left).Perm (sortMembers right) := by
    apply Dict.perm_of_lookup leftKeys rightKeys
    intro key
    rw [lookup_sortMembers, lookup_sortMembers, same]
  have leftSorted := List.perm_insertionSort (fun left right : String × Json => left.1 ≤ right.1) (sortMembers left)
  have rightSorted := List.perm_insertionSort (fun left right : String × Json => left.1 ≤ right.1) (sortMembers right)
  simp only [sortKeys, obj.injEq]
  apply List.Perm.eq_of_pairwise _ (List.pairwise_insertionSort _ _) (List.pairwise_insertionSort _ _)
    (leftSorted.trans (perm.trans rightSorted.symm))
  intro one other member among before after
  exact List.inj_on_of_nodup_map leftKeys (leftSorted.mem_iff.mp member)
    (perm.mem_iff.mpr (rightSorted.mem_iff.mp among)) (le_antisymm before after)

theorem sortKeys_eq_iff_lookup {left right : Object} (first : (left.map Prod.fst).Nodup)
    (second : (right.map Prod.fst).Nodup) :
    (obj left).sortKeys = (obj right).sortKeys ↔
      ∀ key, (left.lookup key).map sortKeys = (right.lookup key).map sortKeys :=
  ⟨lookup_of_sortKeys_eq first second, sortKeys_eq_of_lookup first second⟩

private theorem values_eq_map_lookup {members : Object} (distinct : (members.map Prod.fst).Nodup) :
    members.map (fun member => some member.2.sortKeys) =
      (members.map Prod.fst).map fun key => (members.lookup key).map sortKeys := by
  rw [List.map_map]
  apply List.map_congr_left
  intro member inside
  have found := (Dict.lookup_eq_some_iff distinct).mpr inside
  simp [found]

theorem sortKeys_eq_iff_values {left right : Object} (keys : left.map Prod.fst = right.map Prod.fst)
    (distinct : (left.map Prod.fst).Nodup) :
    (obj left).sortKeys = (obj right).sortKeys ↔
      left.map (fun member => some member.2.sortKeys) = right.map fun member => some member.2.sortKeys := by
  have other : (right.map Prod.fst).Nodup := keys ▸ distinct
  rw [sortKeys_eq_iff_lookup distinct other]
  constructor
  · intro same
    rw [values_eq_map_lookup distinct, values_eq_map_lookup other, keys]
    exact List.map_congr_left fun key _ => same key
  · intro same key
    rw [values_eq_map_lookup distinct, values_eq_map_lookup other, keys] at same
    by_cases named : key ∈ right.map Prod.fst
    · exact List.map_inj_left.mp same key named
    · have absent : ∀ {members : Object}, key ∉ members.map Prod.fst → members.lookup key = none := by
        intro members missing
        rw [List.lookup_eq_none_iff]
        intro member inside
        have different : key ≠ member.1 := fun same => missing (List.mem_map.mpr ⟨member, inside, same.symm⟩)
        simpa using different
      rw [absent named, absent (keys ▸ named)]

mutual
theorem sortKeys_distinct : (value : Json) → value.Distinct → value.sortKeys.Distinct
  | .null, _ | .bool _, _ | .int _, _ | .str _, _ => by simp [sortKeys, Distinct]
  | .arr items, distinct => by
    simp only [sortKeys, Distinct] at distinct ⊢
    exact sortItems_distinct items distinct
  | .obj members, distinct => by
    simp only [sortKeys, Distinct] at distinct ⊢
    have sorted := List.perm_insertionSort (fun left right : String × Json => left.1 ≤ right.1) (sortMembers members)
    refine ⟨?_, ?_⟩
    · rw [(sorted.map Prod.fst).nodup_iff, sortMembers_keys]
      exact distinct.1
    · rw [distinctMembers_iff]
      intro member inside
      exact distinctMembers_iff.mp (sortMembers_distinct members distinct.2) member (sorted.mem_iff.mp inside)

theorem sortItems_distinct : (items : List Json) → DistinctItems items → DistinctItems (sortItems items)
  | [], _ => trivial
  | item :: items, distinct => ⟨sortKeys_distinct item distinct.1, sortItems_distinct items distinct.2⟩

theorem sortMembers_distinct : (members : Object) → DistinctMembers members → DistinctMembers (sortMembers members)
  | [], _ => trivial
  | (_, value) :: members, distinct =>
    ⟨sortKeys_distinct value distinct.1, sortMembers_distinct members distinct.2⟩
end

end Json
