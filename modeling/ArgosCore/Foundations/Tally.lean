import ArgosCore.Foundations.Dict
import Mathlib.Data.List.Count
import Mathlib.Data.List.Induction

/-! Counting the items of every slot. What the busiest slot says about the items between
two points of time depends on how many slots lie between them. -/

namespace Tally

/-- `counts[key] = counts.get(key, 0) + 1` -/
def add (counts : Dict Nat) (key : String) : Dict Nat := counts.set key ((counts.lookup key).getD 0 + 1)

def tally (keys : List String) : Dict Nat := keys.foldl add []

/-- `max(counts.values())`, or 0 when there are none. -/
def busiest (counts : Dict Nat) : Nat := (counts.map Prod.snd).foldr max 0

theorem lookup_tally (keys : List String) (key : String) : ((tally keys).lookup key).getD 0 = keys.count key := by
  induction keys using List.reverseRecOn with
  | nil => rfl
  | append_singleton keys last ih =>
    rw [tally, List.foldl_append]
    change ((add (tally keys) last).lookup key).getD 0 = _
    rw [add, Dict.lookup_set, List.count_append, List.count_singleton, ← ih]
    by_cases same : key = last
    · subst same
      simp
    · simp [same, Ne.symm same]

theorem busiest_le_iff {counts : Dict Nat} {most : Nat} : busiest counts ≤ most ↔ ∀ item ∈ counts, item.2 ≤ most := by
  induction counts with
  | nil => simp [busiest]
  | cons first counts ih => simp only [busiest, List.map_cons, List.foldr_cons, Nat.max_le, ← ih, List.forall_mem_cons]

theorem le_busiest {counts : Dict Nat} {item : String × Nat} (member : item ∈ counts) : item.2 ≤ busiest counts :=
  busiest_le_iff.mp (Nat.le_refl _) item member

theorem count_le_busiest (keys : List String) (key : String) : keys.count key ≤ busiest (tally keys) := by
  rw [← lookup_tally]
  cases found : (tally keys).lookup key with
  | none => exact Nat.zero_le _
  | some count => exact le_busiest (Dict.mem_of_lookup found)

theorem nodup_tally (keys : List String) : ((tally keys).map Prod.fst).Nodup := by
  induction keys using List.reverseRecOn with
  | nil => exact List.nodup_nil
  | append_singleton keys last ih =>
    rw [tally, List.foldl_append]
    exact Dict.nodup_set ih _ _

theorem busiest_tally_le_iff {keys : List String} {most : Nat} :
    busiest (tally keys) ≤ most ↔ ∀ key, keys.count key ≤ most := by
  constructor
  · exact fun calm key => Nat.le_trans (count_le_busiest keys key) calm
  · intro bound
    apply busiest_le_iff.mpr
    intro ⟨key, count⟩ member
    have found := (Dict.lookup_eq_some_iff (nodup_tally keys)).mpr member
    have same : count = keys.count key := by rw [← lookup_tally, found, Option.getD_some]
    exact same ▸ bound key

section
variable {α : Type}

theorem countP_or_le (one other : α → Bool) (items : List α) :
    items.countP (fun item => one item || other item) ≤ items.countP one + items.countP other := by
  induction items with
  | nil => simp
  | cons item items ih =>
    simp only [List.countP_cons]
    cases one item <;> cases other item <;> simp <;> omega

/-- An interval as long as a slot meets two slots at most. -/
theorem countP_interval_le (clock : α → Int) {width : Int} (positive : 0 < width) {items : List α} {most : Nat}
    (bound : ∀ slot, items.countP (fun item => clock item / width = slot) ≤ most) (start : Int) :
    items.countP (fun item => start ≤ clock item ∧ clock item ≤ start + width) ≤ 2 * most := by
  have covered : ∀ item ∈ items, decide (start ≤ clock item ∧ clock item ≤ start + width) = true →
      (decide (clock item / width = start / width) || decide (clock item / width = start / width + 1)) = true := by
    intro item _ inside
    obtain ⟨after, before⟩ := of_decide_eq_true inside
    have low : start / width ≤ clock item / width := Int.ediv_le_ediv positive after
    have next : (start + width) / width = start / width + 1 := by
      simpa using Int.add_mul_ediv_right start 1 (show width ≠ 0 by omega)
    have high : clock item / width ≤ start / width + 1 := next ▸ Int.ediv_le_ediv positive before
    simp only [Bool.or_eq_true, decide_eq_true_eq]
    omega
  calc
    _ ≤ _ := List.countP_mono_left covered
    _ ≤ _ := countP_or_le _ _ items
    _ ≤ most + most := Nat.add_le_add (bound _) (bound _)
    _ = 2 * most := (Nat.two_mul most).symm

end

end Tally
