import ArgosCore.Foundations.GapGroups
import Mathlib.Algebra.BigOperators.Group.List.Lemmas
import Mathlib.Algebra.Ring.Nat

/-! What more items do to the groups. A group stays together, so groups grow, join and
appear, and none is lost or cut. How many groups meet a condition that growth does not
undo changes by those that appear and those that join. -/

namespace Gaps
open Buckets Relation

variable {α κ : Type} {time : α → Int} {window : Int} {items larger run : List α}

theorem Step.mono {left right : α} (step : Step time window items left right) (subset : items ⊆ larger) :
    Step time window larger left right := ⟨subset step.leftMem, subset step.rightMem, step.near⟩

theorem exists_run_subset (first : Ordered time items) (second : Ordered time larger) (subset : items ⊆ larger)
    (found : run ∈ runs time window items) : ∃ whole ∈ runs time window larger, run ⊆ whole := by
  obtain ⟨item, inside⟩ := List.exists_mem_of_ne_nil run (List.ne_nil_of_mem_splitBy found)
  obtain ⟨whole, wholeFound, within⟩ : ∃ whole ∈ runs time window larger, item ∈ whole :=
    exists_run (subset (mem_of_mem_run found inside))
  refine ⟨whole, wholeFound, fun other member => ?_⟩
  have linked := (mem_run_iff_linked first found inside).mp member
  have wider : Step time window items ≤ Step time window larger := fun _ _ step => step.mono subset
  exact (mem_run_iff_linked second wholeFound within).mpr (ReflTransGen.mono wider _ _ linked)

section
variable [DecidableEq κ] {key : α → κ} {part whole : List α}

theorem exists_group_subset (subset : items ⊆ larger) (found : part ∈ grouped key time window items) :
    ∃ whole ∈ grouped key time window larger, part ⊆ whole := by
  obtain ⟨value, inside⟩ := mem_grouped.mp found
  have among : ByKey.sortedOn time (ofKey key items value) ⊆ ByKey.sortedOn time (ofKey key larger value) := by
    intro item member
    obtain ⟨old, same⟩ := mem_ofKey.mp (ByKey.mem_sortedOn.mp member)
    exact ByKey.mem_sortedOn.mpr (mem_ofKey.mpr ⟨subset old, same⟩)
  obtain ⟨whole, wholeFound, within⟩ :=
    exists_run_subset (ByKey.pairwise_sortedOn ..) (ByKey.pairwise_sortedOn ..) among inside
  exact ⟨whole, mem_grouped.mpr ⟨value, wholeFound⟩, within⟩

theorem grouped_disjoint (forward : 0 ≤ window) (key : α → κ) (items : List α) :
    (grouped key time window items).Pairwise List.Disjoint := by
  refine (grouped_apart key time window items).imp fun apart item first second => ?_
  have gap := apart item first item second rfl
  omega

theorem subperm_of_subset (forward : 0 ≤ window) (among : items.Subperm larger) (found : part ∈ grouped key time window items)
    (wholeFound : whole ∈ grouped key time window larger) (subset : part ⊆ whole) : part.Subperm whole := by
  obtain ⟨value, inside⟩ := mem_grouped.mp found
  obtain ⟨wholeValue, wholeInside⟩ := mem_grouped.mp wholeFound
  obtain ⟨item, member⟩ := List.exists_mem_of_ne_nil part (List.ne_nil_of_mem_splitBy inside)
  have same : value = wholeValue := by
    rw [← (mem_ofKey.mp (ByKey.mem_sortedOn.mp (mem_of_mem_run inside member))).2]
    exact (mem_ofKey.mp (ByKey.mem_sortedOn.mp (mem_of_mem_run wholeInside (subset member)))).2
  subst same
  have sorted : (ByKey.sortedOn time (ofKey key items value)).Subperm (ByKey.sortedOn time (ofKey key larger value)) :=
    (ByKey.sortedOn_perm ..).subperm.trans ((among.filter _).trans (ByKey.sortedOn_perm ..).symm.subperm)
  have piece : part.Sublist (ByKey.sortedOn time (ofKey key items value)) := by
    rw [← List.flatten_splitBy (close time window) (ByKey.sortedOn _ _)]
    exact List.sublist_flatten_of_mem inside
  have kept : part.filter (time · ∈ whole.map time) = part :=
    List.filter_eq_self.mpr fun item inside => decide_eq_true (List.mem_map_of_mem (subset inside))
  have both := (piece.subperm.trans sorted).filter fun item => time item ∈ whole.map time
  rwa [kept, filter_run forward (ByKey.pairwise_sortedOn ..) wholeInside] at both

end

private theorem sum_map_indicator {β : Type} (wanted : β → Bool) (items : List β) :
    (items.map fun item => if wanted item = true then 1 else 0).sum = items.countP wanted := by
  induction items with
  | nil => rfl
  | cons item items ih => rw [List.map_cons, List.sum_cons, List.countP_cons, Nat.add_comm, ih]

private theorem sum_map_countP_comm {β : Type} (holds : α → β → Bool) (parts : List α) (wholes : List β) :
    (wholes.map fun whole => parts.countP (holds · whole)).sum = (parts.map fun part => wholes.countP (holds part)).sum := by
  induction parts with
  | nil => simp
  | cons part parts ih =>
    simp only [List.countP_cons, List.sum_map_add, List.map_cons, List.sum_cons, ih, sum_map_indicator]
    omega

private theorem countP_eq_one {β : Type} {holds : β → Bool} {wholes : List β} (some : ∃ whole ∈ wholes, holds whole = true)
    (apart : wholes.Pairwise fun one other => ¬ (holds one = true ∧ holds other = true)) : wholes.countP holds = 1 := by
  induction apart with
  | nil => simp at some
  | @cons first wholes alone _ ih =>
    by_cases here : holds first = true
    · have none : wholes.countP holds = 0 := List.countP_eq_zero.mpr fun other inside also => alone other inside ⟨here, also⟩
      rw [List.countP_cons_of_pos here, none]
    · obtain ⟨whole, inside, held⟩ := some
      rcases List.mem_cons.mp inside with rfl | later
      · exact absurd held here
      · rw [List.countP_cons_of_neg here, ih ⟨whole, later, held⟩]

section
variable [DecidableEq α] [DecidableEq κ]

def held (key : α → κ) (time : α → Int) (window : Int) (items : List α) (fires : List α → Bool) (whole : List α) : Nat :=
  (grouped key time window items).countP fun part => fires part && decide (part ⊆ whole)

/-- Groups that meet the condition and hold none that met it before. -/
def appeared (key : α → κ) (time : α → Int) (window : Int) (items larger : List α) (fires : List α → Bool) : Nat :=
  (grouped key time window larger).countP fun whole => fires whole && held key time window items fires whole = 0

/-- Groups that met the condition and have become one with another such group. -/
def joined (key : α → κ) (time : α → Int) (window : Int) (items larger : List α) (fires : List α → Bool) : Nat :=
  ((grouped key time window larger).map fun whole => held key time window items fires whole - 1).sum

variable {key : α → κ} {fires : List α → Bool}

theorem sum_held (forward : 0 ≤ window) (subset : items ⊆ larger) :
    ((grouped key time window larger).map (held key time window items fires)).sum =
      (grouped key time window items).countP fires := by
  have one (part : List α) (found : part ∈ (grouped key time window items).filter fires) :
      (grouped key time window larger).countP (fun whole => decide (part ⊆ whole)) = 1 := by
    have inside := (List.mem_filter.mp found).1
    obtain ⟨whole, wholeFound, within⟩ := exists_group_subset subset inside
    refine countP_eq_one ⟨whole, wholeFound, decide_eq_true within⟩ ?_
    refine (grouped_disjoint forward key larger).imp fun {one other} apart both => ?_
    obtain ⟨item, member⟩ := List.exists_mem_of_ne_nil part (group_of_mem inside).nonempty
    exact apart (of_decide_eq_true both.1 member) (of_decide_eq_true both.2 member)
  have counted : held key time window items fires =
      fun whole => ((grouped key time window items).filter fires).countP fun part => decide (part ⊆ whole) := by
    funext whole
    rw [held, List.countP_filter]
    simp only [Bool.and_comm]
  rw [counted, sum_map_countP_comm fun (part whole : List α) => decide (part ⊆ whole), List.map_congr_left one,
    List.countP_eq_length_filter, List.map_const', List.sum_replicate_nat, Nat.mul_one]

/-- The balance of the groups that meet a condition which growth does not undo. -/
theorem countP_grouped_balance (forward : 0 ≤ window) (among : items.Subperm larger)
    (grows : ∀ part whole : List α, part.Subperm whole → fires part = true → fires whole = true) :
    (grouped key time window items).countP fires + appeared key time window items larger fires =
      (grouped key time window larger).countP fires + joined key time window items larger fires := by
  have firing (whole : List α) (found : whole ∈ grouped key time window larger)
      (some : held key time window items fires whole ≠ 0) : fires whole = true := by
    obtain ⟨part, inside, both⟩ := List.countP_pos_iff.mp (Nat.pos_of_ne_zero some)
    obtain ⟨met, within⟩ := Bool.and_eq_true_iff.mp both
    exact grows part whole (subperm_of_subset forward among inside found (of_decide_eq_true within)) met
  rw [← sum_held forward among.subset, appeared, joined]
  generalize grouped key time window larger = wholes at firing
  induction wholes with
  | nil => rfl
  | cons whole wholes ih =>
    obtain ⟨here, rest⟩ := List.forall_mem_cons.mp firing
    have others := ih rest
    simp only [List.map_cons, List.sum_cons, List.countP_cons]
    by_cases none : held key time window items fires whole = 0
    · simp only [none, decide_true, Bool.and_true]
      omega
    · simp only [none, here none, decide_false, Bool.and_false, if_true, Bool.false_eq_true, if_false]
      omega

end

/-- Copies of one item are not parted. -/
theorem length_grouped_replicate_le [DecidableEq κ] (forward : 0 ≤ window) (key : α → κ) (time : α → Int) (count : Nat)
    (item : α) : (grouped key time window (List.replicate count item)).length ≤ 1 := by
  have apart : (grouped key time window (List.replicate count item)).Pairwise List.Disjoint := grouped_disjoint forward key _
  have whole := flatten_grouped_perm key time window (List.replicate count item)
  have holds : ∀ group ∈ grouped key time window (List.replicate count item), item ∈ group := by
    intro group found
    obtain ⟨other, inside⟩ := List.exists_mem_of_ne_nil group (group_of_mem found).nonempty
    have copy := List.eq_of_mem_replicate (whole.mem_iff.mp (List.mem_flatten.mpr ⟨group, found, inside⟩))
    exact copy ▸ inside
  match grouped key time window (List.replicate count item), apart, holds with
  | [], _, _ => exact Nat.zero_le 1
  | [_], _, _ => exact Nat.le_refl 1
  | first :: second :: _, apart, holds =>
    have disjoint := (List.pairwise_cons.mp apart).1 second List.mem_cons_self
    exact absurd (holds second (by simp)) (disjoint (holds first List.mem_cons_self))

theorem length_group_of_negative {key : α → κ} (backward : window < 0) {group : List α} (formed : Group key time window group) :
    group.length = 1 := by
  match group, formed with
  | [], formed => exact absurd rfl formed.nonempty
  | [_], _ => rfl
  | first :: second :: rest, formed =>
    have near : time second - time first ≤ window := of_decide_eq_true (List.isChain_cons_cons.mp formed.near).1
    have upward := (List.pairwise_cons.mp formed.ordered).1 second List.mem_cons_self
    omega

theorem length_grouped_of_negative [DecidableEq κ] (backward : window < 0) (key : α → κ) (items : List α) :
    (grouped key time window items).length = items.length := by
  have single : ∀ group ∈ grouped key time window items, group.length = 1 :=
    fun _ found => length_group_of_negative backward (group_of_mem found)
  rw [← (flatten_grouped_perm key time window items).length_eq, List.length_flatten, List.map_congr_left single,
    List.map_const', List.sum_replicate_nat, Nat.mul_one]

end Gaps
