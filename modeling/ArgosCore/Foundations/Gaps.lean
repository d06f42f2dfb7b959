import Mathlib.Data.List.Pairwise
import Mathlib.Data.List.Perm.Subperm
import Mathlib.Data.List.SplitBy
import Mathlib.Logic.Relation

/-! Splitting a list that is ordered in time wherever the next item is too far away. Two
items share a run exactly when steps of at most the window lead from one to the other. -/

namespace Gaps
open Relation

variable {α : Type} {time : α → Int} {window : Int} {items run : List α}

def close (time : α → Int) (window : Int) (before after : α) : Bool := time after - time before ≤ window

def runs (time : α → Int) (window : Int) (items : List α) : List (List α) := items.splitBy (close time window)

abbrev Ordered (time : α → Int) (items : List α) : Prop := items.Pairwise fun before after => time before ≤ time after

/-- The loop over items with their times: a gap wider than the window closes the run. -/
def cut (window : Int) : List (Int × α) → List α → Option Int → List (List α)
  | [], current, _ => if current.isEmpty then [] else [current]
  | (time, item) :: later, current, last =>
    if last.any fun last => time - last > window then current :: cut window later [item] (some time)
    else cut window later (current ++ [item]) (some time)

private theorem cut_loop (time : α → Int) (window : Int) (later : List α) (ended : α) (group : List α)
    (groups : List (List α)) :
    groups.reverse ++ cut window (later.map fun item => (time item, item)) (ended :: group).reverse (some (time ended)) =
      List.splitBy.loop (close time window) later ended group groups := by
  induction later generalizing ended group groups with
  | nil => simp [cut, List.splitBy.loop]
  | cons item later ih =>
    rw [List.map_cons, cut, List.splitBy.loop, close]
    by_cases wide : time item - time ended > window
    · rw [if_pos (by simpa using wide), decide_eq_false (by omega)]
      simpa using ih item [] ((ended :: group).reverse :: groups)
    · rw [if_neg (by simpa using wide), decide_eq_true (by omega)]
      simpa using ih item (ended :: group) groups

theorem cut_eq_runs (time : α → Int) (window : Int) (items : List α) :
    cut window (items.map fun item => (time item, item)) [] none = runs time window items := by
  cases items with
  | nil => rfl
  | cons item items => exact cut_loop time window items item [] []

structure Step (time : α → Int) (window : Int) (items : List α) (left right : α) : Prop where
  leftMem : left ∈ items
  rightMem : right ∈ items
  near : time left - time right ≤ window ∧ time right - time left ≤ window

instance : Std.Symm (Step time window items) where
  symm _ _ step := ⟨step.rightMem, step.leftMem, step.near.symm⟩

theorem exists_run {item : α} (inside : item ∈ items) : ∃ run ∈ runs time window items, item ∈ run := by
  rw [← List.flatten_splitBy (close time window) items] at inside
  exact List.mem_flatten.mp inside

theorem mem_of_mem_run (found : run ∈ runs time window items) {item : α} (inside : item ∈ run) : item ∈ items := by
  rw [← List.flatten_splitBy (close time window) items]
  exact List.mem_flatten_of_mem found inside

theorem ordered_run (ordered : Ordered time items) (found : run ∈ runs time window items) : Ordered time run := by
  rw [Ordered, ← List.flatten_splitBy (close time window) items, List.pairwise_flatten] at ordered
  exact ordered.1 run found

private theorem isChain_step (chain : run.IsChain fun before after => close time window before after)
    (ordered : Ordered time run) (subset : run ⊆ items) : run.IsChain (Step time window items) := by
  induction chain with
  | nil => exact .nil
  | singleton item => exact .singleton item
  | @cons_cons before after rest near _ ih =>
    obtain ⟨first, later⟩ := List.pairwise_cons.mp ordered
    have upward : time before ≤ time after := first after List.mem_cons_self
    have near : time after - time before ≤ window := of_decide_eq_true near
    refine .cons_cons ⟨subset (by simp), subset (by simp), by omega, near⟩ (ih later ?_)
    exact fun item inside => subset (List.mem_cons_of_mem _ inside)

theorem linked_of_mem_run (ordered : Ordered time items) (found : run ∈ runs time window items) {left right : α}
    (leftInside : left ∈ run) (rightInside : right ∈ run) : ReflTransGen (Step time window items) left right := by
  have steps : run.IsChain (Step time window items) :=
    isChain_step (List.isChain_of_mem_splitBy found) (ordered_run ordered found) fun _ => mem_of_mem_run found
  have links : run.Pairwise (ReflTransGen (Step time window items)) :=
    List.isChain_iff_pairwise.mp (steps.imp fun _ _ => .single)
  apply links.forall_of_forall (fun _ _ => .refl) leftInside rightInside

/-- Everything in the one run is more than a window before everything in the other. -/
def Apart (time : α → Int) (window : Int) (first second : List α) : Prop :=
  ∀ before ∈ first, ∀ after ∈ second, window < time after - time before

private theorem apart_cons {first : List α} {others : List (List α)} (ordered : Ordered time (first ++ others.flatten))
    (gap : ∀ second ∈ others.head?, ∃ ended started,
      close time window (first.getLast ended) (second.head started) = false) :
    ∀ second ∈ others, Apart time window first second := by
  obtain ⟨firstOrdered, laterOrdered, -⟩ := List.pairwise_append.mp ordered
  cases others with
  | nil => simp
  | cons next others =>
    obtain ⟨ended, started, far⟩ := gap next rfl
    have far : ¬ time (next.head started) - time (first.getLast ended) ≤ window := of_decide_eq_false far
    intro second found before beforeInside after afterInside
    have last : time before ≤ time (first.getLast ended) :=
      firstOrdered.rel_getLast_of_rel_getLast_getLast beforeInside Int.le_rfl
    have head : time (next.head started) ≤ time after := by
      have inside : after ∈ (next :: others).flatten := List.mem_flatten_of_mem found afterInside
      have begins : (next :: others).flatten.head (List.ne_nil_of_mem inside) = next.head started := by
        simp only [List.flatten_cons, List.head_append_of_ne_nil started]
      rw [← begins]
      exact laterOrdered.rel_head_of_rel_head_head inside Int.le_rfl
    omega

theorem runs_apart (ordered : Ordered time items) : (runs time window items).Pairwise (Apart time window) := by
  have gaps := List.isChain_getLast_head_splitBy (close time window) items
  rw [Ordered, ← List.flatten_splitBy (close time window) items] at ordered
  rw [runs]
  generalize items.splitBy (close time window) = groups at gaps ordered
  induction groups with
  | nil => exact .nil
  | cons first others ih =>
    rw [List.isChain_cons] at gaps
    rw [List.flatten_cons] at ordered
    refine List.pairwise_cons.mpr ⟨apart_cons ordered gaps.1, ih gaps.2 ?_⟩
    exact (List.pairwise_append.mp ordered).2.1

/-- A part of the list without a gap wider than the window, between two such gaps. -/
structure Stretch (time : α → Int) (window : Int) (items run : List α) : Prop where
  nonempty : run ≠ []
  near : run.IsChain fun before after => time after - time before ≤ window
  apart : ∃ before after, items = before ++ run ++ after ∧
    (∀ last ∈ before.getLast?, ∀ first ∈ run.head?, window < time first - time last) ∧
    ∀ last ∈ run.getLast?, ∀ first ∈ after.head?, window < time first - time last

theorem runs_append {first second : List α}
    (gap : ∀ last ∈ first.getLast?, ∀ next ∈ second.head?, window < time next - time last) :
    runs time window (first ++ second) = runs time window first ++ runs time window second := by
  apply List.splitBy_append
  intro last ended next started
  have wide := gap last ended next started
  exact decide_eq_false (by omega)

/-- The runs are the stretches. -/
theorem mem_runs_iff (ordered : Ordered time items) : run ∈ runs time window items ↔ Stretch time window items run := by
  constructor
  · intro found
    have apart : (runs time window items).Pairwise (Apart time window) := runs_apart ordered
    have whole := List.flatten_splitBy (close time window) items
    have near := List.isChain_of_mem_splitBy found
    refine ⟨List.ne_nil_of_mem_splitBy found, near.imp fun _ _ close => of_decide_eq_true close, ?_⟩
    obtain ⟨before, after, parts⟩ := List.append_of_mem found
    rw [← runs, parts, List.flatten_append, List.flatten_cons, ← List.append_assoc] at whole
    rw [parts] at apart
    obtain ⟨_, later, across⟩ := List.pairwise_append.mp apart
    refine ⟨before.flatten, after.flatten, whole.symm, ?_, ?_⟩
    · intro last ended first started
      obtain ⟨group, member, inside⟩ := List.mem_flatten.mp (List.mem_of_mem_getLast? ended)
      exact across group member run List.mem_cons_self last inside first (List.mem_of_mem_head? started)
    · intro last ended first started
      obtain ⟨group, member, inside⟩ := List.mem_flatten.mp (List.mem_of_mem_head? started)
      exact (List.pairwise_cons.mp later).1 group member last (List.mem_of_mem_getLast? ended) first inside
  · intro ⟨nonempty, near, before, after, whole, startGap, endGap⟩
    have single : runs time window run = [run] := List.splitBy_of_isChain nonempty (near.imp fun _ _ => decide_eq_true)
    have startsRun : (run ++ after).head? = run.head? := List.head?_append_of_ne_nil _ nonempty
    rw [whole, List.append_assoc, runs_append (startsRun.symm ▸ startGap), runs_append endGap, single]
    simp

private theorem filter_before_start (ordered : Ordered time items) (stop : Int) :
    items.filter (fun item => time item ≤ stop) <+: items := by
  induction ordered with
  | nil => exact List.prefix_rfl
  | @cons item items later _ ih =>
    by_cases inside : time item ≤ stop
    · rw [List.filter_cons_of_pos (by simpa using inside)]
      exact (List.prefix_cons_inj item).mpr ih
    · have none : (item :: items).filter (fun item => time item ≤ stop) = [] := by
        rw [List.filter_eq_nil_iff, List.forall_mem_cons]
        refine ⟨by simpa using inside, fun other member within => ?_⟩
        have after := later other member
        have within := of_decide_eq_true within
        omega
      rw [none]
      exact List.nil_prefix

private theorem filter_after_suffix (ordered : Ordered time items) (start : Int) :
    items.filter (fun item => start ≤ time item) <:+ items := by
  induction ordered with
  | nil => exact List.suffix_rfl
  | @cons item items later _ ih =>
    by_cases inside : start ≤ time item
    · have all : (item :: items).filter (fun item => start ≤ time item) = item :: items := by
        rw [List.filter_eq_self, List.forall_mem_cons]
        refine ⟨by simpa using inside, fun other member => decide_eq_true ?_⟩
        exact Int.le_trans inside (later other member)
      exact ⟨[], all⟩
    · rw [List.filter_cons_of_neg (by simpa using inside)]
      exact ih.trans (List.suffix_cons item items)

theorem filter_interval_infix (ordered : Ordered time items) (start stop : Int) :
    items.filter (fun item => start ≤ time item ∧ time item ≤ stop) <:+: items := by
  have both : items.filter (fun item => start ≤ time item ∧ time item ≤ stop) =
      (items.filter fun item => start ≤ time item).filter fun item => time item ≤ stop := by
    rw [List.filter_filter]
    simp only [Bool.decide_and, Bool.and_comm]
  rw [both]
  exact (filter_before_start (ordered.filter _) stop).isInfix.trans (filter_after_suffix ordered start).isInfix

def Burst (time : α → Int) (window : Int) (items burst : List α) : Prop :=
  burst <:+: items ∧ ∀ first ∈ burst, ∀ last ∈ burst, time last - time first ≤ window

/-- As many items as can be found within an interval can be found next to each other. -/
theorem exists_burst_iff (ordered : Ordered time items) (count : Nat) :
    (∃ burst, Burst time window items burst ∧ burst.length = count) ↔
      ∃ some : List α, some.Subperm items ∧ count ≤ some.length ∧
        ∃ start, ∀ item ∈ some, start ≤ time item ∧ time item ≤ start + window := by
  constructor
  · rintro ⟨burst, ⟨part, near⟩, rfl⟩
    refine ⟨burst, part.sublist.subperm, Nat.le_refl _, ?_⟩
    cases burst with
    | nil => exact ⟨0, by simp⟩
    | cons first rest =>
      refine ⟨time first, fun item inside => ⟨?_, ?_⟩⟩
      · rcases List.mem_cons.mp inside with rfl | later
        · exact Int.le_refl _
        · exact (List.pairwise_cons.mp (ordered.sublist part.sublist)).1 item later
      · have spread := near first List.mem_cons_self item inside
        omega
  · rintro ⟨some, among, enough, start, within⟩
    have inner := filter_interval_infix ordered start (start + window)
    have kept : some.filter (fun item => start ≤ time item ∧ time item ≤ start + window) = some :=
      List.filter_eq_self.mpr fun item inside => decide_eq_true (within item inside)
    have length := (among.filter fun item => decide (start ≤ time item ∧ time item ≤ start + window)).length_le
    rw [kept] at length
    refine ⟨_, ⟨(List.take_prefix count _).isInfix.trans inner, ?_⟩, List.length_take_of_le (enough.trans length)⟩
    intro first firstInside last lastInside
    have early := of_decide_eq_true (List.mem_filter.mp (List.mem_of_mem_take firstInside)).2
    have late := of_decide_eq_true (List.mem_filter.mp (List.mem_of_mem_take lastInside)).2
    omega

theorem mem_run_of_step (ordered : Ordered time items) (found : run ∈ runs time window items) {left right : α}
    (step : Step time window items left right) (inside : left ∈ run) : right ∈ run := by
  obtain ⟨other, otherFound, otherInside⟩ := exists_run step.rightMem
  by_cases same : run = other
  · exact same ▸ otherInside
  · have _ : Std.Symm fun first second => Apart time window first second ∨ Apart time window second first :=
      ⟨fun _ _ => Or.symm⟩
    have eitherWay : (runs time window items).Pairwise fun first second =>
        Apart time window first second ∨ Apart time window second first := (runs_apart ordered).imp Or.inl
    have near := step.near
    rcases eitherWay.forall found otherFound same with before | after
    · have := before left inside right otherInside
      omega
    · have := after right otherInside left inside
      omega

theorem mem_run_iff_linked (ordered : Ordered time items) (found : run ∈ runs time window items) {left right : α}
    (inside : left ∈ run) : right ∈ run ↔ ReflTransGen (Step time window items) left right := by
  constructor
  · exact linked_of_mem_run ordered found inside
  · intro linked
    induction linked with
    | refl => exact inside
    | tail _ step ih => exact mem_run_of_step ordered found step ih

end Gaps
