import ArgosCore.Foundations.GapGroups

/-! Grouping batch by batch. Where no key is heard of within a window of the batches before, the
groups of all batches are those of each. -/

namespace Gaps
open Buckets

variable {α β κ : Type} {time : α → Int} {window : Int} {items later : List α}

section
variable [DecidableEq κ] {key : α → κ}

def Quiet (key : α → κ) (time : α → Int) (window : Int) (items later : List α) : Prop :=
  ∀ before ∈ items, ∀ after ∈ later, key before = key after → window < time after - time before

theorem flatMap_known_perm {known keys : List κ} (distinct : known.Nodup) (distinct' : keys.Nodup) (subset : keys ⊆ known)
    {content : κ → List β} (none : ∀ value ∉ keys, content value = []) :
    (known.flatMap content).Perm (keys.flatMap content) := by
  have same : known.flatMap content = (known.filter (· ∈ keys)).flatMap content := by
    clear distinct subset
    induction known with
    | nil => rfl
    | cons value known ih =>
      rw [List.flatMap_cons, ih, List.filter_cons]
      by_cases inside : value ∈ keys
      · rw [if_pos (decide_eq_true inside), List.flatMap_cons]
      · rw [if_neg (by simp [inside]), none value inside, List.nil_append]
  rw [same]
  apply List.Perm.flatMap_right
  rw [List.perm_ext_iff_of_nodup (distinct.filter _) distinct']
  intro value
  rw [List.mem_filter, decide_eq_true_eq]
  exact ⟨And.right, fun inside => ⟨subset inside, inside⟩⟩

theorem grouped_known_perm {known : List κ} (distinct : known.Nodup) (subset : keys key items ⊆ known) :
    (known.flatMap fun value => runs time window (ByKey.sortedOn time (ofKey key items value))).Perm
      (grouped key time window items) := by
  apply flatMap_known_perm distinct (nodup_keys key items) subset
  intro value absent
  rw [ofKey_eq_nil absent]
  rfl

/-- Two batches with a quiet window between them. -/
theorem grouped_append_perm (forward : 0 ≤ window) (quiet : Quiet key time window items later) :
    (grouped key time window (items ++ later)).Perm (grouped key time window items ++ grouped key time window later) := by
  have each (value : κ) : runs time window (ByKey.sortedOn time (ofKey key (items ++ later) value)) =
      runs time window (ByKey.sortedOn time (ofKey key items value)) ++
        runs time window (ByKey.sortedOn time (ofKey key later value)) := by
    have apart : ∀ before ∈ ofKey key items value, ∀ after ∈ ofKey key later value, window < time after - time before := by
      intro before inside after inside'
      obtain ⟨among, same⟩ := mem_ofKey.mp inside
      obtain ⟨among', same'⟩ := mem_ofKey.mp inside'
      exact quiet before among after among' (same.trans same'.symm)
    have split : ofKey key (items ++ later) value = ofKey key items value ++ ofKey key later value := List.filter_append ..
    rw [split, ByKey.sortedOn_append, runs_append]
    · intro last ended next started
      exact apart last (ByKey.mem_sortedOn.mp (List.mem_of_mem_getLast? ended)) next
        (ByKey.mem_sortedOn.mp (List.mem_of_mem_head? started))
    · intro before inside after inside'
      have far := apart before inside after inside'
      omega
  have known {part : List α} (among : part ⊆ items ++ later) : keys key part ⊆ keys key (items ++ later) := by
    intro value inside
    obtain ⟨item, member, same⟩ := mem_keys.mp inside
    exact mem_keys.mpr ⟨item, among member, same⟩
  have distinct := nodup_keys key (items ++ later)
  rw [grouped, List.flatMap_congr fun value _ => each value]
  apply (List.flatMap_append_perm ..).symm.trans
  apply List.Perm.append
  · exact grouped_known_perm distinct (known (List.subset_append_left ..))
  · exact grouped_known_perm distinct (known (List.subset_append_right ..))

theorem grouped_batches_perm (forward : 0 ≤ window) {batches : List (List α)}
    (quiet : batches.Pairwise (Quiet key time window)) :
    (grouped key time window batches.flatten).Perm (batches.flatMap (grouped key time window)) := by
  induction quiet with
  | nil => exact .refl _
  | @cons batch batches first _ ih =>
    have apart : Quiet key time window batch batches.flatten := by
      intro before inside after among
      obtain ⟨other, member, held⟩ := List.mem_flatten.mp among
      exact first other member before inside after held
    rw [List.flatten_cons, List.flatMap_cons]
    exact (grouped_append_perm forward apart).trans (ih.append_left _)

end

end Gaps
