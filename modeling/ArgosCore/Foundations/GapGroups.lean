import ArgosCore.Foundations.Buckets
import ArgosCore.Foundations.ByKey
import ArgosCore.Foundations.Fallible
import ArgosCore.Foundations.Gaps

/-! The runs of the items of every key, one key after another. Which runs there are, up to
the order of items of one time, does not depend on the order of the items. -/

namespace Gaps
open Buckets Relation

variable {α β κ ι : Type} {time : α → Int} {window : Int} {items run : List α}

theorem runs_map (time : β → Int) (window : Int) (view : α → β) (items : List α) :
    runs time window (items.map view) = (runs (time ∘ view) window items).map (List.map view) := by
  obtain ⟨whole, nonempty, chains, gaps⟩ :=
    (List.splitBy_eq_iff (r := close (time ∘ view) window) (m := items)).mp rfl
  rw [runs, List.splitBy_eq_iff]
  refine ⟨?_, ?_, ?_, ?_⟩
  · rw [← List.map_flatten, runs, ← whole]
  · rw [List.mem_map]
    rintro ⟨run, found, none⟩
    exact nonempty (List.map_eq_nil_iff.mp none ▸ found)
  · intro viewed found
    obtain ⟨run, inside, rfl⟩ := List.mem_map.mp found
    exact (List.isChain_map _).mpr (chains run inside)
  · rw [List.isChain_map]
    refine gaps.imp ?_
    rintro first second ⟨ended, started, far⟩
    refine ⟨by simpa using ended, by simpa using started, ?_⟩
    rw [List.getLast_map, List.head_map]
    exact far

/-- Items that follow one another closely lie in one run, whatever was left out between them. -/
theorem exists_run_of_chain {chain : List α} (nonempty : chain ≠ [])
    (near : chain.IsChain fun before after => close time window before after) (ordered : Ordered time items)
    (inside : chain.Sublist items) : ∃ run ∈ runs time window items, chain.Sublist run := by
  have apart : (runs time window items).Pairwise (Apart time window) := runs_apart ordered
  rw [← List.flatten_splitBy (close time window) items] at inside
  rw [runs] at apart ⊢
  generalize items.splitBy (close time window) = groups at apart inside
  induction groups with
  | nil => exact absurd (List.sublist_nil.mp inside) nonempty
  | cons first others ih =>
    obtain ⟨before, rest⟩ := List.pairwise_cons.mp apart
    rw [List.flatten_cons] at inside
    obtain ⟨early, late, rfl, here, later⟩ := List.sublist_append_iff.mp inside
    rcases late.eq_nil_or_concat with rfl | ⟨_, _, lateFilled⟩
    · exact ⟨first, List.mem_cons_self, by simpa using here⟩
    · rcases early.eq_nil_or_concat with rfl | ⟨_, _, earlyFilled⟩
      · obtain ⟨run, found, within⟩ := ih rest later
        exact ⟨run, List.mem_cons_of_mem _ found, within⟩
      · -- the step across the two parts would be closer than the runs are
        exfalso
        have across := (List.isChain_append.mp near).2.2
        have some : early ≠ [] ∧ late ≠ [] := by simp [earlyFilled, lateFilled]
        have step : time (late.head some.2) - time (early.getLast some.1) ≤ window :=
          of_decide_eq_true (across _ (List.getLast_mem_getLast? some.1) _ (List.head_mem_head? some.2))
        obtain ⟨other, found, member⟩ := List.mem_flatten.mp (later.subset (List.head_mem some.2))
        have gap := before other found _ (here.subset (List.getLast_mem some.1)) _ member
        omega

theorem filter_run (forward : 0 ≤ window) (ordered : Ordered time items) (found : run ∈ runs time window items) :
    items.filter (fun item => time item ∈ run.map time) = run := by
  have apart : (runs time window items).Pairwise (Apart time window) := runs_apart ordered
  have whole := List.flatten_splitBy (close time window) items
  rw [← runs] at whole
  obtain ⟨before, after, parts⟩ := List.append_of_mem found
  rw [parts] at whole apart
  obtain ⟨_, later, across⟩ := List.pairwise_append.mp apart
  have others (group : List α) (elsewhere : group ∈ before ∨ group ∈ after) : group.filter (time · ∈ run.map time) = [] := by
    rw [List.filter_eq_nil_iff]
    intro item inside met
    obtain ⟨other, member, same⟩ := List.mem_map.mp (of_decide_eq_true met)
    rcases elsewhere with early | late
    · have gap := across group early run List.mem_cons_self item inside other member
      omega
    · have gap := (List.pairwise_cons.mp later).1 group late other member item inside
      omega
  have none (groups : List (List α)) (elsewhere : ∀ group ∈ groups, group ∈ before ∨ group ∈ after) :
      groups.flatten.filter (time · ∈ run.map time) = [] := by
    rw [List.filter_flatten, List.flatten_eq_nil_iff]
    intro part inside
    obtain ⟨group, member, rfl⟩ := List.mem_map.mp inside
    exact others group (elsewhere group member)
  have all : run.filter (time · ∈ run.map time) = run :=
    List.filter_eq_self.mpr fun item inside => decide_eq_true (List.mem_map_of_mem inside)
  rw [← whole, List.flatten_append, List.flatten_cons, List.filter_append, List.filter_append, all,
    none before fun _ => .inl, none after fun _ => .inr, List.nil_append, List.append_nil]

theorem runs_exchanges (forward : 0 ≤ window) {left right : List α} (perm : left.Perm right) (first : Ordered time left)
    (second : Ordered time right) :
    List.Forall₂ (ReflTransGen (ByKey.Exchange time)) (runs time window left) (runs time window right) := by
  have times : left.map time = right.map time :=
    (perm.map time).eq_of_pairwise' (List.pairwise_map.mpr first) (List.pairwise_map.mpr second)
  have alike : (runs time window left).map (List.map time) = (runs time window right).map (List.map time) := by
    have seen (items : List α) : (runs time window items).map (List.map time) = runs id window (items.map time) :=
      (runs_map id window time items).symm
    rw [seen, seen, times]
  rw [← List.forall₂_eq_eq_eq, List.forall₂_map_left_iff, List.forall₂_map_right_iff, List.forall₂_iff_zip] at alike
  refine List.forall₂_iff_zip.mpr ⟨alike.1, fun {one other} paired => ?_⟩
  obtain ⟨oneFound, otherFound⟩ := List.of_mem_zip paired
  have same : one.map time = other.map time := alike.2 paired
  have parts : one.Perm other := by
    rw [← filter_run forward first oneFound, ← filter_run forward second otherFound, same]
    exact perm.filter _
  exact ByKey.exchanges_of_perm parts (ordered_run first oneFound) (ordered_run second otherFound)

section
variable [DecidableEq κ] [DecidableEq ι]

def grouped (key : α → κ) (time : α → Int) (window : Int) (items : List α) : List (List α) :=
  (keys key items).flatMap fun value => runs time window (ByKey.sortedOn time (ofKey key items value))

variable {key : α → κ} {group : List α}

theorem mem_grouped :
    group ∈ grouped key time window items ↔ ∃ value, group ∈ runs time window (ByKey.sortedOn time (ofKey key items value)) := by
  rw [grouped, List.mem_flatMap]
  constructor
  · intro ⟨value, _, found⟩
    exact ⟨value, found⟩
  · intro ⟨value, found⟩
    refine ⟨value, ?_, found⟩
    obtain ⟨item, inside⟩ := List.exists_mem_of_ne_nil _ (List.ne_nil_of_mem_splitBy found)
    obtain ⟨among, same⟩ := mem_ofKey.mp (ByKey.mem_sortedOn.mp (mem_of_mem_run found inside))
    exact mem_keys.mpr ⟨item, among, same⟩

/-- Sorting the bucket of every key and cutting it at its gaps gives the groups, if every bucket
can be sorted. -/
theorem mapM_buckets_ok_iff {ε : Type} {sort : List α → Except ε (List (Int × α))} {sortable : List α → Prop}
    (spec : ∀ members ordered, sort members = .ok ordered ↔
      sortable members ∧ (ByKey.sortedOn time members).map (fun item => (time item, item)) = ordered)
    {groups : List (List α)} :
    ((buckets key items).mapM (fun bucket => do return cut window (← sort bucket.2) [] none) >>=
        fun parts => pure parts.flatten) = .ok groups ↔
      (∀ value ∈ keys key items, sortable (ofKey key items value)) ∧ grouped key time window items = groups := by
  have one (members : List α) (parts : List (List α)) :
      (do return cut window (← sort members) [] none : Except ε _) = .ok parts ↔
        sortable members ∧ runs time window (ByKey.sortedOn time members) = parts := by
    simp only [Fallible.bind_ok_iff, spec]
    constructor
    · rintro ⟨_, ⟨able, rfl⟩, done⟩
      rw [cut_eq_runs] at done
      exact ⟨able, Except.ok.inj done⟩
    · rintro ⟨able, rfl⟩
      exact ⟨_, ⟨able, rfl⟩, by rw [cut_eq_runs]; rfl⟩
  have each (parts : List (List (List α))) :
      (buckets key items).mapM (fun bucket => do return cut window (← sort bucket.2) [] none) = .ok parts ↔
        (∀ value ∈ keys key items, sortable (ofKey key items value)) ∧
          (keys key items).map (fun value => runs time window (ByKey.sortedOn time (ofKey key items value))) = parts := by
    simp only [Fallible.mapM_ok_iff, buckets_eq, List.forall₂_map_left_iff, one]
    rw [List.forall₂_and_left, ← List.forall₂_map_left_iff (R := Eq), List.forall₂_eq_eq_eq]
  rw [Fallible.bind_ok_iff]
  simp only [each]
  constructor
  · rintro ⟨_, ⟨able, rfl⟩, done⟩
    exact ⟨able, Except.ok.inj done⟩
  · rintro ⟨able, rfl⟩
    exact ⟨_, ⟨able, rfl⟩, rfl⟩

theorem flatten_grouped_perm (key : α → κ) (time : α → Int) (window : Int) (items : List α) :
    (grouped key time window items).flatten.Perm items := by
  have parts (value : κ) : (runs time window (ByKey.sortedOn time (ofKey key items value))).flatten.Perm (ofKey key items value) := by
    rw [runs, List.flatten_splitBy]
    exact ByKey.sortedOn_perm ..
  have whole := (List.Perm.flatMap_left (keys key items) fun value _ => parts value).trans (flatMap_ofKey_perm key items)
  rwa [grouped, List.flatMap_def, List.flatten_flatten, List.map_map]

structure Group (key : α → κ) (time : α → Int) (window : Int) (group : List α) : Prop where
  nonempty : group ≠ []
  oneKey : ∀ left ∈ group, ∀ right ∈ group, key left = key right
  ordered : Ordered time group
  near : group.IsChain fun before after => close time window before after

theorem group_of_mem (found : group ∈ grouped key time window items) : Group key time window group := by
  obtain ⟨value, inside⟩ := mem_grouped.mp found
  have same (item : α) (member : item ∈ group) : key item = value :=
    (mem_ofKey.mp (ByKey.mem_sortedOn.mp (mem_of_mem_run inside member))).2
  exact {
    nonempty := List.ne_nil_of_mem_splitBy inside
    oneKey := fun left first right second => (same left first).trans (same right second).symm
    ordered := ordered_run (ByKey.pairwise_sortedOn ..) inside
    near := List.isChain_of_mem_splitBy inside }

theorem length_grouped_le (key : α → κ) (time : α → Int) (window : Int) (items : List α) :
    (grouped key time window items).length ≤ items.length := by
  have filled : ∀ group ∈ grouped key time window items, group ≠ [] := fun _ found => (group_of_mem found).nonempty
  rw [← (flatten_grouped_perm key time window items).length_eq]
  generalize grouped key time window items = groups at filled
  induction groups with
  | nil => exact Nat.le_refl _
  | cons group groups ih =>
    obtain ⟨here, rest⟩ := List.forall_mem_cons.mp filled
    have some := List.length_pos_of_ne_nil here
    have others := ih rest
    rw [List.length_cons, List.flatten_cons, List.length_append]
    omega

theorem grouped_apart (key : α → κ) (time : α → Int) (window : Int) (items : List α) :
    (grouped key time window items).Pairwise fun first second =>
      ∀ before ∈ first, ∀ after ∈ second, key before = key after → window < time after - time before := by
  rw [grouped, List.pairwise_flatMap]
  constructor
  · intro value _
    refine (runs_apart (ByKey.pairwise_sortedOn ..)).imp ?_
    exact fun apart before first after second _ => apart before first after second
  · refine (nodup_keys key items).imp ?_
    intro one other different first firstFound second secondFound before beforeInside after afterInside same
    have left := (mem_ofKey.mp (ByKey.mem_sortedOn.mp (mem_of_mem_run firstFound beforeInside))).2
    have right := (mem_ofKey.mp (ByKey.mem_sortedOn.mp (mem_of_mem_run secondFound afterInside))).2
    exact absurd (left.symm.trans (same.trans right)) different

theorem grouped_map (key : β → κ) (time : β → Int) (window : Int) (view : α → β) (items : List α) :
    grouped key time window (items.map view) = (grouped (key ∘ view) (time ∘ view) window items).map (List.map view) := by
  rw [grouped, grouped, List.map_flatMap, keys_map]
  congr 1
  funext value
  rw [ofKey_map, ByKey.sortedOn_map, runs_map]

theorem grouped_relabel {relabel : κ → ι} (injective : Function.Injective relabel) (key : α → κ) (time : α → Int)
    (window : Int) (items : List α) : grouped (relabel ∘ key) time window items = grouped key time window items := by
  rw [grouped, keys_relabel injective, List.flatMap_map]
  simp only [ofKey_relabel injective]
  rfl

theorem grouped_refines {fine : α → κ} {coarse : α → ι} (finer : ∀ one other, fine one = fine other → coarse one = coarse other)
    (found : group ∈ grouped fine time window items) : ∃ whole ∈ grouped coarse time window items, group.Sublist whole := by
  obtain ⟨value, inside⟩ := mem_grouped.mp found
  have nonempty := List.ne_nil_of_mem_splitBy inside
  obtain ⟨item, member⟩ := List.exists_mem_of_ne_nil _ nonempty
  have same := (mem_ofKey.mp (ByKey.mem_sortedOn.mp (mem_of_mem_run inside member))).2
  have among : ofKey fine items value = (ofKey coarse items (coarse item)).filter (fine · = value) := by
    rw [ofKey, ofKey, List.filter_filter]
    apply List.filter_congr
    intro other _
    by_cases here : fine other = value
    · simp [here, finer other item (here.trans same.symm)]
    · simp [here]
  rw [among, ByKey.sortedOn_filter] at inside
  have part : group.Sublist (ByKey.sortedOn time (ofKey coarse items (coarse item))) := by
    refine List.Sublist.trans ?_ (List.filter_sublist (p := fun other => decide (fine other = value)))
    rw [← List.flatten_splitBy (close time window) (List.filter _ _)]
    exact List.sublist_flatten_of_mem inside
  obtain ⟨run, runFound, within⟩ :=
    exists_run_of_chain nonempty (List.isChain_of_mem_splitBy inside) (ByKey.pairwise_sortedOn ..) part
  exact ⟨run, mem_grouped.mpr ⟨_, runFound⟩, within⟩

/-- The groups do not depend on the order of the items, up to the order of the groups and of
the items of one time. -/
theorem grouped_perm (forward : 0 ≤ window) {left right : List α} (perm : left.Perm right) :
    ∃ arranged, arranged.Perm (grouped key time window right) ∧
      List.Forall₂ (ReflTransGen (ByKey.Exchange time)) (grouped key time window left) arranged := by
  refine ⟨_, (keys_perm perm).flatMap_right _, ?_⟩
  refine List.rel_flatMap (List.forall₂_same.mpr fun _ _ => rfl) ?_
  rintro value _ rfl
  have sorted := (ByKey.sortedOn_perm time (ofKey key left value)).trans
    ((perm.filter _).trans (ByKey.sortedOn_perm time (ofKey key right value)).symm)
  exact runs_exchanges forward sorted (ByKey.pairwise_sortedOn ..) (ByKey.pairwise_sortedOn ..)

end

end Gaps
