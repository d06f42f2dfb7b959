import ArgosCore.Foundations.Buckets
import ArgosCore.Foundations.Dict
import Mathlib.Data.List.MinMax
import Mathlib.Data.List.Sort
import Mathlib.Logic.Relation

/-! Choosing, sorting and grouping by a key. Of equal keys the first is chosen, a sort
keeps their order, and a group keeps the order of its list. -/

namespace ByKey

variable {α β γ : Type}

inductive Exchange (key : α → γ) : List α → List α → Prop where
  | swap (before : List α) {left right : α} (same : key left = key right) (after : List α) :
      Exchange key (before ++ left :: right :: after) (before ++ right :: left :: after)

theorem Exchange.cons {key : α → γ} {left right : List α} (exchange : Exchange key left right) (item : α) :
    Exchange key (item :: left) (item :: right) := by
  cases exchange with
  | swap before same after => exact .swap (item :: before) same after

theorem Exchange.perm {key : α → γ} {left right : List α} (exchange : Exchange key left right) : left.Perm right := by
  cases exchange with
  | swap before same after => exact (List.Perm.swap _ _ _).append_left before

theorem Exchange.map_eq {key : α → γ} {left right : List α} (exchange : Exchange key left right) :
    left.map key = right.map key := by
  cases exchange with
  | swap before same after => simp [same]

theorem exchanges_to_front {key : α → γ} {item : α} {before : List α} (same : ∀ other ∈ before, key other = key item)
    (after : List α) : Relation.ReflTransGen (Exchange key) (item :: (before ++ after)) (before ++ item :: after) := by
  induction before with
  | nil => exact .refl
  | cons other before ih =>
    obtain ⟨here, rest⟩ := List.forall_mem_cons.mp same
    have swapped : Exchange key (item :: other :: (before ++ after)) (other :: item :: (before ++ after)) :=
      .swap [] here.symm _
    exact .head swapped ((ih rest).lift (other :: ·) fun _ _ exchange => exchange.cons other)

section
variable [LinearOrder γ]

/-- `sorted(items, key=key)` -/
def sortedOn (key : α → γ) (items : List α) : List α := items.insertionSort fun left right => key left ≤ key right

theorem sortedOn_perm (key : α → γ) (items : List α) : (sortedOn key items).Perm items := List.perm_insertionSort _ _

@[simp] theorem mem_sortedOn {key : α → γ} {items : List α} {item : α} : item ∈ sortedOn key items ↔ item ∈ items :=
  List.mem_insertionSort _

@[simp] theorem length_sortedOn (key : α → γ) (items : List α) : (sortedOn key items).length = items.length :=
  (sortedOn_perm key items).length_eq

theorem pairwise_sortedOn (key : α → γ) (items : List α) :
    (sortedOn key items).Pairwise fun left right => key left ≤ key right := by
  have _ : Std.Total fun left right => key left ≤ key right := ⟨fun left right => le_total (key left) (key right)⟩
  have _ : IsTrans α fun left right => key left ≤ key right := ⟨fun _ _ _ => le_trans⟩
  exact List.pairwise_insertionSort ..

theorem sortedOn_map (key : β → γ) (view : α → β) (items : List α) :
    sortedOn key (items.map view) = (sortedOn (key ∘ view) items).map view := by
  symm
  apply List.map_insertionSort
  intro left _ right _
  rfl

/-- A sorted list is the canonical form of a multiset. -/
theorem insertionSort_eq_iff_perm {left right : List γ} :
    left.insertionSort (· ≤ ·) = right.insertionSort (· ≤ ·) ↔ left.Perm right := by
  have first := List.perm_insertionSort (· ≤ ·) left
  have second := List.perm_insertionSort (· ≤ ·) right
  constructor
  · intro same
    exact first.symm.trans (same ▸ second)
  · intro perm
    exact ((first.trans perm).trans second.symm).eq_of_pairwise' (List.pairwise_insertionSort _ _) (List.pairwise_insertionSort _ _)

private theorem filter_orderedInsert {key : α → γ} (p : α → Bool) (item : α) {sorted : List α}
    (ordered : sorted.Pairwise fun left right => key left ≤ key right) :
    (sorted.orderedInsert (fun left right => key left ≤ key right) item).filter p =
      if p item then (sorted.filter p).orderedInsert (fun left right => key left ≤ key right) item else sorted.filter p := by
  induction ordered with
  | nil => simp [List.filter_cons]
  | @cons first sorted least _ ih =>
    by_cases before : key item ≤ key first
    · have first_of_kept : ∀ other ∈ (first :: sorted).filter p, key item ≤ key other := by
        intro other kept
        rcases List.mem_cons.mp (List.mem_of_mem_filter kept) with rfl | later
        · exact before
        · exact before.trans (least other later)
      rw [List.orderedInsert_cons, if_pos before, List.filter_cons]
      cases kept : (first :: sorted).filter p with
      | nil => rfl
      | cons next rest =>
        rw [kept] at first_of_kept
        rw [List.orderedInsert_cons, if_pos (first_of_kept next List.mem_cons_self)]
    · rw [List.orderedInsert_cons, if_neg before, List.filter_cons, List.filter_cons, ih]
      by_cases first : p first = true
      · rw [if_pos first, if_pos first, List.orderedInsert_cons, if_neg before]
        split <;> rfl
      · rw [if_neg first, if_neg first]

theorem sortedOn_filter (key : α → γ) (p : α → Bool) (items : List α) :
    sortedOn key (items.filter p) = (sortedOn key items).filter p := by
  induction items with
  | nil => rfl
  | cons item items ih =>
    have inserted := filter_orderedInsert p item (pairwise_sortedOn key items)
    have unfolded : sortedOn key (item :: items) =
        (sortedOn key items).orderedInsert (fun left right => key left ≤ key right) item := rfl
    rw [unfolded, inserted, List.filter_cons, ← ih]
    split <;> rfl

theorem filter_sortedOn {key : α → γ} {p : α → Bool}
    (one : ∀ left right, p left = true → p right = true → key left = key right) (items : List α) :
    (sortedOn key items).filter p = items.filter p := by
  rw [← sortedOn_filter]
  apply List.Pairwise.insertionSort_eq
  rw [List.pairwise_filter]
  exact List.pairwise_of_forall fun left right first second => (one left right first second).le

private theorem orderedInsert_append {key : α → γ} {item : α} (first second : List α)
    (below : ∀ other ∈ second, key item ≤ key other) :
    (first ++ second).orderedInsert (fun left right => key left ≤ key right) item =
      first.orderedInsert (fun left right => key left ≤ key right) item ++ second := by
  induction first with
  | nil =>
    cases second with
    | nil => rfl
    | cons other second =>
      rw [List.nil_append, List.orderedInsert_cons, if_pos (below other List.mem_cons_self)]
      rfl
  | cons other first ih =>
    rw [List.cons_append, List.orderedInsert_cons, List.orderedInsert_cons, ih]
    split <;> rfl

/-- Where nothing of the one part comes after anything of the other, each can be sorted for itself. -/
theorem sortedOn_append {key : α → γ} {first second : List α} (below : ∀ one ∈ first, ∀ other ∈ second, key one ≤ key other) :
    sortedOn key (first ++ second) = sortedOn key first ++ sortedOn key second := by
  induction first with
  | nil => rfl
  | cons item first ih =>
    have rest := ih fun one inside => below one (List.mem_cons_of_mem _ inside)
    have unfolded (items : List α) : sortedOn key (item :: items) =
        (sortedOn key items).orderedInsert (fun left right => key left ≤ key right) item := rfl
    rw [List.cons_append, unfolded, unfolded, rest]
    apply orderedInsert_append
    intro other inside
    exact below item List.mem_cons_self other (mem_sortedOn.mp inside)

theorem exchanges_of_perm {key : α → γ} {left right : List α} (perm : left.Perm right)
    (first : left.Pairwise fun earlier later => key earlier ≤ key later)
    (second : right.Pairwise fun earlier later => key earlier ≤ key later) :
    Relation.ReflTransGen (Exchange key) left right := by
  induction left generalizing right with
  | nil => rw [perm.symm.eq_nil]
  | cons item left ih =>
    obtain ⟨least, rest⟩ := List.pairwise_cons.mp first
    obtain ⟨before, after, rfl⟩ := List.append_of_mem (perm.mem_iff.mp List.mem_cons_self)
    obtain ⟨sortedBefore, sortedAfter, across⟩ := List.pairwise_append.mp second
    have same (other : α) (inside : other ∈ before) : key other = key item := by
      apply le_antisymm (across other inside item List.mem_cons_self)
      rcases List.mem_cons.mp (perm.mem_iff.mpr (List.mem_append_left _ inside)) with rfl | later
      · exact le_refl _
      · exact least other later
    have others : left.Perm (before ++ after) := (perm.trans List.perm_middle).cons_inv
    have sorted : (before ++ after).Pairwise fun earlier later => key earlier ≤ key later :=
      second.sublist (List.Sublist.append_left (List.sublist_cons_self _ _) _)
    exact ((ih others rest sorted).lift (item :: ·) fun _ _ exchange => exchange.cons item).trans
      (exchanges_to_front same after)

theorem Exchange.sorted {key : α → γ} {left right : List α} (exchange : Exchange key left right)
    (sorted : left.Pairwise fun earlier later => key earlier ≤ key later) :
    right.Pairwise fun earlier later => key earlier ≤ key later := by
  rw [← List.pairwise_map (f := key) (R := (· ≤ ·)), ← exchange.map_eq, List.pairwise_map]
  exact sorted

/-- What no exchange in the sorted items changes does not depend on their order. -/
theorem related_sortedOn {key : α → γ} {result : List α → β} {related : β → β → Prop} {items : List α}
    (refl : ∀ outcome, related outcome outcome)
    (trans : ∀ first second third, related first second → related second third → related first third)
    (exchange : ∀ left right, left.Perm items → left.Pairwise (fun earlier later => key earlier ≤ key later) →
      Exchange key left right → related (result left) (result right))
    {left right : List α} (first : left.Perm items) (second : right.Perm items) :
    related (result (sortedOn key left)) (result (sortedOn key right)) := by
  have steps := exchanges_of_perm
    (((sortedOn_perm key left).trans first).trans ((sortedOn_perm key right).trans second).symm)
    (pairwise_sortedOn key left) (pairwise_sortedOn key right)
  have along (reached : List α) (path : Relation.ReflTransGen (Exchange key) (sortedOn key left) reached) :
      related (result (sortedOn key left)) (result reached) ∧ reached.Perm items ∧
        reached.Pairwise fun earlier later => key earlier ≤ key later := by
    induction path with
    | refl => exact ⟨refl _, (sortedOn_perm key left).trans first, pairwise_sortedOn key left⟩
    | tail _ step ih =>
      obtain ⟨before, perm, sorted⟩ := ih
      exact ⟨trans _ _ _ before (exchange _ _ perm sorted step), step.perm.symm.trans perm, step.sorted sorted⟩
  exact (along _ steps).1

theorem argmax_map (key : β → γ) (view : α → β) (items : List α) :
    (items.map view).argmax key = (items.argmax (key ∘ view)).map view := by
  induction items using List.reverseRecOn with
  | nil => rfl
  | append_singleton items item ih =>
    rw [List.map_append, List.map_singleton, List.argmax_concat, List.argmax_concat, ih]
    cases items.argmax (key ∘ view) with
    | none => rfl
    | some best => by_cases later : key (view best) < key (view item) <;> simp [later]

def least (key : α → γ) (items : List α) : Option α := items.argmin key

def greatest (key : α → γ) (items : List α) : List α :=
  items.filter fun item => items.all fun other => key other ≤ key item

theorem mem_greatest {key : α → γ} {items : List α} {item : α} :
    item ∈ greatest key items ↔ item ∈ items ∧ ∀ other ∈ items, key other ≤ key item := by
  simp [greatest]

theorem greatest_ne_nil {key : α → γ} {items : List α} (some : items ≠ []) : greatest key items ≠ [] := by
  obtain ⟨best, found⟩ := Option.ne_none_iff_exists'.mp ((not_congr (List.argmax_eq_none (f := key))).mpr some)
  apply List.ne_nil_of_mem
  exact mem_greatest.mpr ⟨List.argmax_mem found, fun other member => List.le_of_mem_argmax member found⟩

theorem greatest_perm {key : α → γ} {left right : List α} (perm : left.Perm right) :
    (greatest key left).Perm (greatest key right) := by
  have alike (item : α) : (left.all fun other => key other ≤ key item) = right.all fun other => key other ≤ key item := by
    rw [Bool.eq_iff_iff, List.all_eq_true, List.all_eq_true]
    simp only [perm.mem_iff]
  simp only [greatest, alike]
  exact perm.filter _

theorem greatest_cons {key : α → γ} {items : List α} {best : α} (top : best ∈ greatest key items) (item : α) :
    greatest key (item :: items) =
      if key item < key best then greatest key items
      else if key item = key best then item :: greatest key items
      else [item] := by
  obtain ⟨inside, most⟩ := mem_greatest.mp top
  -- one that is above nothing but `best` leaves the choice among the others as it is
  have others (below : key item ≤ key best) :
      (items.filter fun one => (item :: items).all fun other => key other ≤ key one) = greatest key items := by
    apply List.filter_congr
    intro one _
    rw [Bool.eq_iff_iff, List.all_eq_true, List.all_eq_true]
    simp only [List.forall_mem_cons, decide_eq_true_eq, and_iff_right_iff_imp]
    exact fun above => below.trans (above best inside)
  have first : ((item :: items).all fun other => key other ≤ key item) = decide (key best ≤ key item) := by
    rw [Bool.eq_iff_iff, List.all_eq_true, decide_eq_true_eq]
    simp only [List.forall_mem_cons, decide_eq_true_eq, le_refl, true_and]
    exact ⟨fun above => above best inside, fun above other member => (most other member).trans above⟩
  rw [greatest, List.filter_cons, first]
  rcases lt_trichotomy (key item) (key best) with below | same | above
  · rw [if_pos below, others below.le]
    simp [below]
  · rw [if_neg same.not_lt, if_pos same, others same.le]
    simp [same]
  · have none : (items.filter fun one => (item :: items).all fun other => key other ≤ key one) = [] := by
      rw [List.filter_eq_nil_iff]
      intro one member most'
      rw [List.all_eq_true] at most'
      exact absurd ((of_decide_eq_true (most' item List.mem_cons_self)).trans (most one member)) (not_le.mpr above)
    rw [if_neg above.not_gt, if_neg above.ne', none]
    simp [above.le]

theorem greatest_of_const {key : α → γ} {items : List α} {value : γ} (same : ∀ item ∈ items, key item = value) :
    greatest key items = items := by
  rw [greatest, List.filter_eq_self]
  intro item member
  simp only [List.all_eq_true, decide_eq_true_eq]
  intro other inside
  rw [same item member, same other inside]

theorem mem_greatest_of_argmax {key : α → γ} {items : List α} {best : α} (found : items.argmax key = some best) :
    best ∈ greatest key items :=
  mem_greatest.mpr ⟨List.argmax_mem found, fun _ member => List.le_of_mem_argmax member found⟩

theorem argmax_eq_head?_greatest (key : α → γ) (items : List α) : items.argmax key = (greatest key items).head? := by
  induction items with
  | nil => rfl
  | cons item items ih =>
    cases found : items.argmax key with
    | none =>
      rw [List.argmax_eq_none] at found
      subst found
      simp [greatest]
    | some best =>
      rw [List.argmax_cons, found, greatest_cons (mem_greatest_of_argmax found)]
      rw [found] at ih
      rcases lt_trichotomy (key item) (key best) with below | same | above
      · simp [below, ← ih]
      · simp [same]
      · simp [above.not_gt, above.ne']

theorem argmax_sortedOn (key : α → γ) (items : List α) : (sortedOn key items).argmax key = items.argmax key := by
  have alike (item : α) :
      ((sortedOn key items).all fun other => key other ≤ key item) = items.all fun other => key other ≤ key item := by
    rw [Bool.eq_iff_iff, List.all_eq_true, List.all_eq_true]
    simp only [mem_sortedOn]
  have sorted : (greatest key items).Pairwise fun left right => key left ≤ key right := by
    apply List.pairwise_of_forall_mem_list
    intro left inside right top
    exact (mem_greatest.mp top).2 left (mem_greatest.mp inside).1
  have same : greatest key (sortedOn key items) = greatest key items := by
    calc greatest key (sortedOn key items)
        = (sortedOn key items).filter fun item => items.all fun other => key other ≤ key item := by
          simp only [greatest, alike]
      _ = sortedOn key (greatest key items) := (sortedOn_filter ..).symm
      _ = greatest key items := sorted.insertionSort_eq
  rw [argmax_eq_head?_greatest, argmax_eq_head?_greatest, same]

/-- The first of the greatest does not depend on the order exactly when there is only one. -/
theorem argmax_perm_iff {key : α → γ} {items : List α} :
    (∀ arranged : List α, arranged.Perm items → arranged.argmax key = items.argmax key) ↔
      ∀ one ∈ greatest key items, ∀ other ∈ greatest key items, one = other := by
  constructor
  · intro same
    have first (one : α) (top : one ∈ greatest key items) : items.argmax key = some one := by
      obtain ⟨inside, most⟩ := mem_greatest.mp top
      obtain ⟨before, after, rfl⟩ := List.append_of_mem inside
      rw [← same (one :: (before ++ after)) List.perm_middle.symm, List.argmax_cons]
      cases found : (before ++ after).argmax key with
      | none => rfl
      | some best =>
        have lower := most best (List.perm_middle.mem_iff.mpr (List.mem_cons_of_mem _ (List.argmax_mem found)))
        simp [not_lt.mpr lower]
    intro one top other also
    exact Option.some.inj ((first one top).symm.trans (first other also))
  · intro single arranged perm
    cases found : items.argmax key with
    | none =>
      rw [List.argmax_eq_none] at found ⊢
      exact (found ▸ perm).eq_nil
    | some best =>
      have filled : arranged ≠ [] := by
        rintro rfl
        rw [perm.symm.eq_nil] at found
        cases found
      obtain ⟨chosen, also⟩ := Option.ne_none_iff_exists'.mp ((not_congr (List.argmax_eq_none (f := key))).mpr filled)
      have top := (greatest_perm perm).mem_iff.mp (mem_greatest_of_argmax also)
      rw [also, single chosen top best (mem_greatest_of_argmax found)]

theorem head?_sortedOn (key : α → γ) (items : List α) : (sortedOn key items).head? = least key items := by
  induction items with
  | nil => rfl
  | cons item items ih =>
    rw [least, List.argmin_cons, ← least, ← ih, sortedOn, List.insertionSort_cons, ← sortedOn]
    cases sortedOn key items with
    | nil => rfl
    | cons first rest =>
      rw [List.orderedInsert_cons]
      by_cases before : key item ≤ key first
      · simp [before, not_lt.mpr before]
      · simp [before, not_le.mp before]

end

/-- A multiset seen through a function is the same through any function that tells
less apart. -/
theorem perm_map_of_determined {f : α → β} {view : α → γ} (determined : ∀ left right, view left = view right → f left = f right)
    {left right : List α} (perm : (left.map view).Perm (right.map view)) : (left.map f).Perm (right.map f) := by
  cases left with
  | nil =>
    have none : right = [] := by simpa using perm.symm.eq_nil
    rw [none]
  | cons item items =>
    have through := Function.FactorsThrough.extend_comp (fun _ => f item) (fun left right => determined left right)
    rw [← through, ← List.map_map, ← List.map_map]
    exact perm.map _

theorem perm_map_iff_of_eq_iff {f : α → β} {view : α → γ} (same : ∀ left right, f left = f right ↔ view left = view right)
    {left right : List α} : (left.map f).Perm (right.map f) ↔ (left.map view).Perm (right.map view) :=
  ⟨perm_map_of_determined fun left right => (same left right).mp,
    perm_map_of_determined fun left right => (same left right).mpr⟩

theorem map_eq_iff_of_eq_iff {f : α → β} {view : α → γ} (same : ∀ left right, f left = f right ↔ view left = view right)
    {left right : List α} : left.map f = right.map f ↔ left.map view = right.map view := by
  induction left generalizing right with
  | nil => cases right <;> simp
  | cons first left ih =>
    cases right with
    | nil => simp
    | cons second right => rw [List.map_cons, List.map_cons, List.map_cons, List.map_cons, List.cons.injEq, List.cons.injEq,
        same, ih]

def groupBy (key : α → Option String) (items : List α) : Dict (List α) :=
  items.foldl (fun groups item =>
    match key item with
    | none => groups
    | some name => groups.set name ((groups.lookup name).getD [] ++ [item])) []

def members (key : α → Option String) (items : List α) (name : String) : List α :=
  items.filter fun item => key item = some name

theorem members_append (key : α → Option String) (left right : List α) (name : String) :
    members key (left ++ right) name = members key left name ++ members key right name := List.filter_append ..

theorem groupBy_append_singleton (key : α → Option String) (items : List α) (item : α) :
    groupBy key (items ++ [item]) =
      match key item with
      | none => groupBy key items
      | some name => (groupBy key items).set name (((groupBy key items).lookup name).getD [] ++ [item]) := by
  rw [groupBy, List.foldl_append]
  rfl

theorem lookup_groupBy (key : α → Option String) (items : List α) (name : String) :
    (groupBy key items).lookup name =
      if members key items name = [] then none else some (members key items name) := by
  induction items using List.reverseRecOn with
  | nil => rfl
  | append_singleton items item ih =>
    rw [groupBy_append_singleton, members_append]
    cases found : key item with
    | none => simpa [members, found] using ih
    | some other =>
      by_cases same : name = other
      · subst same
        rw [Dict.lookup_set, if_pos rfl, ih]
        split <;> simp_all [members]
      · simpa [members, found, same, Ne.symm same] using ih

theorem members_eq_nil_iff {key : α → Option String} {items : List α} {name : String} :
    members key items name = [] ↔ ∀ item ∈ items, key item ≠ some name := by
  simp [members, List.filter_eq_nil_iff]

theorem members_some (key : α → String) (items : List α) (name : String) :
    members (fun item => some (key item)) items name = Buckets.ofKey key items name := by
  simp only [members, Buckets.ofKey, Option.some.injEq]

private theorem set_eq_put (groups : Dict (List α)) (name : String) (item : α) :
    groups.set name ((groups.lookup name).getD [] ++ [item]) = Buckets.put name item groups := by
  induction groups with
  | nil => rfl
  | cons group groups ih =>
    rw [Dict.set, Buckets.put]
    by_cases here : group.1 = name
    · subst here
      rw [if_pos rfl, if_pos rfl, List.lookup_cons, beq_self_eq_true, Option.getD_some]
    · rw [if_neg here, if_neg here, List.lookup_cons, beq_false_of_ne (Ne.symm here), ← ih]

theorem groupBy_some (key : α → String) (items : List α) :
    groupBy (fun item => some (key item)) items = Buckets.buckets key items := by
  simp only [groupBy, set_eq_put]
  rfl

theorem count_filterMap (key : α → Option String) (items : List α) (name : String) :
    (items.filterMap key).count name = (members key items name).length := by
  rw [List.count_eq_countP, List.countP_filterMap, List.countP_eq_length_filter, members]
  congr 2
  funext item
  cases key item <;> simp [beq_eq_decide]

theorem members_of_nodup {key : α → Option String} {items : List α} (fresh : (items.filterMap key).Nodup) {item : α}
    {name : String} (inside : item ∈ items) (found : key item = some name) : members key items name = [item] := by
  have among : item ∈ members key items name := List.mem_filter.mpr ⟨inside, decide_eq_true found⟩
  have most : (members key items name).length ≤ 1 := by
    rw [← count_filterMap]
    exact List.nodup_iff_count_le_one.mp fresh name
  obtain ⟨only, alone⟩ := List.length_eq_one_iff.mp (Nat.le_antisymm most (List.length_pos_of_mem among))
  rw [alone, List.mem_singleton] at among
  rw [alone, among]

/-- Of every key the first item, replaced by the key's representative; items without a
key stay. -/
def firstOfEach (key : α → Option String) (representative : String → α) : List α → List String → List α
  | [], _ => []
  | item :: items, seen =>
    match key item with
    | none => item :: firstOfEach key representative items seen
    | some name =>
      if name ∈ seen then firstOfEach key representative items seen
      else representative name :: firstOfEach key representative items (name :: seen)

section
variable {key : α → Option String} {representative : String → α} {item : α} {items : List α} {seen : List String}
  {name : String}

theorem firstOfEach_unkeyed (unkeyed : key item = none) :
    firstOfEach key representative (item :: items) seen = item :: firstOfEach key representative items seen := by
  rw [firstOfEach, unkeyed]

theorem firstOfEach_seen (found : key item = some name) (old : name ∈ seen) :
    firstOfEach key representative (item :: items) seen = firstOfEach key representative items seen := by
  simp only [firstOfEach, found, if_pos old]

theorem firstOfEach_new (found : key item = some name) (new : name ∉ seen) :
    firstOfEach key representative (item :: items) seen =
      representative name :: firstOfEach key representative items (name :: seen) := by
  simp only [firstOfEach, found, if_neg new]

end

theorem members_firstOfEach {key : α → Option String} {representative : String → α} {items : List α}
    (stands : ∀ item ∈ items, ∀ name, key item = some name → key (representative name) = some name)
    (seen : List String) (name : String) :
    members key (firstOfEach key representative items seen) name =
      if name ∈ seen ∨ members key items name = [] then [] else [representative name] := by
  induction items generalizing seen with
  | nil => simp [firstOfEach, members]
  | cons item items ih =>
    have rest := ih (fun other inside => stands other (List.mem_cons_of_mem _ inside))
    cases found : key item with
    | none =>
      have skipped : members key (item :: items) name = members key items name := by simp [members, found]
      rw [firstOfEach_unkeyed found, skipped, ← rest seen]
      simp [members, found]
    | some other =>
      have here := stands item List.mem_cons_self other found
      by_cases old : other ∈ seen
      · rw [firstOfEach_seen found old, rest]
        by_cases same : name = other
        · simp [same, old]
        · simp [members, found, Ne.symm same]
      · rw [firstOfEach_new found old]
        by_cases same : name = other
        · subst same
          have alone := rest (name :: seen)
          rw [if_pos (.inl List.mem_cons_self)] at alone
          rw [members] at alone ⊢
          rw [List.filter_cons_of_pos (by simp [here]), alone, if_neg]
          simp [old, members, found]
        · have others := rest (other :: seen)
          rw [members] at others ⊢
          rw [List.filter_cons_of_neg (by simp [here, Ne.symm same]), others]
          simp [members, found, same, Ne.symm same]

theorem mem_firstOfEach {key : α → Option String} {representative : String → α} {items : List α} {seen : List String}
    {item : α} (inside : item ∈ firstOfEach key representative items seen) :
    item ∈ items ∧ key item = none ∨
      ∃ first ∈ items, ∃ name, key first = some name ∧ item = representative name := by
  induction items generalizing seen with
  | nil => simp [firstOfEach] at inside
  | cons head items ih =>
    have later (seen : List String) (inside : item ∈ firstOfEach key representative items seen) :
        item ∈ head :: items ∧ key item = none ∨
          ∃ first ∈ head :: items, ∃ name, key first = some name ∧ item = representative name := by
      rcases ih inside with ⟨kept, unkeyed⟩ | ⟨first, among, name, found, same⟩
      · exact .inl ⟨List.mem_cons_of_mem _ kept, unkeyed⟩
      · exact .inr ⟨first, List.mem_cons_of_mem _ among, name, found, same⟩
    cases found : key head with
    | none =>
      rw [firstOfEach_unkeyed found] at inside
      rcases List.mem_cons.mp inside with rfl | rest
      · exact .inl ⟨List.mem_cons_self, found⟩
      · exact later seen rest
    | some name =>
      by_cases old : name ∈ seen
      · rw [firstOfEach_seen found old] at inside
        exact later seen inside
      · rw [firstOfEach_new found old] at inside
        rcases List.mem_cons.mp inside with rfl | rest
        · exact .inr ⟨head, List.mem_cons_self, name, found, rfl⟩
        · exact later (name :: seen) rest

theorem unkeyed_mem_firstOfEach {key : α → Option String} {representative : String → α} {items : List α} {item : α}
    (inside : item ∈ items) (unkeyed : key item = none) (seen : List String) :
    item ∈ firstOfEach key representative items seen := by
  induction items generalizing seen with
  | nil => cases inside
  | cons head items ih =>
    rcases List.mem_cons.mp inside with rfl | later
    · rw [firstOfEach_unkeyed unkeyed]
      exact List.mem_cons_self
    · cases found : key head with
      | none =>
        rw [firstOfEach_unkeyed found]
        exact List.mem_cons_of_mem _ (ih later seen)
      | some name =>
        by_cases old : name ∈ seen
        · rw [firstOfEach_seen found old]
          exact ih later seen
        · rw [firstOfEach_new found old]
          exact List.mem_cons_of_mem _ (ih later _)

theorem unkeyed_firstOfEach {key : α → Option String} {representative : String → α} {items : List α}
    (stands : ∀ item ∈ items, ∀ name, key item = some name → key (representative name) = some name)
    (seen : List String) :
    (firstOfEach key representative items seen).filter (key · = none) = items.filter (key · = none) := by
  induction items generalizing seen with
  | nil => rfl
  | cons item items ih =>
    have rest := ih (fun other inside => stands other (List.mem_cons_of_mem _ inside))
    cases found : key item with
    | none =>
      rw [firstOfEach_unkeyed found, List.filter_cons_of_pos (by simpa using found), rest,
        List.filter_cons_of_pos (by simpa using found)]
    | some name =>
      have here := stands item List.mem_cons_self name found
      rw [List.filter_cons_of_neg (by simp [found])]
      by_cases old : name ∈ seen
      · rw [firstOfEach_seen found old, rest]
      · rw [firstOfEach_new found old, List.filter_cons_of_neg (by simp [here]), rest]

theorem firstOfEach_of_nodup {key : α → Option String} {representative : String → α} {items : List α}
    {seen : List String} (fresh : (items.filterMap key).Nodup) (unseen : ∀ name ∈ items.filterMap key, name ∉ seen) :
    firstOfEach key representative items seen =
      items.map fun item => (key item).elim item representative := by
  induction items generalizing seen with
  | nil => rfl
  | cons item items ih =>
    cases found : key item with
    | none =>
      rw [List.filterMap_cons_none found] at fresh unseen
      rw [firstOfEach_unkeyed found, List.map_cons, found, Option.elim_none, ih fresh unseen]
    | some name =>
      rw [List.filterMap_cons_some found] at fresh unseen
      obtain ⟨absent, rest⟩ := List.nodup_cons.mp fresh
      have later : ∀ other ∈ items.filterMap key, other ∉ name :: seen := by
        intro other inside
        rw [List.mem_cons, not_or]
        exact ⟨fun same => absent (same ▸ inside), unseen other (List.mem_cons_of_mem _ inside)⟩
      rw [firstOfEach_new found (unseen name List.mem_cons_self), List.map_cons, found, Option.elim_some, ih rest later]

def unseen (key : α → Option String) (seen : List String) (item : α) : Bool := (key item).all fun name => name ∉ seen

theorem members_append_unseen (key : α → Option String) (items : List α) {seen : List String} {name : String}
    (new : name ∉ seen) :
    (members key items name ++ items.filter (unseen key (name :: seen))).Perm (items.filter (unseen key seen)) := by
  have split := List.filter_append_perm (fun item => decide (key item = some name)) (items.filter (unseen key seen))
  rw [List.filter_filter, List.filter_filter] at split
  have here : items.filter (fun item => decide (key item = some name) && unseen key seen item) = members key items name := by
    apply List.filter_congr
    intro item _
    by_cases found : key item = some name <;> simp [found, unseen, new]
  have others : items.filter (fun item => !decide (key item = some name) && unseen key seen item) =
      items.filter (unseen key (name :: seen)) := by
    apply List.filter_congr
    intro item _
    cases found : key item with
    | none => simp [found, unseen]
    | some other => simp [found, unseen, not_or]
  rw [here, others] at split
  exact split

/-- When every representative stands for what the members of its key stand for, all of
it is still there. -/
theorem flatMap_firstOfEach_perm {key : α → Option String} {representative : String → α} {content : α → List β}
    {view : α → β} {items : List α} {seen : List String}
    (alone : ∀ item ∈ items, key item = none → content item = [view item])
    (stands : ∀ name ∈ items.filterMap key, name ∉ seen →
      (content (representative name)).Perm ((members key items name).map view)) :
    ((firstOfEach key representative items seen).flatMap content).Perm
      ((items.filter (unseen key seen)).map view) := by
  induction items generalizing seen with
  | nil => exact .refl _
  | cons item items ih =>
    have aloneLater := fun other inside => alone other (List.mem_cons_of_mem _ inside)
    cases found : key item with
    | none =>
      rw [firstOfEach_unkeyed found, List.flatMap_cons, alone item List.mem_cons_self found,
        List.filter_cons_of_pos (by simp [unseen, found]), List.map_cons]
      apply List.Perm.cons
      apply ih aloneLater
      intro name inside new
      have kept := stands name (by simpa [List.filterMap_cons_none found] using inside) new
      rwa [members, List.filter_cons_of_neg (by simp [found])] at kept
    | some name =>
      by_cases old : name ∈ seen
      · rw [firstOfEach_seen found old, List.filter_cons_of_neg (by simp [unseen, found, old])]
        apply ih aloneLater
        intro other inside new
        have kept := stands other (by rw [List.filterMap_cons_some found]; exact List.mem_cons_of_mem _ inside) new
        have different : name ≠ other := fun same => new (same ▸ old)
        rwa [members, List.filter_cons_of_neg (by simp [found, different])] at kept
      · rw [firstOfEach_new found old, List.flatMap_cons]
        have here := stands name (by simp [List.filterMap_cons_some found]) old
        have later : ((firstOfEach key representative items (name :: seen)).flatMap content).Perm
            ((items.filter (unseen key (name :: seen))).map view) := by
          apply ih aloneLater
          intro other inside new
          have kept := stands other (by rw [List.filterMap_cons_some found]; exact List.mem_cons_of_mem _ inside)
            (fun among => new (List.mem_cons_of_mem _ among))
          have different : name ≠ other := fun same => new (same ▸ List.mem_cons_self)
          rwa [members, List.filter_cons_of_neg (by simp [found, different])] at kept
        rw [List.filter_cons_of_pos (by simp [unseen, found, old]), List.map_cons]
        rw [members, List.filter_cons_of_pos (by simp [found]), List.map_cons, ← members] at here
        apply (here.append later).trans
        rw [List.cons_append, ← List.map_append]
        exact ((members_append_unseen key items old).map view).cons _

def firsts (key : α → Option String) (items : List α) : List α :=
  (items.zipIdx.filter fun item => (key item.1).all fun name => members key (items.take item.2) name = []).map Prod.fst

theorem firstOfEach_concat (key : α → Option String) (representative : String → α) (items : List α) (item : α)
    (seen : List String) :
    firstOfEach key representative (items ++ [item]) seen =
      firstOfEach key representative items seen ++
        if (key item).all fun name => name ∉ seen ∧ members key items name = [] then [(key item).elim item representative]
        else [] := by
  induction items generalizing seen with
  | nil =>
    cases found : key item with
    | none => simp [firstOfEach_unkeyed found, firstOfEach]
    | some name =>
      by_cases old : name ∈ seen
      · simp [firstOfEach_seen found old, firstOfEach, old]
      · simp [firstOfEach_new found old, firstOfEach, old, members]
  | cons head items ih =>
    have first (name : String) : members key (head :: items) name = [] ↔ key head ≠ some name ∧ members key items name = [] := by
      simp [members_eq_nil_iff]
    rw [List.cons_append]
    simp only [first]
    cases headKey : key head with
    | none => simp [firstOfEach_unkeyed headKey, ih]
    | some name =>
      by_cases old : name ∈ seen
      · rw [firstOfEach_seen headKey old, firstOfEach_seen headKey old, ih]
        have same (other : String) : (other ∉ seen ∧ some name ≠ some other ∧ members key items other = []) ↔
            (other ∉ seen ∧ members key items other = []) := by
          grind
        simp only [same]
      · rw [firstOfEach_new headKey old, firstOfEach_new headKey old, ih, List.cons_append]
        have same (other : String) : (other ∉ name :: seen ∧ members key items other = []) ↔
            (other ∉ seen ∧ some name ≠ some other ∧ members key items other = []) := by
          grind
        simp only [same]

theorem firsts_concat (key : α → Option String) (items : List α) (item : α) :
    firsts key (items ++ [item]) =
      firsts key items ++ if (key item).all fun name => members key items name = [] then [item] else [] := by
  have earlier : (items.zipIdx.filter fun earlier => (key earlier.1).all fun name =>
      members key ((items ++ [item]).take earlier.2) name = []) =
      items.zipIdx.filter fun earlier => (key earlier.1).all fun name => members key (items.take earlier.2) name = [] := by
    apply List.filter_congr
    intro earlier inside
    have before : earlier.2 < items.length := by simpa using (List.mem_zipIdx inside).2.1
    rw [List.take_append_of_le_length (by omega)]
  rw [firsts, List.zipIdx_append, List.filter_append, List.map_append, earlier, ← firsts]
  congr 1
  simp only [List.zipIdx_cons, List.zipIdx_nil, Nat.zero_add, List.filter_cons, List.filter_nil, List.take_left]
  split <;> rfl

/-- What is left stands in the order in which items without a key, and keys, first appear. -/
theorem firstOfEach_eq_map_firsts (key : α → Option String) (representative : String → α) (items : List α) :
    firstOfEach key representative items [] = (firsts key items).map fun item => (key item).elim item representative := by
  induction items using List.reverseRecOn with
  | nil => rfl
  | append_singleton items item ih =>
    rw [firstOfEach_concat, firsts_concat, List.map_append, ih]
    congr 1
    simp only [List.not_mem_nil, not_false_eq_true, true_and]
    split <;> rfl

end ByKey
