import Mathlib.Data.List.Nodup
import Mathlib.Data.List.Perm.Basic

/-! Dictionaries in insertion order: key/value lists in which assigning to a key
that is already there keeps its place. -/

abbrev Dict (α : Type) := List (String × α)

namespace Dict

variable {α : Type}

/-- `dict[key] = value` -/
def set : Dict α → String → α → Dict α
  | [], key, value => [(key, value)]
  | member :: dict, key, value =>
    if member.1 = key then (key, value) :: dict else member :: set dict key value

/-- The assignments of a list of items, one after the other. -/
def setAll (dict : Dict α) (items : List (String × α)) : Dict α :=
  items.foldl (fun dict item => dict.set item.1 item.2) dict

/-- `del dict[key]` -/
def erase (dict : Dict α) (key : String) : Dict α := dict.filter (·.1 ≠ key)

def put (dict : Dict α) (key : String) : Option α → Dict α
  | none => dict.erase key
  | some value => dict.set key value

@[simp] theorem lookup_set (dict : Dict α) (key other : String) (value : α) :
    (dict.set key value).lookup other = if other = key then some value else dict.lookup other := by
  induction dict with
  | nil => by_cases same : other = key <;> simp [set, List.lookup_cons, same, beq_false_of_ne]
  | cons member dict ih =>
    obtain ⟨name, found⟩ := member
    rw [set]
    by_cases here : name = key
    · subst here
      rw [if_pos rfl]
      by_cases same : other = name
      · simp [same]
      · simp [List.lookup_cons, same, beq_false_of_ne]
    · rw [if_neg here]
      by_cases same : other = name
      · subst same
        simp [here]
      · simp [List.lookup_cons, beq_false_of_ne same, ih]

@[simp] theorem mem_keys_set (dict : Dict α) (key other : String) (value : α) :
    other ∈ (dict.set key value).map Prod.fst ↔ other = key ∨ other ∈ dict.map Prod.fst := by
  induction dict with
  | nil => simp [set]
  | cons member dict ih =>
    rw [set]
    split
    next same => simp [same]
    next => rw [List.map_cons, List.mem_cons, ih, List.map_cons, List.mem_cons, or_left_comm]

theorem mem_of_mem_set {dict : Dict α} {key : String} {value : α} {member : String × α}
    (inside : member ∈ dict.set key value) : member = (key, value) ∨ member ∈ dict := by
  induction dict with
  | nil => exact .inl (List.mem_singleton.mp inside)
  | cons first dict ih =>
    rw [set] at inside
    split at inside <;> rcases List.mem_cons.mp inside with same | later
    · exact .inl same
    · exact .inr (List.mem_cons_of_mem _ later)
    · exact .inr (same ▸ List.mem_cons_self)
    · exact (ih later).imp_right (List.mem_cons_of_mem _)

@[simp] theorem lookup_erase (dict : Dict α) (key other : String) :
    (dict.erase key).lookup other = if other = key then none else dict.lookup other := by
  induction dict with
  | nil => simp [erase]
  | cons member dict ih =>
    obtain ⟨name, value⟩ := member
    rw [erase] at ih ⊢
    by_cases kept : name = key
    · rw [List.filter_cons_of_neg (by simp [kept]), ih]
      by_cases same : other = key <;> simp [same, kept, List.lookup_cons, beq_false_of_ne]
    · rw [List.filter_cons_of_pos (by simp [kept]), List.lookup_cons, List.lookup_cons, ih]
      by_cases same : other = name
      · simp [same, kept]
      · simp [beq_false_of_ne same]

theorem lookup_foldl_erase (dict : Dict α) (keys : List String) (key : String) :
    (keys.foldl erase dict).lookup key = if key ∈ keys then none else dict.lookup key := by
  induction keys generalizing dict with
  | nil => simp
  | cons first keys ih =>
    rw [List.foldl_cons, ih, lookup_erase]
    by_cases same : key = first <;> simp [same]

@[simp] theorem lookup_put (dict : Dict α) (key other : String) (value : Option α) :
    (dict.put key value).lookup other = if other = key then value else dict.lookup other := by
  cases value <;> simp [put]

theorem put_set (dict : Dict α) (key : String) (earlier : α) (value : Option α) :
    (dict.set key earlier).put key value = dict.put key value := by
  cases value with
  | none =>
    induction dict with
    | nil => simp [set, put, erase]
    | cons member dict ih =>
      simp only [put, erase, ne_eq] at ih ⊢
      rw [set]
      split_ifs with here
      · simp [here]
      · rw [List.filter_cons, List.filter_cons, ih]
  | some value =>
    induction dict with
    | nil => simp [set, put]
    | cons member dict ih =>
      simp only [put] at ih ⊢
      rw [set]
      split_ifs with here
      · simp [set, here]
      · simp [set, here, ih]

theorem mem_of_mem_put {dict : Dict α} {key : String} {value : Option α} {member : String × α}
    (inside : member ∈ dict.put key value) : some member.2 = value ∨ member ∈ dict := by
  cases value with
  | none => exact .inr (List.mem_of_mem_filter inside)
  | some value => exact (mem_of_mem_set inside).imp_left fun same => by rw [same]

theorem mem_of_mem_setAll {dict : Dict α} {items : List (String × α)} {member : String × α}
    (inside : member ∈ dict.setAll items) : member ∈ items ∨ member ∈ dict := by
  induction items generalizing dict with
  | nil => exact .inr inside
  | cons item items ih =>
    rcases ih inside with later | earlier
    · exact .inl (List.mem_cons_of_mem _ later)
    · apply (mem_of_mem_set earlier).imp_left
      rintro rfl
      exact List.mem_cons_self

theorem nodup_set {dict : Dict α} (distinct : (dict.map Prod.fst).Nodup) (key : String) (value : α) :
    ((dict.set key value).map Prod.fst).Nodup := by
  induction dict with
  | nil => simp [set]
  | cons member dict ih =>
    obtain ⟨absent, rest⟩ := List.nodup_cons.mp distinct
    rw [set]
    split
    next same => exact List.nodup_cons.mpr ⟨same ▸ absent, rest⟩
    next other =>
      refine List.nodup_cons.mpr ⟨?_, ih rest⟩
      rw [mem_keys_set]
      rintro (same | inside)
      · exact other same
      · exact absent inside

theorem nodup_erase {dict : Dict α} (distinct : (dict.map Prod.fst).Nodup) (key : String) :
    ((dict.erase key).map Prod.fst).Nodup := distinct.sublist (List.filter_sublist.map _)

theorem nodup_foldl_erase {dict : Dict α} (distinct : (dict.map Prod.fst).Nodup) (keys : List String) :
    ((keys.foldl erase dict).map Prod.fst).Nodup := by
  induction keys generalizing dict with
  | nil => exact distinct
  | cons key keys ih => exact ih (nodup_erase distinct key)

theorem nodup_put {dict : Dict α} (distinct : (dict.map Prod.fst).Nodup) (key : String) (value : Option α) :
    ((dict.put key value).map Prod.fst).Nodup := by
  cases value with
  | none => exact nodup_erase distinct key
  | some value => exact nodup_set distinct key value

theorem nodup_setAll {dict : Dict α} (distinct : (dict.map Prod.fst).Nodup) (items : List (String × α)) :
    ((dict.setAll items).map Prod.fst).Nodup := by
  induction items generalizing dict with
  | nil => exact distinct
  | cons item items ih => exact ih (nodup_set distinct item.1 item.2)

theorem set_of_fresh {dict : Dict α} {key : String} (fresh : key ∉ dict.map Prod.fst) (value : α) :
    dict.set key value = dict ++ [(key, value)] := by
  induction dict with
  | nil => rfl
  | cons member dict ih =>
    simp only [List.map_cons, List.mem_cons, not_or] at fresh
    rw [set, if_neg (Ne.symm fresh.1), ih fresh.2, List.cons_append]

theorem set_self {dict : Dict α} {key : String} {value : α} (held : dict.lookup key = some value) :
    dict.set key value = dict := by
  induction dict with
  | nil => cases held
  | cons member dict ih =>
    obtain ⟨name, found⟩ := member
    rw [set]
    by_cases here : name = key
    · subst here
      simp only [List.lookup_cons_self, Option.some.injEq] at held
      rw [if_pos rfl, held]
    · rw [List.lookup_cons, beq_false_of_ne (Ne.symm here)] at held
      rw [if_neg here, ih held]

theorem setAll_of_nodup {dict : Dict α} {items : List (String × α)} (distinct : ((dict ++ items).map Prod.fst).Nodup) :
    dict.setAll items = dict ++ items := by
  induction items generalizing dict with
  | nil => simp [setAll]
  | cons item items ih =>
    have fresh : item.1 ∉ dict.map Prod.fst := by
      simp only [List.map_append, List.map_cons, List.nodup_append] at distinct
      intro inside
      exact distinct.2.2 _ inside _ (by simp) rfl
    change (dict.set item.1 item.2).setAll items = _
    rw [set_of_fresh fresh, ih]
    · simp
    · simpa using distinct

/-- The last assignment to a key wins. -/
theorem lookup_setAll (dict : Dict α) (items : List (String × α)) (key : String) :
    (dict.setAll items).lookup key = (items.reverse.lookup key).or (dict.lookup key) := by
  induction items generalizing dict with
  | nil => simp [setAll]
  | cons item items ih =>
    change ((dict.set item.1 item.2).setAll items).lookup key = _
    rw [ih, lookup_set, List.reverse_cons, List.lookup_append]
    obtain ⟨name, value⟩ := item
    by_cases same : key = name <;> simp [same, List.lookup_cons, beq_false_of_ne]

theorem mem_keys_setAll (dict : Dict α) (items : List (String × α)) (key : String) :
    key ∈ (dict.setAll items).map Prod.fst ↔ key ∈ items.map Prod.fst ∨ key ∈ dict.map Prod.fst := by
  induction items generalizing dict with
  | nil => simp [setAll]
  | cons item items ih =>
    change key ∈ ((dict.set item.1 item.2).setAll items).map Prod.fst ↔ _
    rw [ih, mem_keys_set, List.map_cons, List.mem_cons, or_assoc, or_left_comm]

theorem lookup_eq_some_iff {dict : Dict α} (distinct : (dict.map Prod.fst).Nodup) {key : String} {value : α} :
    dict.lookup key = some value ↔ (key, value) ∈ dict := by
  induction dict with
  | nil => simp
  | cons member dict ih =>
    obtain ⟨name, found⟩ := member
    simp only [List.map_cons, List.nodup_cons] at distinct
    by_cases same : key = name
    · subst same
      have absent : (key, value) ∉ dict := fun inside => distinct.1 (List.mem_map.mpr ⟨_, inside, rfl⟩)
      simp [absent, eq_comm]
    · simp [List.lookup_cons, same, beq_false_of_ne same, ih distinct.2]

theorem lookup_perm {left right : Dict α} (perm : left.Perm right) (distinct : (left.map Prod.fst).Nodup)
    (key : String) : left.lookup key = right.lookup key := by
  have other : (right.map Prod.fst).Nodup := (perm.map Prod.fst).nodup_iff.mp distinct
  apply Option.ext
  intro value
  rw [lookup_eq_some_iff distinct, lookup_eq_some_iff other, perm.mem_iff]

theorem lookup_setAll_of_nodup (dict : Dict α) {items : Dict α} (distinct : (items.map Prod.fst).Nodup) (key : String) :
    (dict.setAll items).lookup key = (items.lookup key).or (dict.lookup key) := by
  rw [lookup_setAll, ← lookup_perm items.reverse_perm.symm distinct]

theorem lookup_map_values {β : Type} (view : α → β) (dict : Dict α) (key : String) :
    (dict.map fun item => (item.1, view item.2)).lookup key = (dict.lookup key).map view := by
  induction dict with
  | nil => rfl
  | cons item dict ih =>
    obtain ⟨name, value⟩ := item
    by_cases same : key = name <;> simp [List.lookup_cons, same, beq_false_of_ne, ih]

theorem map_values_put {β : Type} (view : α → β) (dict : Dict α) (key : String) (value : Option α) :
    (dict.put key value).map (fun item => (item.1, view item.2)) =
      Dict.put (dict.map fun item => (item.1, view item.2)) key (value.map view) := by
  cases value with
  | none =>
    rw [put, erase, Option.map_none, put, erase, List.filter_map]
    rfl
  | some value =>
    induction dict with
    | nil => rfl
    | cons item dict ih =>
      simp only [put, Option.map_some] at ih ⊢
      rw [set, List.map_cons, set]
      split_ifs
      · rfl
      · rw [List.map_cons, ih]

theorem mem_of_lookup {dict : Dict α} {key : String} {value : α} (found : dict.lookup key = some value) :
    (key, value) ∈ dict := by
  induction dict with
  | nil => simp at found
  | cons member dict ih =>
    obtain ⟨name, held⟩ := member
    by_cases same : key = name
    · simp_all
    · exact List.mem_cons_of_mem _ (ih (by simpa [List.lookup_cons, beq_false_of_ne same] using found))

theorem perm_of_lookup {left right : Dict α} (first : (left.map Prod.fst).Nodup) (second : (right.map Prod.fst).Nodup)
    (same : ∀ key, left.lookup key = right.lookup key) : left.Perm right := by
  rw [List.perm_ext_iff_of_nodup (.of_map _ first) (.of_map _ second)]
  intro ⟨key, value⟩
  rw [← lookup_eq_some_iff first, ← lookup_eq_some_iff second, same]

end Dict
