import ArgosCore.Foundations.Dict

/-! A body under a header. The keys of the header are reserved, so whoever opens the record
gets the body back by dropping them. -/

namespace Dict

variable {α : Type} {reserved : List String}

def opened (reserved : List String) (dict : Dict α) : Dict α := dict.filter (·.1 ∉ reserved)

/-- A dictionary that names no reserved key. -/
structure Fits (reserved : List String) (body : Dict α) : Prop where
  distinct : (body.map Prod.fst).Nodup
  apart : ∀ key ∈ body.map Prod.fst, key ∉ reserved

structure Heads (reserved : List String) (header : Dict α) : Prop where
  distinct : (header.map Prod.fst).Nodup
  within : ∀ key ∈ header.map Prod.fst, key ∈ reserved

theorem Fits.of_sublist {body : Dict α} (names : List String) (listed : (body.map Prod.fst).Sublist names)
    (distinct : names.Nodup) (apart : ∀ name ∈ names, name ∉ reserved) : Fits reserved body where
  distinct := distinct.sublist listed
  apart key member := apart key (listed.subset member)

theorem lookup_opened (dict : Dict α) (key : String) :
    (dict.opened reserved).lookup key = if key ∈ reserved then none else dict.lookup key := by
  induction dict with
  | nil => simp [opened]
  | cons member dict ih =>
    obtain ⟨name, value⟩ := member
    rw [opened] at ih ⊢
    by_cases kept : name ∈ reserved
    · rw [List.filter_cons_of_neg (by simp [kept]), ih]
      by_cases same : key = name
      · simp [same, kept]
      · simp [List.lookup_cons, beq_false_of_ne same]
    · rw [List.filter_cons_of_pos (by simp [kept]), List.lookup_cons, List.lookup_cons, ih]
      by_cases same : key = name
      · simp [same, kept]
      · simp [beq_false_of_ne same]

theorem opened_set {key : String} (dropped : key ∈ reserved) (dict : Dict α) (value : α) :
    (dict.set key value).opened reserved = dict.opened reserved := by
  induction dict with
  | nil => simp [Dict.set, opened, dropped]
  | cons member dict ih =>
    rw [opened] at ih ⊢
    rw [Dict.set]
    split_ifs with here
    · subst here
      simp [opened, dropped]
    · rw [List.filter_cons, ih, opened, opened, List.filter_cons]

theorem opened_of_subset {narrow wide : List String} (within : narrow ⊆ wide) (dict : Dict α) :
    (dict.opened narrow).opened wide = dict.opened wide := by
  rw [opened, opened, opened, List.filter_filter]
  apply List.filter_congr
  intro member _
  have implied : member.1 ∉ wide → member.1 ∉ narrow := fun outside inside => outside (within inside)
  by_cases outside : member.1 ∈ wide <;> simp [outside, implied]

theorem opened_comm (one other : List String) (dict : Dict α) :
    (dict.opened one).opened other = (dict.opened other).opened one := by
  rw [opened, opened, opened, opened, List.filter_filter, List.filter_filter]
  simp only [Bool.and_comm]

theorem opened_eq_self {dict : Dict α} (apart : ∀ key ∈ dict.map Prod.fst, key ∉ reserved) : dict.opened reserved = dict := by
  apply List.filter_eq_self.mpr
  intro member inside
  simpa using apart _ (List.mem_map_of_mem inside)

theorem mem_keys_opened {dict : Dict α} {key : String} :
    key ∈ (dict.opened reserved).map Prod.fst ↔ key ∈ dict.map Prod.fst ∧ key ∉ reserved := by
  simp [opened]

/-- `for key in keys: dict.pop(key, None)` -/
theorem foldl_erase_eq (keys : List String) (dict : Dict α) : keys.foldl erase dict = dict.opened keys := by
  induction keys generalizing dict with
  | nil => simp [opened]
  | cons key keys ih =>
    rw [List.foldl_cons, ih, erase, opened, opened, List.filter_filter]
    apply List.filter_congr
    intro member _
    simp [Bool.and_comm]

theorem nodup_opened {dict : Dict α} (distinct : (dict.map Prod.fst).Nodup) (reserved : List String) :
    ((dict.opened reserved).map Prod.fst).Nodup := distinct.sublist (List.filter_sublist.map _)

theorem Heads.lookup_eq_none {header : Dict α} (heads : Heads reserved header) {key : String} (other : key ∉ reserved) :
    header.lookup key = none := by
  rw [List.lookup_eq_none_iff]
  intro member inside
  rw [bne_iff_ne]
  rintro rfl
  exact other (heads.within _ (List.mem_map_of_mem inside))

theorem Heads.set {header : Dict α} (heads : Heads reserved header) {key : String} (known : key ∈ reserved) (value : α) :
    Heads reserved (header.set key value) where
  distinct := nodup_set heads.distinct key value
  within other member := by
    rcases (mem_keys_set ..).mp member with rfl | held
    · exact known
    · exact heads.within other held

theorem Heads.setAll_eq {header body : Dict α} (heads : Heads reserved header) (fits : Fits reserved body) :
    header.setAll body = header ++ body := by
  apply setAll_of_nodup
  rw [List.map_append, List.nodup_append]
  refine ⟨heads.distinct, fits.distinct, fun key first other second same => ?_⟩
  exact fits.apart other second (same ▸ heads.within key first)

theorem Heads.opened_setAll {header body : Dict α} (heads : Heads reserved header) (fits : Fits reserved body) :
    (header.setAll body).opened reserved = body := by
  rw [heads.setAll_eq fits, opened, List.filter_append, List.filter_eq_nil_iff.mpr, List.filter_eq_self.mpr, List.nil_append]
  · intro member inside
    simpa using fits.apart _ (List.mem_map_of_mem inside)
  · intro member inside
    simpa using heads.within _ (List.mem_map_of_mem inside)

theorem Heads.lookup_setAll {header body : Dict α} (heads : Heads reserved header) (fits : Fits reserved body) {key : String}
    (held : key ∈ header.map Prod.fst) : (header.setAll body).lookup key = header.lookup key := by
  rw [Dict.lookup_setAll_of_nodup _ fits.distinct, List.lookup_eq_none_iff.mpr, Option.none_or]
  intro member inside
  have other := fits.apart _ (List.mem_map_of_mem inside)
  have reservedKey := heads.within key held
  simp only [bne_iff_ne, ne_eq]
  rintro rfl
  exact other reservedKey

end Dict
