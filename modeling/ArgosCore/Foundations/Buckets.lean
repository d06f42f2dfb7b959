import Mathlib.Data.List.Dedup
import Mathlib.Data.List.Induction
import Mathlib.Data.List.Perm.Basic

/-! Items put into one bucket for each key. The buckets stand in the order in which the
keys appear, and a bucket keeps the order of its items. -/

namespace Buckets

variable {α β κ ι : Type} [DecidableEq κ] [DecidableEq ι] {key : α → κ} {items : List α}

/-- Add the item to the bucket of the key, which is made when it is not there. -/
def put (value : κ) (item : α) : List (κ × List α) → List (κ × List α)
  | [] => [(value, [item])]
  | bucket :: buckets =>
    if bucket.1 = value then (value, bucket.2 ++ [item]) :: buckets else bucket :: put value item buckets

def buckets (key : α → κ) (items : List α) : List (κ × List α) :=
  items.foldl (fun buckets item => put (key item) item buckets) []

def keys (key : α → κ) (items : List α) : List κ := (items.map key).eraseDups

def ofKey (key : α → κ) (items : List α) (value : κ) : List α := items.filter (key · = value)

theorem mem_keys {value : κ} : value ∈ keys key items ↔ ∃ item ∈ items, key item = value := by
  rw [keys, List.mem_eraseDups, List.mem_map]

theorem mem_ofKey {value : κ} {item : α} : item ∈ ofKey key items value ↔ item ∈ items ∧ key item = value := by
  rw [ofKey, List.mem_filter, decide_eq_true_eq]

theorem ofKey_eq_nil {value : κ} (absent : value ∉ keys key items) : ofKey key items value = [] := by
  rw [List.eq_nil_iff_forall_not_mem]
  intro item inside
  exact absent (mem_keys.mpr ⟨item, mem_ofKey.mp inside⟩)

theorem keys_concat (key : α → κ) (items : List α) (item : α) :
    keys key (items ++ [item]) = if key item ∈ keys key items then keys key items else keys key items ++ [key item] := by
  rw [keys, List.map_append, List.map_singleton, List.eraseDups_append, ← keys]
  by_cases known : key item ∈ keys key items
  · have old : ([key item] : List κ).removeAll (items.map key) = [] := by
      simpa [List.removeAll, keys, List.mem_eraseDups] using known
    rw [if_pos known, old, List.eraseDups_nil, List.append_nil]
  · have new : ([key item] : List κ).removeAll (items.map key) = [key item] := by
      simpa [List.removeAll, keys, List.mem_eraseDups] using known
    rw [if_neg known, new]
    rfl

theorem nodup_keys (key : α → κ) (items : List α) : (keys key items).Nodup := by
  induction items using List.reverseRecOn with
  | nil => exact List.nodup_nil
  | append_singleton items item ih =>
    rw [keys_concat]
    split_ifs with known
    · exact ih
    · exact List.nodup_append.mpr ⟨ih, List.nodup_singleton _, fun one inside other also => by
        rintro rfl
        exact known (List.mem_singleton.mp also ▸ inside)⟩

theorem keys_perm {left right : List α} (perm : left.Perm right) : (keys key left).Perm (keys key right) := by
  rw [List.perm_ext_iff_of_nodup (nodup_keys key left) (nodup_keys key right)]
  intro value
  simp only [mem_keys, perm.mem_iff]

theorem keys_map (key : β → κ) (view : α → β) (items : List α) : keys key (items.map view) = keys (key ∘ view) items := by
  rw [keys, List.map_map, keys]

theorem ofKey_map (key : β → κ) (view : α → β) (items : List α) (value : κ) :
    ofKey key (items.map view) value = (ofKey (key ∘ view) items value).map view := by
  rw [ofKey, List.filter_map]
  rfl

theorem keys_relabel {relabel : κ → ι} (injective : Function.Injective relabel) (key : α → κ) (items : List α) :
    keys (relabel ∘ key) items = (keys key items).map relabel := by
  induction items using List.reverseRecOn with
  | nil => rfl
  | append_singleton items item ih =>
    simp only [keys_concat, ih, Function.comp_apply, List.mem_map_of_injective injective]
    split_ifs with known
    · rfl
    · rw [List.map_append, List.map_singleton]

theorem ofKey_relabel {relabel : κ → ι} (injective : Function.Injective relabel) (key : α → κ) (items : List α) (value : κ) :
    ofKey (relabel ∘ key) items (relabel value) = ofKey key items value := by
  simp only [ofKey, Function.comp_apply, injective.eq_iff]

private theorem put_map (value : κ) (item : α) {known : List κ} (distinct : known.Nodup) (held : κ → List α) :
    put value item (known.map fun name => (name, held name)) =
      if value ∈ known then known.map fun name => (name, if name = value then held name ++ [item] else held name)
      else (known.map fun name => (name, held name)) ++ [(value, [item])] := by
  induction known with
  | nil => rfl
  | cons first known ih =>
    obtain ⟨apart, rest⟩ := List.nodup_cons.mp distinct
    rw [List.map_cons, put]
    by_cases here : first = value
    · subst here
      have others : known.map (fun name => (name, if name = first then held name ++ [item] else held name)) =
          known.map fun name => (name, held name) := by
        apply List.map_congr_left
        intro name inside
        rw [if_neg (ne_of_mem_of_not_mem inside apart)]
      rw [if_pos rfl, if_pos List.mem_cons_self, List.map_cons, if_pos rfl, others]
    · rw [if_neg here, ih rest]
      by_cases later : value ∈ known
      · simp [later, here]
      · simp [later, Ne.symm here]

/-- The specification of the loop that fills the buckets. -/
theorem buckets_eq (key : α → κ) (items : List α) :
    buckets key items = (keys key items).map fun value => (value, ofKey key items value) := by
  induction items using List.reverseRecOn with
  | nil => rfl
  | append_singleton items item ih =>
    have held (value : κ) : ofKey key (items ++ [item]) value =
        if value = key item then ofKey key items value ++ [item] else ofKey key items value := by
      rw [ofKey, List.filter_append, ← ofKey]
      by_cases same : value = key item
      · simp [same]
      · simp [same, Ne.symm same]
    rw [buckets, List.foldl_append, ← buckets, ih]
    rw [List.foldl_cons, List.foldl_nil, put_map _ _ (nodup_keys key items), keys_concat]
    split_ifs with known
    · simp only [held]
    · rw [List.map_append, List.map_singleton, held, if_pos rfl, ofKey_eq_nil known]
      congr 1
      apply List.map_congr_left
      intro value inside
      rw [held, if_neg (ne_of_mem_of_not_mem inside known)]

theorem flatMap_ofKey_perm_filter (key : α → κ) (items : List α) {known : List κ} (distinct : known.Nodup) :
    (known.flatMap (ofKey key items)).Perm (items.filter (key · ∈ known)) := by
  induction known with
  | nil => simp
  | cons value known ih =>
    obtain ⟨apart, rest⟩ := List.nodup_cons.mp distinct
    have split := List.filter_append_perm (key · = value) (items.filter (key · ∈ value :: known))
    rw [List.filter_filter, List.filter_filter] at split
    have here : items.filter (fun item => decide (key item = value) && decide (key item ∈ value :: known)) =
        ofKey key items value := by
      apply List.filter_congr
      intro item _
      by_cases same : key item = value <;> simp [same]
    have others : items.filter (fun item => !decide (key item = value) && decide (key item ∈ value :: known)) =
        items.filter (key · ∈ known) := by
      apply List.filter_congr
      intro item _
      by_cases same : key item = value <;> simp [same, apart]
    rw [here, others] at split
    exact ((ih rest).append_left _).trans split

theorem flatMap_ofKey_perm_of_mem {known : List κ} (distinct : known.Nodup) (all : ∀ item ∈ items, key item ∈ known) :
    (known.flatMap (ofKey key items)).Perm items := by
  apply (flatMap_ofKey_perm_filter key items distinct).trans
  rw [List.filter_eq_self.mpr fun item inside => decide_eq_true (all item inside)]

theorem flatMap_ofKey_perm (key : α → κ) (items : List α) : ((keys key items).flatMap (ofKey key items)).Perm items :=
  flatMap_ofKey_perm_of_mem (nodup_keys key items) fun item inside => mem_keys.mpr ⟨item, inside, rfl⟩

end Buckets
