import ArgosCore.Foundations.Dict

/-! Write-once use of a dictionary: a key belongs to the value that claims it
first. Later claims leave the dictionary as it is, agreeing or not. -/

namespace Dict

variable {α : Type}

/-- `if key not in dict: dict[key] = value` -/
def claim (dict : Dict α) (key : String) (value : α) : Dict α :=
  if (dict.lookup key).isSome then dict else dict.set key value

def claims (dict : Dict α) (items : List (String × α)) : Dict α :=
  items.foldl (fun dict item => dict.claim item.1 item.2) dict

@[simp] theorem claims_nil (dict : Dict α) : dict.claims [] = dict := rfl

@[simp] theorem claims_cons (dict : Dict α) (item : String × α) (items : List (String × α)) :
    dict.claims (item :: items) = (dict.claim item.1 item.2).claims items := rfl

theorem lookup_claim (dict : Dict α) (key other : String) (value : α) :
    (dict.claim key value).lookup other = (dict.lookup other).or (if other = key then some value else none) := by
  rw [claim]
  by_cases same : other = key
  · subst same
    cases found : dict.lookup other <;> simp [found]
  · cases found : dict.lookup key <;> simp [same]

theorem nodup_claim {dict : Dict α} (distinct : (dict.map Prod.fst).Nodup) (key : String) (value : α) :
    ((dict.claim key value).map Prod.fst).Nodup := by
  rw [claim]
  split
  · exact distinct
  · exact nodup_set distinct key value

theorem mem_keys_claim {dict : Dict α} {key other : String} {value : α}
    (member : other ∈ (dict.claim key value).map Prod.fst) : other = key ∨ other ∈ dict.map Prod.fst := by
  rw [claim] at member
  split at member
  · exact .inr member
  · exact (mem_keys_set ..).mp member

theorem mem_of_mem_claim {dict : Dict α} {key : String} {value : α} {member : String × α}
    (inside : member ∈ dict.claim key value) : member = (key, value) ∨ member ∈ dict := by
  rw [claim] at inside
  split at inside
  · exact .inr inside
  · exact mem_of_mem_set inside

theorem lookup_claims (dict : Dict α) (items : List (String × α)) (key : String) :
    (dict.claims items).lookup key = (dict.lookup key).or (items.lookup key) := by
  induction items generalizing dict with
  | nil => simp
  | cons item items ih =>
    obtain ⟨name, value⟩ := item
    rw [claims_cons, ih, lookup_claim, Option.or_assoc]
    by_cases same : key = name <;> simp [same, List.lookup_cons, beq_false_of_ne]

theorem claims_keeps {dict : Dict α} {key : String} {value : α} (found : dict.lookup key = some value)
    (items : List (String × α)) : (dict.claims items).lookup key = some value := by
  rw [lookup_claims, found, Option.some_or]

/-- The value at `key` is, or would be, another one than `value`. -/
def Conflicts (dict : Dict α) (key : String) (value : α) : Prop :=
  ∃ other, dict.lookup key = some other ∧ other ≠ value

instance [DecidableEq α] (dict : Dict α) (key : String) (value : α) : Decidable (dict.Conflicts key value) :=
  decidable_of_iff ((dict.lookup key).any (· ≠ value) = true) (by simp [Conflicts, Option.any_eq_true])

theorem conflicts_iff_claim {dict : Dict α} {key : String} {value : α} :
    dict.Conflicts key value ↔ (dict.claim key value).lookup key ≠ some value := by
  rw [lookup_claim, if_pos rfl, Conflicts]
  cases dict.lookup key <;> simp

theorem conflicts_claims_claim (dict : Dict α) (key : String) (value : α) (items : List (String × α)) :
    ((dict.claim key value).claims items).Conflicts key value ↔ dict.Conflicts key value := by
  simp only [Conflicts, lookup_claims, lookup_claim]
  cases dict.lookup key <;> simp

theorem conflicts_claim_iff (dict : Dict α) (key asked : String) (claimed value : α) (items : List (String × α)) :
    (((dict.claim key claimed).claims items).Conflicts asked value ↔ (dict.claims items).Conflicts asked value) ↔
      (dict.lookup key).isSome ∨ asked ≠ key ∨
        ∀ first, (items ++ [(asked, value)]).lookup key = some first → (value = claimed ↔ value = first) := by
  simp only [Conflicts, lookup_claims, lookup_claim, List.lookup_append]
  by_cases same : asked = key
  · subst same
    cases dict.lookup asked with
    | some found => simp
    | none => cases items.lookup asked <;> simp [eq_comm, not_iff_not]
  · simp [same]

end Dict
