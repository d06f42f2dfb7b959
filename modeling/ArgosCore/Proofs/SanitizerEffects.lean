import ArgosCore.Foundations.ByKey
import ArgosCore.Proofs.SanitizerFields

/-! The effect of a run of rules at one place. A rule finds there what the earlier rules of
its path left, unless a rule on the whole field has taken the place away. -/

namespace ArgosCore.Proofs

def pathPresent (payload : Json.Object) (path : String) : Bool :=
  match splitPath path with
  | (field, none) => (payload.lookup field).isSome
  | (field, some key) =>
    match payload.lookup field with
    | some (.obj members) => (members.lookup key).isSome
    | _ => false

def valueAt (working : Json.Object) : String × Option String → Option Json
  | (field, none) => working.lookup field
  | (field, some key) =>
    match working.lookup field with
    | some (.obj members) => members.lookup key
    | _ => none

def writeAt (working : Json.Object) (place : String × Option String) (value : Option Json) : Json.Object :=
  match place with
  | (field, none) => working.put field value
  | (field, some key) =>
    match working.lookup field with
    | some (.obj members) => working.set field (.obj (Dict.put members key value))
    | _ => working

theorem pathPresent_eq (working : Json.Object) (path : String) :
    pathPresent working path = (valueAt working (splitPath path)).isSome := by
  rw [pathPresent]
  generalize splitPath path = place
  obtain ⟨field, key⟩ := place
  cases key with
  | none => rfl
  | some key =>
    simp only [valueAt]
    cases working.lookup field with
    | none => rfl
    | some value => cases value <;> rfl

theorem valueAt_writeAt {working : Json.Object} {place : String × Option String} {value : Json}
    (held : valueAt working place = some value) (written : Json) :
    valueAt (writeAt working place (some written)) place = some written := by
  obtain ⟨field, key⟩ := place
  cases key with
  | none => simp [valueAt, writeAt]
  | some key =>
    rw [valueAt] at held
    split at held
    next members found => simp [valueAt, writeAt, found]
    next => cases held

theorem writeAt_writeAt {working : Json.Object} {place : String × Option String} {value : Json}
    (held : valueAt working place = some value) (earlier : Json) (written : Option Json) :
    writeAt (writeAt working place (some earlier)) place written = writeAt working place written := by
  obtain ⟨field, key⟩ := place
  cases key with
  | none => exact Dict.put_set working field earlier written
  | some key =>
    rw [valueAt] at held
    split at held
    next members found =>
      have members_put : Dict.put (Dict.put members key (some earlier)) key written = Dict.put members key written :=
        Dict.put_set members key earlier written
      have working_put (one other : Json) : (Dict.set working field one).set field other = Dict.set working field other :=
        Dict.put_set working field one (some other)
      simp [writeAt, found, members_put, working_put]
    next => cases held

theorem splitPath_injective : Function.Injective splitPath := by
  intro left right same
  have first := splitPath_eq (Prod.eta (splitPath left)).symm
  have second := splitPath_eq (Prod.eta (splitPath right)).symm
  apply String.toList_inj.mp
  rw [first, second, same]

def traceOf (rule : SanitizationRule) : Transformation := ⟨rule.fieldPath, rule.operation, rule.detail⟩

theorem traceOf_injective : Function.Injective traceOf := by
  intro left right same
  cases left
  cases right
  simpa [traceOf] using same

section
variable [Runtime]

theorem applyOne_isSome (working : Json.Object) (rule : SanitizationRule) :
    (applyOne working rule).isSome = pathPresent working rule.fieldPath := by
  rw [applyOne, pathPresent]
  generalize splitPath rule.fieldPath = place
  obtain ⟨field, nested⟩ := place
  cases found : working.lookup field with
  | none => cases nested <;> simp [found]
  | some value =>
    cases nested with
    | none => simp [found]
    | some key =>
      cases value with
      | obj members => cases inner : members.lookup key <;> simp [found, inner]
      | _ => simp [found]

theorem sanitizeStep_absent {state : Sanitizing} {rule : SanitizationRule}
    (absent : pathPresent state.working rule.fieldPath = false) : sanitizeStep state rule = state := by
  have unapplied : applyOne state.working rule = none := by
    rw [← Option.not_isSome_iff_eq_none, applyOne_isSome, absent]
    simp
  rw [sanitizeStep, unapplied]

theorem sanitizeStep_present {state : Sanitizing} {rule : SanitizationRule}
    (present : pathPresent state.working rule.fieldPath = true) :
    (sanitizeStep state rule).transformations =
      state.transformations ++ [⟨rule.fieldPath, rule.operation, rule.detail⟩] := by
  rw [← applyOne_isSome] at present
  rcases applyOne_cases state.working rule with ⟨absent, _⟩ | rewritten
  · simp [absent] at present
  · rw [sanitizeStep, rewritten]

theorem applyOne_eq (working : Json.Object) (rule : SanitizationRule) :
    applyOne working rule = (valueAt working (splitPath rule.fieldPath)).map fun value =>
      (writeAt working (splitPath rule.fieldPath) (rule.replacement value), traceOf rule) := by
  rw [applyOne]
  generalize splitPath rule.fieldPath = place
  obtain ⟨field, key⟩ := place
  cases found : working.lookup field with
  | none => cases key <;> simp [valueAt, found]
  | some value =>
    cases key with
    | none => simp [valueAt, writeAt, found, traceOf]
    | some key =>
      cases value with
      | obj members => cases inner : members.lookup key <;> simp [valueAt, writeAt, found, inner, traceOf]
      | _ => simp [valueAt, found]

theorem sanitizeStep_held {state : Sanitizing} {rule : SanitizationRule} {value : Json}
    (held : valueAt state.working (splitPath rule.fieldPath) = some value) :
    sanitizeStep state rule =
      { working := writeAt state.working (splitPath rule.fieldPath) (rule.replacement value)
        transformations := state.transformations ++ [traceOf rule]
        fieldsRemoved :=
          if removesField rule.operation then state.fieldsRemoved ++ [rule.fieldPath] else state.fieldsRemoved } := by
  rw [sanitizeStep, applyOne_eq, held]
  rfl

theorem mem_foldl_transformations {rules : List SanitizationRule} {state : Sanitizing} {transformation : Transformation} :
    transformation ∈ (rules.foldl sanitizeStep state).transformations ↔
      transformation ∈ state.transformations ∨ ∃ before rule after, rules = before ++ rule :: after ∧
        traceOf rule = transformation ∧ pathPresent (before.foldl sanitizeStep state).working rule.fieldPath = true := by
  induction rules generalizing state with
  | nil => simp
  | cons rule rules ih =>
    have step : transformation ∈ (sanitizeStep state rule).transformations ↔ transformation ∈ state.transformations ∨
        traceOf rule = transformation ∧ pathPresent state.working rule.fieldPath = true := by
      cases present : pathPresent state.working rule.fieldPath with
      | false => simp [sanitizeStep_absent present]
      | true => simp [sanitizeStep_present present, traceOf, eq_comm]
    rw [List.foldl_cons, ih, step, or_assoc]
    apply or_congr_right
    constructor
    · rintro (⟨trace, found⟩ | ⟨before, other, after, rfl, trace, found⟩)
      · exact ⟨[], rule, rules, rfl, trace, found⟩
      · exact ⟨rule :: before, other, after, rfl, trace, found⟩
    · rintro ⟨before, other, after, split, trace, found⟩
      cases before with
      | nil =>
        obtain ⟨rfl, rfl⟩ := List.cons.inj split
        exact .inl ⟨trace, found⟩
      | cons head before =>
        obtain ⟨rfl, rfl⟩ := List.cons.inj split
        exact .inr ⟨before, other, after, rfl, trace, found⟩

@[simp] theorem slot_none (rules : List SanitizationRule) : slot rules none = none := by
  induction rules with
  | nil => rfl
  | cons rule rules ih => exact ih

theorem slot_append (first second : List SanitizationRule) (value : Option Json) :
    slot (first ++ second) value = slot second (slot first value) := List.foldl_append ..

theorem replacement_ne_obj (rule : SanitizationRule) (value : Json) (members : Json.Object) :
    rule.replacement value ≠ some (.obj members) := by
  rw [SanitizationRule.replacement]
  cases rule.operation <;> simp

/-- A rule leaves a text or nothing, and so no object. -/
theorem slot_ne_obj {rules : List SanitizationRule} (ruled : rules ≠ []) (value : Option Json) (members : Json.Object) :
    slot rules value ≠ some (.obj members) := by
  obtain ⟨earlier, last, rfl⟩ := (List.eq_nil_or_concat' rules).resolve_left ruled
  rw [slot_append]
  cases slot earlier value with
  | none => simp
  | some left => exact replacement_ne_obj last left members

theorem valueAt_foldl_field {rules : List SanitizationRule} (sorted : SortedByPath rules) {field : String}
    (alone : ∀ rule ∈ rules, onMemberPath field rule = false) (state : Sanitizing) :
    valueAt (rules.foldl sanitizeStep state).working (field, none) =
      slot (rules.filter fun rule => splitPath rule.fieldPath = (field, none)) (valueAt state.working (field, none)) := by
  have memberless : rules.filter (onMemberPath field) = [] := by
    simpa [List.filter_eq_nil_iff] using alone
  rw [valueAt, lookup_foldl_sorted sorted, memberless, valueAt]
  exact congrFun Option.map_id _

theorem valueAt_foldl_member {rules : List SanitizationRule} (sorted : SortedByPath rules) (state : Sanitizing)
    (field key : String) :
    valueAt (rules.foldl sanitizeStep state).working (field, some key) =
      if rules.any fun rule => splitPath rule.fieldPath = (field, none) then none
      else slot (rules.filter fun rule => splitPath rule.fieldPath = (field, some key))
        (valueAt state.working (field, some key)) := by
  have some_whole : rules.any (fun rule => splitPath rule.fieldPath = (field, none)) = true ↔
      rules.filter (fun rule => splitPath rule.fieldPath = (field, none)) ≠ [] := by
    simp [List.filter_eq_nil_iff]
  simp only [valueAt, lookup_foldl_sorted sorted]
  split_ifs with whole
  · have text := slot_ne_obj (some_whole.mp whole) (state.working.lookup field)
    rw [map_onMembers_other text]
    split
    next members left => exact absurd left (text members)
    next => rfl
  · rw [not_not.mp (some_whole.not.mp whole), slot_nil]
    cases state.working.lookup field with
    | none => simp
    | some value =>
      cases value with
      | obj members =>
        obtain ⟨released, result, _, lookups⟩ := onMembers_obj (rules.filter (onMemberPath field)) members
        simp only [Option.map_some, result, lookups, filter_memberKey]
      | _ => simp [onMembers_other]

/-- A rule on the whole field takes the place away from the rules on its members. -/
def hidden (rules : List SanitizationRule) (path : String) : Bool :=
  (splitPath path).2.isSome && rules.any fun rule => splitPath rule.fieldPath = ((splitPath path).1, none)

def effective (rules : List SanitizationRule) (payload : Json.Object) (rule : SanitizationRule) : Bool :=
  pathPresent payload rule.fieldPath && !hidden rules rule.fieldPath

omit [Runtime] in
theorem hidden_perm {left right : List SanitizationRule} (perm : left.Perm right) (path : String) :
    hidden left path = hidden right path := by
  rw [hidden, hidden, perm.any_eq]

theorem valueAt_before {before after : List SanitizationRule} {rule : SanitizationRule}
    (sorted : SortedByPath (before ++ rule :: after)) (state : Sanitizing) :
    valueAt (before.foldl sanitizeStep state).working (splitPath rule.fieldPath) =
      if hidden (before ++ rule :: after) rule.fieldPath then none
      else slot (before.filter fun other => other.fieldPath = rule.fieldPath)
        (valueAt state.working (splitPath rule.fieldPath)) := by
  have byPath : (before.filter fun other => other.fieldPath = rule.fieldPath) =
      before.filter fun other => splitPath other.fieldPath = splitPath rule.fieldPath := by
    simp only [splitPath_injective.eq_iff]
  rw [byPath, hidden]
  obtain ⟨sortedBefore, sortedAfter, _⟩ := List.pairwise_append.mp sorted
  have wholeFirst := sorted.field_before_members (splitPath rule.fieldPath).1
  obtain ⟨_, fromRule, across⟩ := List.pairwise_append.mp wholeFirst
  cases place : splitPath rule.fieldPath with
  | mk field nested =>
    simp only [place] at wholeFirst fromRule across ⊢
    cases nested with
    | none =>
      rw [valueAt_foldl_field sortedBefore]
      · simp
      · intro other inside
        have apart := across other inside rule List.mem_cons_self
        simpa [place] using apart
    | some key =>
      have whole : (before ++ rule :: after).any (fun other => splitPath other.fieldPath = (field, none)) =
          before.any fun other => splitPath other.fieldPath = (field, none) := by
        have later : after.any (fun other => splitPath other.fieldPath = (field, none)) = false := by
          rw [List.any_eq_false]
          intro other inside
          have apart := (List.pairwise_cons.mp fromRule).1 other inside
          simpa [onMemberPath, place] using apart
        simp [place, later]
      rw [valueAt_foldl_member sortedBefore, whole]
      simp

end

end ArgosCore.Proofs
