import ArgosCore.Federation.Sanitizer

/-! The sanitized payload field by field. Rules on different fields do not see each
other; of one field, the rules on the field itself come before those on its members,
because a path sorts before its extensions. -/

namespace ArgosCore.Proofs

def pathChars (field : List Char) (key : Option (List Char)) : List Char :=
  field ++ key.elim [] fun child => '.' :: child

theorem splitAtDot_append (chars : List Char) : chars = pathChars (splitAtDot chars).1 (splitAtDot chars).2 := by
  induction chars with
  | nil => rfl
  | cons c chars ih =>
    rw [splitAtDot]
    split_ifs with dot
    · simp [pathChars, dot]
    · exact congrArg (List.cons c) ih

theorem splitPath_eq {path field : String} {key : Option String} (split : splitPath path = (field, key)) :
    path.toList = pathChars field.toList (key.map String.toList) := by
  rw [splitPath, Prod.mk.injEq] at split
  obtain ⟨rfl, rfl⟩ := split
  have whole := splitAtDot_append path.toList
  simpa using whole

section
variable [Runtime]

def slot (rules : List SanitizationRule) (value : Option Json) : Option Json :=
  rules.foldl (fun value rule => value.bind rule.replacement) value

@[simp] theorem slot_nil (value : Option Json) : slot [] value = value := rfl

@[simp] theorem slot_cons (rule : SanitizationRule) (rules : List SanitizationRule) (value : Option Json) :
    slot (rule :: rules) value = slot rules (value.bind rule.replacement) := rfl

def onMember (rule : SanitizationRule) (key : String) : Json → Json
  | .obj members => .obj (Dict.put members key ((members.lookup key).bind rule.replacement))
  | value => value

def onField (rule : SanitizationRule) (field : String) (value : Option Json) : Option Json :=
  if (splitPath rule.fieldPath).1 = field then
    match (splitPath rule.fieldPath).2 with
    | none => value.bind rule.replacement
    | some key => value.map (onMember rule key)
  else value

omit [Runtime] in
private theorem put_absent {members : Json.Object} {key : String} (absent : members.lookup key = none) :
    Dict.put members key none = members := by
  rw [Dict.put, Dict.erase, List.filter_eq_self]
  intro member inside
  simp only [decide_eq_true_eq]
  rintro rfl
  rw [List.lookup_eq_none_iff] at absent
  simpa using absent _ inside

theorem applyOne_cases (working : Json.Object) (rule : SanitizationRule) :
    let top := (splitPath rule.fieldPath).1
    applyOne working rule = none ∧ onField rule top (working.lookup top) = working.lookup top ∨
      applyOne working rule = some (working.put top (onField rule top (working.lookup top)),
        ⟨rule.fieldPath, rule.operation, rule.detail⟩) := by
  simp only [applyOne, onField, if_true]
  generalize splitPath rule.fieldPath = place
  obtain ⟨parent, nested⟩ := place
  cases found : working.lookup parent with
  | none =>
    left
    cases nested <;> simp
  | some value =>
    cases nested with
    | none => simp
    | some key =>
      cases value with
      | obj members =>
        cases inner : members.lookup key with
        | none => simp [inner, onMember, put_absent]
        | some held => simp [inner, onMember, Dict.put]
      | _ => simp [onMember]

theorem onField_other {rule : SanitizationRule} {field : String} (other : (splitPath rule.fieldPath).1 ≠ field)
    (value : Option Json) : onField rule field value = value := if_neg other

theorem lookup_sanitizeStep (state : Sanitizing) (rule : SanitizationRule) (field : String) :
    (sanitizeStep state rule).working.lookup field = onField rule field (state.working.lookup field) := by
  rw [sanitizeStep]
  by_cases here : (splitPath rule.fieldPath).1 = field
  · subst here
    rcases applyOne_cases state.working rule with ⟨absent, unchanged⟩ | rewritten
    · rw [absent, unchanged]
    · simp [rewritten]
  · rw [onField_other here]
    rcases applyOne_cases state.working rule with ⟨absent, _⟩ | rewritten
    · rw [absent]
    · simp [rewritten, Ne.symm here]

theorem lookup_foldl_sanitizeStep (rules : List SanitizationRule) (state : Sanitizing) (field : String) :
    (rules.foldl sanitizeStep state).working.lookup field =
      rules.foldl (fun value rule => onField rule field value) (state.working.lookup field) := by
  induction rules generalizing state with
  | nil => rfl
  | cons rule rules ih => rw [List.foldl_cons, ih, lookup_sanitizeStep, List.foldl_cons]

omit [Runtime] in
/-- A fold whose steps are idle outside two classes, one entirely before the other. -/
theorem foldl_eq_filter_filter {α β : Type} {f : β → α → β} {first second : α → Bool} {items : List α}
    (ordered : items.Pairwise fun earlier later => ¬ (second earlier = true ∧ first later = true))
    (disjoint : ∀ item, ¬ (first item = true ∧ second item = true))
    (idle : ∀ state item, first item = false → second item = false → f state item = state) (start : β) :
    items.foldl f start = (items.filter second).foldl f ((items.filter first).foldl f start) := by
  induction items generalizing start with
  | nil => rfl
  | cons item items ih =>
    obtain ⟨here, later⟩ := List.pairwise_cons.mp ordered
    rw [List.foldl_cons, ih later]
    cases inFirst : first item with
    | true =>
      have notSecond : second item = false := by
        rw [← Bool.not_eq_true]
        exact fun inSecond => disjoint item ⟨inFirst, inSecond⟩
      rw [List.filter_cons_of_pos inFirst, List.filter_cons_of_neg (by simp [notSecond]), List.foldl_cons]
    | false =>
      cases inSecond : second item with
      | true =>
        have none : items.filter first = [] := by
          rw [List.filter_eq_nil_iff]
          exact fun other inside inFirst => here other inside ⟨inSecond, inFirst⟩
        rw [List.filter_cons_of_neg (by simp [inFirst]), List.filter_cons_of_pos inSecond, none, List.foldl_nil,
          List.foldl_nil, List.foldl_cons]
      | false =>
        rw [idle start item inFirst inSecond, List.filter_cons_of_neg (by simp [inFirst]),
          List.filter_cons_of_neg (by simp [inSecond])]

omit [Runtime] in
theorem sortedRules_perm (rules : List SanitizationRule) : (sortedRules rules).Perm rules :=
  List.perm_insertionSort _ rules

/-- The rules on a field itself, in the order in which they are applied. -/
def fieldRules (rules : List SanitizationRule) (field : String) : List SanitizationRule :=
  (sortedRules rules).filter fun rule => splitPath rule.fieldPath = (field, none)

def onMemberPath (field : String) (rule : SanitizationRule) : Bool :=
  (splitPath rule.fieldPath).1 = field && (splitPath rule.fieldPath).2.isSome

def memberKey (rule : SanitizationRule) : String := (splitPath rule.fieldPath).2.getD ""

def memberRules (rules : List SanitizationRule) (field : String) : List SanitizationRule :=
  (sortedRules rules).filter (onMemberPath field)

def onMembers (rules : List SanitizationRule) (value : Json) : Json :=
  rules.foldl (fun value rule => onMember rule (memberKey rule) value) value

abbrev SortedByPath (rules : List SanitizationRule) : Prop :=
  rules.Pairwise fun earlier later => earlier.fieldPath ≤ later.fieldPath

omit [Runtime] in
theorem sortedRules_sorted (rules : List SanitizationRule) : SortedByPath (sortedRules rules) :=
  List.pairwise_insertionSort (fun left right : SanitizationRule => left.fieldPath ≤ right.fieldPath) rules

omit [Runtime] in
theorem SortedByPath.field_before_members {rules : List SanitizationRule} (sorted : SortedByPath rules) (field : String) :
    rules.Pairwise fun earlier later =>
      ¬ (onMemberPath field earlier = true ∧ decide (splitPath later.fieldPath = (field, none)) = true) := by
  apply sorted.imp
  intro earlier later sorted ⟨member, whole⟩
  simp only [onMemberPath, Bool.and_eq_true, decide_eq_true_eq, Option.isSome_iff_exists] at member
  obtain ⟨here, key, found⟩ := member
  have long := splitPath_eq (Prod.ext here found)
  have short := splitPath_eq (of_decide_eq_true whole)
  have shorter : later.fieldPath.toList < earlier.fieldPath.toList := by
    rw [long, short]
    exact List.append_left_lt (List.nil_lt_cons _ _)
  rw [String.le_iff_toList_le] at sorted
  exact absurd shorter (not_lt.mpr sorted)

theorem foldl_fieldRules {rules : List SanitizationRule} {field : String}
    (whole : ∀ rule ∈ rules, splitPath rule.fieldPath = (field, none)) (value : Option Json) :
    rules.foldl (fun value rule => onField rule field value) value = slot rules value := by
  induction rules generalizing value with
  | nil => rfl
  | cons rule rules ih =>
    have step : onField rule field value = value.bind rule.replacement := by
      simp [onField, whole rule List.mem_cons_self]
    rw [List.foldl_cons, step, slot_cons, ih fun other inside => whole other (List.mem_cons_of_mem _ inside)]

theorem foldl_memberRules {rules : List SanitizationRule} {field : String}
    (member : ∀ rule ∈ rules, onMemberPath field rule = true) (value : Option Json) :
    rules.foldl (fun value rule => onField rule field value) value = value.map (onMembers rules) := by
  induction rules generalizing value with
  | nil => cases value <;> rfl
  | cons rule rules ih =>
    have here := member rule List.mem_cons_self
    simp only [onMemberPath, Bool.and_eq_true, decide_eq_true_eq, Option.isSome_iff_exists] at here
    obtain ⟨parent, key, found⟩ := here
    have step : onField rule field value = value.map (onMember rule (memberKey rule)) := by
      simp [onField, memberKey, parent, found]
    rw [List.foldl_cons, step, ih fun other inside => member other (List.mem_cons_of_mem _ inside), Option.map_map]
    rfl

omit [Runtime] in
theorem filter_memberKey (rules : List SanitizationRule) (field key : String) :
    (rules.filter (onMemberPath field)).filter (memberKey · = key) =
      rules.filter fun rule => splitPath rule.fieldPath = (field, some key) := by
  rw [List.filter_filter]
  apply List.filter_congr
  intro rule _
  rw [onMemberPath, memberKey]
  obtain ⟨top, nested⟩ := splitPath rule.fieldPath
  cases nested <;> simp [Bool.and_comm]

theorem onMembers_obj (rules : List SanitizationRule) (members : Json.Object) :
    ∃ released, onMembers rules (.obj members) = .obj released ∧
      ((members.map Prod.fst).Nodup → (released.map Prod.fst).Nodup) ∧
      ∀ key, released.lookup key = slot (rules.filter (memberKey · = key)) (members.lookup key) := by
  induction rules generalizing members with
  | nil => exact ⟨members, rfl, id, fun _ => rfl⟩
  | cons rule rules ih =>
    obtain ⟨released, result, distinct, lookups⟩ :=
      ih (Dict.put members (memberKey rule) ((members.lookup (memberKey rule)).bind rule.replacement))
    refine ⟨released, result, fun first => distinct (Dict.nodup_put first _ _), ?_⟩
    intro key
    rw [lookups, Dict.lookup_put]
    by_cases here : memberKey rule = key
    · rw [if_pos here.symm, List.filter_cons_of_pos (by simpa using here), slot_cons, here]
    · rw [if_neg (Ne.symm here), List.filter_cons_of_neg (by simpa using here)]

theorem onMembers_other {value : Json} (other : ∀ members, value ≠ .obj members) (rules : List SanitizationRule) :
    onMembers rules value = value := by
  induction rules with
  | nil => rfl
  | cons rule rules ih =>
    have step : onMember rule (memberKey rule) value = value := by
      cases value with
      | obj members => exact absurd rfl (other members)
      | _ => rfl
    rw [onMembers, List.foldl_cons, step]
    exact ih

theorem map_onMembers_other {value : Option Json} (other : ∀ members, value ≠ some (.obj members))
    (rules : List SanitizationRule) : value.map (onMembers rules) = value := by
  cases value with
  | none => rfl
  | some value => rw [Option.map_some, onMembers_other fun members same => other members (congrArg some same)]

theorem lookup_foldl_sorted {rules : List SanitizationRule} (sorted : SortedByPath rules) (state : Sanitizing)
    (field : String) :
    (rules.foldl sanitizeStep state).working.lookup field =
      (slot (rules.filter fun rule => splitPath rule.fieldPath = (field, none)) (state.working.lookup field)).map
        (onMembers (rules.filter (onMemberPath field))) := by
  rw [lookup_foldl_sanitizeStep, foldl_eq_filter_filter (sorted.field_before_members field)]
  · rw [foldl_memberRules fun rule inside => (List.mem_filter.mp inside).2,
      foldl_fieldRules fun rule inside => of_decide_eq_true (List.mem_filter.mp inside).2]
  · intro rule
    simp only [onMemberPath, decide_eq_true_eq, Bool.and_eq_true]
    intro ⟨whole, _, member⟩
    simp [whole] at member
  · intro value rule notWhole notMember
    apply onField_other
    intro here
    simp only [onMemberPath, here, decide_true, Bool.true_and, Option.isSome_eq_false_iff, Option.isNone_iff_eq_none] at notMember
    exact of_decide_eq_false notWhole (Prod.ext here notMember)

theorem lookup_releasedPayload (payload : Json.Object) (rules : List SanitizationRule) (field : String) :
    (applySanitization payload rules).releasedPayload.lookup field =
      (slot (fieldRules rules field) (payload.lookup field)).map (onMembers (memberRules rules field)) :=
  lookup_foldl_sorted (sortedRules_sorted rules) _ field

theorem replacement_of_tokenizing {rule : SanitizationRule} (tokenizing : rule.operation = .tokenizeField)
    (value : Json) : rule.replacement value = some (.str (tokenize rule.fieldPath value)) := by
  simp [SanitizationRule.replacement, tokenizing]

theorem replacement_distinct {rule : SanitizationRule} {value result : Json}
    (replaced : rule.replacement value = some result) : result.Distinct := by
  rw [SanitizationRule.replacement] at replaced
  cases operation : rule.operation <;> simp only [operation, Option.some.injEq, reduceCtorEq] at replaced <;> subst replaced <;>
    trivial

theorem onField_distinct {rule : SanitizationRule} {field : String} {value result : Json}
    (distinct : value.Distinct) (rewritten : onField rule field (some value) = some result) : result.Distinct := by
  rw [onField] at rewritten
  split_ifs at rewritten with here
  · cases nested : (splitPath rule.fieldPath).2 with
    | none =>
      rw [nested] at rewritten
      exact replacement_distinct rewritten
    | some key =>
      simp only [nested, Option.map_some, Option.some.injEq] at rewritten
      subst rewritten
      cases value with
      | obj members =>
        refine ⟨Dict.nodup_put distinct.1 _ _, Json.distinctMembers_iff.mpr ?_⟩
        intro member inside
        rcases Dict.mem_of_mem_put inside with replaced | kept
        · cases found : members.lookup key with
          | none => simp [found] at replaced
          | some held =>
            rw [found, Option.bind_some] at replaced
            exact replacement_distinct replaced.symm
        · exact Json.distinctMembers_iff.mp distinct.2 member kept
      | _ => exact distinct
  · exact Option.some.inj rewritten ▸ distinct

theorem sanitizeStep_distinct {state : Sanitizing} (distinct : (Json.obj state.working).Distinct)
    (rule : SanitizationRule) : (Json.obj (sanitizeStep state rule).working).Distinct := by
  rw [sanitizeStep]
  rcases applyOne_cases state.working rule with ⟨absent, _⟩ | rewritten
  · rwa [absent]
  · rw [rewritten]
    refine ⟨Dict.nodup_put distinct.1 _ _, Json.distinctMembers_iff.mpr ?_⟩
    intro member inside
    rcases Dict.mem_of_mem_put inside with replaced | kept
    · cases found : state.working.lookup (splitPath rule.fieldPath).1 with
      | none =>
        rw [found, onField, if_pos rfl] at replaced
        cases nested : (splitPath rule.fieldPath).2 <;> simp [nested] at replaced
      | some value =>
        rw [found] at replaced
        exact onField_distinct (Json.distinctMembers_iff.mp distinct.2 _ (Dict.mem_of_lookup found)) replaced.symm
    · exact Json.distinctMembers_iff.mp distinct.2 member kept

theorem releasedPayload_distinct {payload : Json.Object} (distinct : (Json.obj payload).Distinct)
    (rules : List SanitizationRule) : (Json.obj (applySanitization payload rules).releasedPayload).Distinct := by
  have run (ordered : List SanitizationRule) (state : Sanitizing) (kept : (Json.obj state.working).Distinct) :
      (Json.obj (ordered.foldl sanitizeStep state).working).Distinct := by
    induction ordered generalizing state with
    | nil => exact kept
    | cons rule ordered ih => exact ih _ (sanitizeStep_distinct kept rule)
  exact run (sortedRules rules) ⟨payload, [], []⟩ distinct

end

end ArgosCore.Proofs
