import ArgosCore.Proofs.SanitizerFields

/-! When redacted data stays out of a release. A rule that erases a place makes it
constant, whatever else happens there; a token of a field is taken before the rules
on the members of the field, so it can carry what they erase. -/

namespace ArgosCore.Proofs

/-- Some rule removes, redacts or generalizes the field, or its member `key`. -/
def Erased (rules : List SanitizationRule) (field : String) (key : Option String) : Prop :=
  ∃ rule ∈ rules, rule.operation ≠ .tokenizeField ∧ splitPath rule.fieldPath = (field, key)

def DifferInErasedMembers (rules : List SanitizationRule) (field : String) (left right : Json) : Prop :=
  left.sortKeys = right.sortKeys ∨
    ∃ one other, left = .obj one ∧ right = .obj other ∧
      (∀ key, (one.lookup key).isSome = (other.lookup key).isSome) ∧
      ∀ key value another, one.lookup key = some value → other.lookup key = some another →
        Erased rules field (some key) ∨ value.sortKeys = another.sortKeys

/-- Two payloads with the same keys that differ at erased places only. -/
structure DifferWhereErased (rules : List SanitizationRule) (left right : Json.Object) : Prop where
  keys : ∀ field, (left.lookup field).isSome = (right.lookup field).isSome
  values : ∀ field one other, left.lookup field = some one → right.lookup field = some other →
    Erased rules field none ∨ DifferInErasedMembers rules field one other

def tokenizations (rules : List SanitizationRule) (field : String) : Nat :=
  rules.countP fun rule => rule.operation = .tokenizeField ∧ splitPath rule.fieldPath = (field, none)

section
variable [Runtime]

def tokenized (field : String) (times : Nat) (value : Json) : Json :=
  (fun value => Json.str (tokenize field value))^[times] value

def TokensAgree (rules : List SanitizationRule) (left right : Json.Object) : Prop :=
  ∀ field one other, left.lookup field = some one → right.lookup field = some other →
    ¬ Erased rules field none → tokenizations rules field ≠ 0 →
    tokenized field (tokenizations rules field) one = tokenized field (tokenizations rules field) other

theorem replacement_of_erasing {rule : SanitizationRule} (erasing : rule.operation ≠ .tokenizeField)
    (left right : Json) : rule.replacement left = rule.replacement right := by
  cases operation : rule.operation <;> simp_all [SanitizationRule.replacement]

theorem replacement_congr {left right : Json} (same : left.sortKeys = right.sortKeys) (rule : SanitizationRule) :
    rule.replacement left = rule.replacement right := by
  by_cases tokenizing : rule.operation = .tokenizeField
  · simp [replacement_of_tokenizing tokenizing, tokenize, Json.canonical, same]
  · exact replacement_of_erasing tokenizing left right

theorem slot_congr {left right : Option Json} (same : left.map Json.sortKeys = right.map Json.sortKeys)
    (rules : List SanitizationRule) :
    (slot rules left).map Json.sortKeys = (slot rules right).map Json.sortKeys := by
  cases rules with
  | nil => exact same
  | cons rule rules =>
    cases left with
    | none =>
      cases right with
      | none => rfl
      | some right => simp at same
    | some left =>
      cases right with
      | none => simp at same
      | some right =>
        have replaced := replacement_congr (Option.some.inj same) rule
        rw [slot_cons, slot_cons, Option.bind_some, Option.bind_some, replaced]

omit [Runtime] in
theorem isSome_cases {α : Type} {left right : Option α} (shape : left.isSome = right.isSome) :
    left = none ∧ right = none ∨ ∃ one other, left = some one ∧ right = some other := by
  cases left <;> cases right <;> simp at shape ⊢

theorem slot_erased {rules : List SanitizationRule} {left right : Option Json}
    (shape : left.isSome = right.isSome) (erased : ∃ rule ∈ rules, rule.operation ≠ .tokenizeField) :
    slot rules left = slot rules right := by
  induction rules generalizing left right with
  | nil => simp at erased
  | cons rule rules ih =>
    rcases isSome_cases shape with ⟨rfl, rfl⟩ | ⟨one, other, rfl, rfl⟩
    · rfl
    · rw [slot_cons, slot_cons, Option.bind_some, Option.bind_some]
      by_cases tokenizing : rule.operation = .tokenizeField
      · apply ih
        · simp [replacement_of_tokenizing tokenizing]
        · obtain ⟨eraser, inside, erasing⟩ := erased
          rcases List.mem_cons.mp inside with rfl | later
          · exact absurd tokenizing erasing
          · exact ⟨eraser, later, erasing⟩
      · rw [replacement_of_erasing tokenizing one other]

theorem slot_tokenized {rules : List SanitizationRule} {path : String}
    (tokenizing : ∀ rule ∈ rules, rule.operation = .tokenizeField ∧ rule.fieldPath = path) (value : Json) :
    slot rules (some value) = some (tokenized path rules.length value) := by
  induction rules generalizing value with
  | nil => rfl
  | cons rule rules ih =>
    obtain ⟨operation, here⟩ := tokenizing rule List.mem_cons_self
    rw [slot_cons, Option.bind_some, replacement_of_tokenizing operation, here,
      ih (fun other inside => tokenizing other (List.mem_cons_of_mem _ inside))]
    rfl

omit [Runtime] in
theorem mem_fieldRules {rules : List SanitizationRule} {field : String} {rule : SanitizationRule} :
    rule ∈ fieldRules rules field ↔ rule ∈ rules ∧ splitPath rule.fieldPath = (field, none) := by
  rw [fieldRules, List.mem_filter, (sortedRules_perm rules).mem_iff, decide_eq_true_eq]

omit [Runtime] in
theorem erased_field_iff {rules : List SanitizationRule} {field : String} :
    Erased rules field none ↔ ∃ rule ∈ fieldRules rules field, rule.operation ≠ .tokenizeField := by
  simp only [Erased, mem_fieldRules]
  tauto

omit [Runtime] in
theorem fieldRules_tokenizing {rules : List SanitizationRule} {field : String} (kept : ¬ Erased rules field none) :
    ∀ rule ∈ fieldRules rules field, rule.operation = .tokenizeField ∧ rule.fieldPath = field := by
  intro rule inside
  rw [erased_field_iff] at kept
  refine ⟨by_contra fun erasing => kept ⟨rule, inside, erasing⟩, ?_⟩
  have path := splitPath_eq (mem_fieldRules.mp inside).2
  exact String.toList_inj.mp (by simpa [pathChars] using path)

omit [Runtime] in
theorem length_fieldRules {rules : List SanitizationRule} {field : String} (kept : ¬ Erased rules field none) :
    (fieldRules rules field).length = tokenizations rules field := by
  rw [fieldRules, ← List.countP_eq_length_filter, tokenizations,
    (sortedRules_perm rules).countP_eq]
  apply List.countP_congr
  intro rule inside
  simp only [decide_eq_true_eq]
  constructor
  · intro here
    exact ⟨by_contra fun erasing => kept ⟨rule, inside, erasing, here⟩, here⟩
  · exact And.right

omit [Runtime] in
theorem erased_member_iff {rules : List SanitizationRule} {field key : String} :
    Erased rules field (some key) ↔
      ∃ rule ∈ (memberRules rules field).filter (memberKey · = key), rule.operation ≠ .tokenizeField := by
  rw [memberRules, filter_memberKey]
  simp only [Erased, List.mem_filter, (sortedRules_perm rules).mem_iff, decide_eq_true_eq]
  tauto

omit [Runtime] in
private theorem sortKeys_obj {value : Json} {members : Json.Object} (same : value.sortKeys = (Json.obj members).sortKeys) :
    ∃ other, value = .obj other := by
  cases value <;> simp_all [Json.sortKeys]

omit [Runtime] in
theorem differInErasedMembers_obj {rules : List SanitizationRule} {field : String} {one other : Json.Object}
    (first : (Json.obj one).Distinct) (second : (Json.obj other).Distinct)
    (same : (Json.obj one).sortKeys = (Json.obj other).sortKeys) :
    (∀ key, (one.lookup key).isSome = (other.lookup key).isSome) ∧
      ∀ key value another, one.lookup key = some value → other.lookup key = some another →
        Erased rules field (some key) ∨ value.sortKeys = another.sortKeys := by
  have lookups := Json.lookup_of_sortKeys_eq first.1 second.1 same
  constructor
  · intro key
    simpa using congrArg Option.isSome (lookups key)
  · intro key value another found alsoFound
    right
    simpa [found, alsoFound] using lookups key

theorem onMembers_agree {rules : List SanitizationRule} {field : String} {left right : Json}
    (first : left.Distinct) (second : right.Distinct) (agree : DifferInErasedMembers rules field left right) :
    (onMembers (memberRules rules field) left).sortKeys = (onMembers (memberRules rules field) right).sortKeys := by
  have objects (one other : Json.Object) (distinct : (Json.obj one).Distinct) (distinctToo : (Json.obj other).Distinct)
      (keys : ∀ key, (one.lookup key).isSome = (other.lookup key).isSome)
      (values : ∀ key value another, one.lookup key = some value → other.lookup key = some another →
        Erased rules field (some key) ∨ value.sortKeys = another.sortKeys) :
      (onMembers (memberRules rules field) (.obj one)).sortKeys =
        (onMembers (memberRules rules field) (.obj other)).sortKeys := by
    obtain ⟨released, result, kept, lookups⟩ := onMembers_obj (memberRules rules field) one
    obtain ⟨releasedToo, resultToo, keptToo, lookupsToo⟩ := onMembers_obj (memberRules rules field) other
    rw [result, resultToo]
    apply Json.sortKeys_eq_of_lookup (kept distinct.1) (keptToo distinctToo.1)
    intro key
    rw [lookups, lookupsToo]
    by_cases erased : Erased rules field (some key)
    · rw [slot_erased (keys key) (erased_member_iff.mp erased)]
    · apply slot_congr
      rcases isSome_cases (keys key) with ⟨absent, alsoAbsent⟩ | ⟨value, another, found, alsoFound⟩
      · rw [absent, alsoAbsent]
      · rw [found, alsoFound, Option.map_some, Option.map_some,
          (values key value another found alsoFound).resolve_left erased]
  rcases agree with same | ⟨one, other, rfl, rfl, keys, values⟩
  · cases right with
    | obj other =>
      obtain ⟨one, rfl⟩ := sortKeys_obj same
      obtain ⟨keys, values⟩ := differInErasedMembers_obj first second same
      exact objects one other first second keys values
    | _ =>
      have notObject : ∀ members, left ≠ .obj members := by
        intro members isObject
        subst isObject
        simp [Json.sortKeys] at same
      rw [onMembers_other notObject, onMembers_other (by simp), same]
  · exact objects one other first second keys values

theorem releasedField_agree {rules : List SanitizationRule} {left right : Json.Object}
    (first : (Json.obj left).Distinct) (second : (Json.obj right).Distinct) (agree : DifferWhereErased rules left right)
    (tokens : TokensAgree rules left right) (field : String) :
    ((applySanitization left rules).releasedPayload.lookup field).map Json.sortKeys =
      ((applySanitization right rules).releasedPayload.lookup field).map Json.sortKeys := by
  rw [lookup_releasedPayload, lookup_releasedPayload]
  by_cases erased : Erased rules field none
  · rw [slot_erased (agree.keys field) (erased_field_iff.mp erased)]
  · rcases isSome_cases (agree.keys field) with ⟨absent, alsoAbsent⟩ | ⟨one, other, found, alsoFound⟩
    · rw [absent, alsoAbsent]
    · rw [found, alsoFound]
      by_cases untouched : tokenizations rules field = 0
      · have none : fieldRules rules field = [] := by
          rw [← List.length_eq_zero_iff, length_fieldRules erased, untouched]
        rw [none, slot_nil, slot_nil, Option.map_some, Option.map_some, Option.map_some, Option.map_some]
        congr 1
        apply onMembers_agree
        · exact Json.distinctMembers_iff.mp first.2 _ (Dict.mem_of_lookup found)
        · exact Json.distinctMembers_iff.mp second.2 _ (Dict.mem_of_lookup alsoFound)
        · exact (agree.values field one other found alsoFound).resolve_left erased
      · rw [slot_tokenized (fieldRules_tokenizing erased), slot_tokenized (fieldRules_tokenizing erased),
          length_fieldRules erased, tokens field one other found alsoFound erased untouched]

/-- A tokenized field is released as its token: the rules on its members find no object. -/
theorem lookup_tokenizedField {rules : List SanitizationRule} {payload : Json.Object} {field : String} {value : Json}
    (found : payload.lookup field = some value) (kept : ¬ Erased rules field none)
    (touched : tokenizations rules field ≠ 0) :
    (applySanitization payload rules).releasedPayload.lookup field =
      some (tokenized field (tokenizations rules field) value) := by
  rw [lookup_releasedPayload, found, slot_tokenized (fieldRules_tokenizing kept), length_fieldRules kept, Option.map_some,
    onMembers_other]
  intro members
  obtain ⟨times, count⟩ := Nat.exists_eq_succ_of_ne_zero touched
  rw [count, tokenized, Function.iterate_succ_apply']
  simp

/-- Payloads that differ where the policy erases are released alike exactly when the
tokens that the policy takes of whole fields do not tell them apart. -/
theorem release_independent_iff {rules : List SanitizationRule} {left right : Json.Object}
    (first : (Json.obj left).Distinct) (second : (Json.obj right).Distinct) (agree : DifferWhereErased rules left right) :
    ((Json.obj (applySanitization left rules).releasedPayload).sortKeys =
          (Json.obj (applySanitization right rules).releasedPayload).sortKeys ∧
        (applySanitization left rules).releasedHash = (applySanitization right rules).releasedHash) ↔
      TokensAgree rules left right := by
  have firstReleased := releasedPayload_distinct first rules
  have secondReleased := releasedPayload_distinct second rules
  constructor
  · intro ⟨payloads, _⟩ field one other found alsoFound kept touched
    have same := Json.lookup_of_sortKeys_eq firstReleased.1 secondReleased.1 payloads field
    rw [lookup_tokenizedField found kept touched, lookup_tokenizedField alsoFound kept touched] at same
    obtain ⟨times, count⟩ := Nat.exists_eq_succ_of_ne_zero touched
    rw [count, tokenized, tokenized, Function.iterate_succ_apply', Function.iterate_succ_apply'] at same ⊢
    simpa [Json.sortKeys] using same
  · intro tokens
    have payloads := Json.sortKeys_eq_of_lookup firstReleased.1 secondReleased.1
      (releasedField_agree first second agree tokens)
    exact ⟨payloads, hashJson_congr payloads⟩

/-- Where no token is taken of a field with erased members, nothing erased gets out. -/
theorem tokensAgree_of_rules {rules : List SanitizationRule} {left right : Json.Object}
    (first : (Json.obj left).Distinct) (second : (Json.obj right).Distinct) (agree : DifferWhereErased rules left right)
    (separate : ∀ field key, tokenizations rules field ≠ 0 → Erased rules field none ∨ ¬ Erased rules field (some key)) :
    TokensAgree rules left right := by
  intro field one other found alsoFound kept touched
  have whole (key : String) : ¬ Erased rules field (some key) := (separate field key touched).resolve_left kept
  have same : one.sortKeys = other.sortKeys := by
    rcases (agree.values field one other found alsoFound).resolve_left kept with
      same | ⟨members, others, rfl, rfl, keys, values⟩
    · exact same
    · apply Json.sortKeys_eq_of_lookup
      · exact (Json.distinctMembers_iff.mp first.2 _ (Dict.mem_of_lookup found)).1
      · exact (Json.distinctMembers_iff.mp second.2 _ (Dict.mem_of_lookup alsoFound)).1
      · intro key
        rcases isSome_cases (keys key) with ⟨absent, alsoAbsent⟩ | ⟨value, another, inside, alsoInside⟩
        · rw [absent, alsoAbsent]
        · rw [inside, alsoInside, Option.map_some, Option.map_some,
            (values key value another inside alsoInside).resolve_left (whole key)]
  obtain ⟨times, count⟩ := Nat.exists_eq_succ_of_ne_zero touched
  rw [count, tokenized, tokenized, Function.iterate_succ_apply, Function.iterate_succ_apply, tokenize, tokenize,
    Json.canonical, Json.canonical, same]

end

/-- A token of the user, and its e-mail removed. -/
def tokenAndRemove : List SanitizationRule := [⟨"u", .tokenizeField, ""⟩, ⟨"u.e", .removeField, ""⟩]

def userPayload (secret : Int) : Json.Object := [("u", .obj [("e", .int secret)])]

theorem userPayload_distinct (secret : Int) : (Json.obj (userPayload secret)).Distinct := by
  simp [userPayload, Json.Distinct, Json.DistinctMembers]

theorem userPayload_differ (one other : Int) : DifferWhereErased tokenAndRemove (userPayload one) (userPayload other) where
  keys field := by
    by_cases user : field = "u" <;> simp [userPayload, List.lookup_cons, user, beq_false_of_ne]
  values field left right found alsoFound := by
    have user : field = "u" := by
      by_contra other
      simp [userPayload, List.lookup_cons, beq_false_of_ne other] at found
    subst user
    simp only [userPayload, List.lookup_cons_self, Option.some.injEq] at found alsoFound
    subst found alsoFound
    refine .inr (.inr ⟨_, _, rfl, rfl, ?_, ?_⟩)
    · intro key
      by_cases email : key = "e" <;> simp [List.lookup_cons, email, beq_false_of_ne]
    · intro key value another inside alsoInside
      left
      have email : key = "e" := by
        by_contra other
        simp [List.lookup_cons, beq_false_of_ne other] at inside
      subst email
      exact ⟨⟨"u.e", .removeField, ""⟩, by simp [tokenAndRemove], by simp, by decide⟩

theorem release_independent_iff_user :
    letI := Runtime.transparent
    ((Json.obj (userPayload 1)).Distinct ∧ (Json.obj (userPayload 2)).Distinct ∧
        DifferWhereErased tokenAndRemove (userPayload 1) (userPayload 2)) ∧
      (((Json.obj (applySanitization (userPayload 1) tokenAndRemove).releasedPayload).sortKeys =
            (Json.obj (applySanitization (userPayload 2) tokenAndRemove).releasedPayload).sortKeys ∧
          (applySanitization (userPayload 1) tokenAndRemove).releasedHash =
            (applySanitization (userPayload 2) tokenAndRemove).releasedHash) ↔
        TokensAgree tokenAndRemove (userPayload 1) (userPayload 2)) :=
  letI := Runtime.transparent
  ⟨⟨userPayload_distinct 1, userPayload_distinct 2, userPayload_differ 1 2⟩,
    release_independent_iff (userPayload_distinct 1) (userPayload_distinct 2) (userPayload_differ 1 2)⟩

/-- The removed member decides the released token, and with it the payload and its hash. -/
theorem tokenized_field_reveals_removed_member :
    letI := Runtime.transparent
    DifferWhereErased tokenAndRemove (userPayload 1) (userPayload 2) ∧
      (applySanitization (userPayload 1) tokenAndRemove).releasedPayload ≠
        (applySanitization (userPayload 2) tokenAndRemove).releasedPayload ∧
      (applySanitization (userPayload 1) tokenAndRemove).releasedHash ≠
        (applySanitization (userPayload 2) tokenAndRemove).releasedHash := by
  refine ⟨userPayload_differ 1 2, ?_, ?_⟩
  · decide
  · decide

end ArgosCore.Proofs
