import ArgosCore.Proofs.SanitizerEffects

/-! When the order of the rules of a policy is of no account. The loop sorts them by path
alone, so it is exactly the rules of one path that must be able to stand in either order. -/

namespace ArgosCore.Proofs

/-- What an operation writes whatever stood in its place. -/
def writtenText (rule : SanitizationRule) : Option String :=
  match rule.operation with
  | .redactField => some redactedPlaceholder
  | .generalizeValue => some (if rule.detail = "" then "GENERALIZED" else rule.detail)
  | _ => none

theorem operation_cases (rule : SanitizationRule) :
    removesField rule.operation = true ∨ rule.operation = .tokenizeField ∨ ∃ text, writtenText rule = some text := by
  rw [writtenText]
  cases rule.operation <;> simp [removesField]

structure Alike (left right : Sanitizing) : Prop where
  working : left.working = right.working
  transformations : left.transformations.Perm right.transformations
  fieldsRemoved : left.fieldsRemoved = right.fieldsRemoved

theorem Alike.refl (state : Sanitizing) : Alike state state := ⟨rfl, .refl _, rfl⟩

theorem Alike.trans (first second third : Sanitizing) (left : Alike first second) (right : Alike second third) :
    Alike first third :=
  ⟨left.working.trans right.working, left.transformations.trans right.transformations,
    left.fieldsRemoved.trans right.fieldsRemoved⟩

section
variable [Runtime]

/-- Two rules of one path that keep the field and leave the same there in either order: two
tokens, one text, or a text that is its own token. -/
inductive Exchangeable (first second : SanitizationRule) : Prop where
  | tokens (left : first.operation = .tokenizeField) (right : second.operation = .tokenizeField)
  | text (text : String) (left : writtenText first = some text) (right : writtenText second = some text)
  | tokenOfText (text : String) (left : first.operation = .tokenizeField) (right : writtenText second = some text)
      (own : tokenize first.fieldPath (.str text) = text)
  | textOfToken (text : String) (left : writtenText first = some text) (right : second.operation = .tokenizeField)
      (own : tokenize second.fieldPath (.str text) = text)

theorem replacement_written {rule : SanitizationRule} {text : String} (written : writtenText rule = some text)
    (value : Json) : rule.replacement value = some (.str text) := by
  rw [writtenText] at written
  rw [SanitizationRule.replacement]
  cases operation : rule.operation <;> simp_all

theorem replacement_eq_none_iff {rule : SanitizationRule} {value : Json} :
    rule.replacement value = none ↔ removesField rule.operation = true := by
  rw [SanitizationRule.replacement]
  cases rule.operation <;> simp [removesField]

def inTurn (first second : SanitizationRule) (value : Json) : Option Json :=
  (first.replacement value).bind second.replacement

theorem Exchangeable.inTurn_eq {first second : SanitizationRule} (exchangeable : Exchangeable first second)
    (same : first.fieldPath = second.fieldPath) (value : Json) : inTurn first second value = inTurn second first value := by
  cases exchangeable with
  | tokens left right =>
    simp only [inTurn, replacement_of_tokenizing left, replacement_of_tokenizing right, same, Option.bind_some]
  | text text left right => simp only [inTurn, replacement_written left, replacement_written right, Option.bind_some]
  | tokenOfText text left right own =>
    simp only [inTurn, replacement_of_tokenizing left, replacement_written right, Option.bind_some, own]
  | textOfToken text left right own =>
    simp only [inTurn, replacement_written left, replacement_of_tokenizing right, Option.bind_some, own]

theorem Exchangeable.keeps {first second : SanitizationRule} (exchangeable : Exchangeable first second) :
    removesField first.operation = false ∧ removesField second.operation = false := by
  have token {rule : SanitizationRule} (tokenizes : rule.operation = .tokenizeField) :
      removesField rule.operation = false := by rw [tokenizes]; rfl
  have text {rule : SanitizationRule} {text : String} (written : writtenText rule = some text) :
      removesField rule.operation = false := by
    rw [writtenText] at written
    cases operation : rule.operation <;> simp_all [removesField]
  cases exchangeable with
  | tokens left right => exact ⟨token left, token right⟩
  | text _ left right => exact ⟨text left, text right⟩
  | tokenOfText _ left right _ => exact ⟨token left, text right⟩
  | textOfToken _ left right _ => exact ⟨text left, token right⟩

theorem inTurn_ne {first second : SanitizationRule} (apart : ¬ Exchangeable first second) (firstKeeps : removesField first.operation = false)
    (secondKeeps : removesField second.operation = false) (value : Json) :
    inTurn first second value ≠ inTurn second first value := by
  intro equal
  apply apart
  rcases (operation_cases first).resolve_left (by simp [firstKeeps]) with left | ⟨text, left⟩ <;>
    rcases (operation_cases second).resolve_left (by simp [secondKeeps]) with right | ⟨other, right⟩
  · exact .tokens left right
  · simp only [inTurn, replacement_of_tokenizing left, replacement_written right, Option.bind_some, Option.some.injEq,
      Json.str.injEq] at equal
    exact .tokenOfText other left right equal.symm
  · simp only [inTurn, replacement_of_tokenizing right, replacement_written left, Option.bind_some, Option.some.injEq,
      Json.str.injEq] at equal
    exact .textOfToken text left right equal
  · simp only [inTurn, replacement_written left, replacement_written right, Option.bind_some, Option.some.injEq,
      Json.str.injEq] at equal
    exact .text text left (equal ▸ right)

theorem Alike.step {left right : Sanitizing} (alike : Alike left right) (rule : SanitizationRule) :
    Alike (sanitizeStep left rule) (sanitizeStep right rule) := by
  rw [sanitizeStep, sanitizeStep, ← alike.working]
  cases applyOne left.working rule with
  | none => exact alike
  | some applied => exact ⟨rfl, alike.transformations.append_right _, by simp only [alike.fieldsRemoved]⟩

theorem Alike.foldl {left right : Sanitizing} (alike : Alike left right) (rules : List SanitizationRule) :
    Alike (rules.foldl sanitizeStep left) (rules.foldl sanitizeStep right) := by
  induction rules generalizing left right with
  | nil => exact alike
  | cons rule rules ih => exact ih (alike.step rule)

theorem sanitizeStep_twice {state : Sanitizing} {first second : SanitizationRule} {value : Json}
    (same : first.fieldPath = second.fieldPath) (held : valueAt state.working (splitPath first.fieldPath) = some value)
    (firstKeeps : removesField first.operation = false) (secondKeeps : removesField second.operation = false) :
    sanitizeStep (sanitizeStep state first) second =
      { working := writeAt state.working (splitPath first.fieldPath) (inTurn first second value)
        transformations := state.transformations ++ [traceOf first] ++ [traceOf second]
        fieldsRemoved := state.fieldsRemoved } := by
  obtain ⟨left, replaced⟩ := Option.ne_none_iff_exists'.mp
    (replacement_eq_none_iff.not.mpr (by simp [firstKeeps]) : first.replacement value ≠ none)
  have written := valueAt_writeAt held left
  rw [sanitizeStep_held held, replaced, sanitizeStep_held (by rwa [← same]), ← same, writeAt_writeAt held, inTurn, replaced]
  simp [firstKeeps, secondKeeps]

def OrderFree (rules : List SanitizationRule) (payload : Json.Object) : Prop :=
  ∀ first ∈ rules, ∀ second ∈ rules, first.fieldPath = second.fieldPath → effective rules payload first = true →
    first = second ∨ Exchangeable first second

theorem effective_of_found {payload : Json.Object} {before after : List SanitizationRule} {rule : SanitizationRule}
    {value : Json} (sorted : SortedByPath (before ++ rule :: after))
    (found : valueAt (before.foldl sanitizeStep ⟨payload, [], []⟩).working (splitPath rule.fieldPath) = some value) :
    effective (before ++ rule :: after) payload rule = true := by
  rw [valueAt_before sorted] at found
  split_ifs at found with covered
  rw [effective, pathPresent_eq, Bool.and_eq_true, Bool.not_eq_true', Bool.not_eq_true] at *
  refine ⟨?_, covered⟩
  cases here : valueAt payload (splitPath rule.fieldPath) with
  | none => simp [here] at found
  | some value => rfl

omit [Runtime] in
theorem effective_perm {left right : List SanitizationRule} (perm : left.Perm right) (payload : Json.Object)
    (rule : SanitizationRule) : effective left payload rule = effective right payload rule := by
  rw [effective, effective, hidden_perm perm]

theorem alike_exchange {payload : Json.Object} {rules : List SanitizationRule} (free : OrderFree rules payload)
    {left right : List SanitizationRule} (perm : left.Perm rules) (sorted : SortedByPath left)
    (exchange : ByKey.Exchange SanitizationRule.fieldPath left right) :
    Alike (left.foldl sanitizeStep ⟨payload, [], []⟩) (right.foldl sanitizeStep ⟨payload, [], []⟩) := by
  cases exchange with
  | @swap before first second same after =>
    rw [List.foldl_append, List.foldl_append, List.foldl_cons, List.foldl_cons, List.foldl_cons, List.foldl_cons]
    apply Alike.foldl
    have finds (value : Json) :
        valueAt (before.foldl sanitizeStep ⟨payload, [], []⟩).working (splitPath first.fieldPath) = some value →
          effective (before ++ first :: second :: after) payload first = true := effective_of_found sorted
    generalize before.foldl sanitizeStep ⟨payload, [], []⟩ = state at finds ⊢
    cases held : valueAt state.working (splitPath first.fieldPath) with
    | none =>
      have absent (rule : SanitizationRule) (here : rule.fieldPath = first.fieldPath) : sanitizeStep state rule = state :=
        sanitizeStep_absent (by rw [pathPresent_eq, here, held]; rfl)
      rw [absent first rfl, absent second same.symm, absent first rfl]
      exact .refl state
    | some value =>
      have firstInside : first ∈ rules := perm.mem_iff.mp (by simp)
      have secondInside : second ∈ rules := perm.mem_iff.mp (by simp)
      rw [effective_perm perm] at finds
      rcases free first firstInside second secondInside same (finds value held) with rfl | exchangeable
      · exact .refl _
      · obtain ⟨firstKeeps, secondKeeps⟩ := exchangeable.keeps
        rw [sanitizeStep_twice same held firstKeeps secondKeeps,
          sanitizeStep_twice same.symm (same ▸ held) secondKeeps firstKeeps]
        refine ⟨?_, ?_, rfl⟩
        · rw [same, exchangeable.inTurn_eq same]
        · rw [List.append_assoc, List.append_assoc]
          exact (List.Perm.swap _ _ []).append_left _

structure SameRelease (left right : SanitizationResult) : Prop where
  releasedPayload : left.releasedPayload = right.releasedPayload
  releasedHash : left.releasedHash = right.releasedHash
  fieldsRemoved : left.fieldsRemoved = right.fieldsRemoved
  transformations : left.transformations.Perm right.transformations

theorem sameRelease_of_orderFree {payload : Json.Object} {rules reordered : List SanitizationRule}
    (free : OrderFree rules payload) (perm : reordered.Perm rules) :
    SameRelease (applySanitization payload reordered) (applySanitization payload rules) := by
  have alike : Alike ((sortedRules reordered).foldl sanitizeStep ⟨payload, [], []⟩)
      ((sortedRules rules).foldl sanitizeStep ⟨payload, [], []⟩) :=
    ByKey.related_sortedOn Alike.refl Alike.trans (fun _ _ => alike_exchange free) perm (.refl rules)
  exact ⟨alike.working, congrArg (fun working => hashJson (.obj working)) alike.working, alike.fieldsRemoved,
    alike.transformations⟩

omit [Runtime] in
private theorem filter_sortedRules (rules : List SanitizationRule) (path : String) :
    ((sortedRules rules).filter fun rule => rule.fieldPath = path) = rules.filter fun rule => rule.fieldPath = path := by
  apply ByKey.filter_sortedOn
  intro left right first second
  exact (of_decide_eq_true first).trans (of_decide_eq_true second).symm

theorem first_traced {payload : Json.Object} {rules others : List SanitizationRule} {first : SanitizationRule}
    (leads : (rules.filter fun rule => rule.fieldPath = first.fieldPath) = first :: others)
    (finds : effective rules payload first = true) :
    traceOf first ∈ (applySanitization payload rules).transformations := by
  rw [← filter_sortedRules] at leads
  obtain ⟨before, after, split, apart, _⟩ := List.filter_eq_cons_iff.mp leads
  have sorted := sortedRules_sorted rules
  rw [effective_perm (sortedRules_perm rules).symm, effective, Bool.and_eq_true, Bool.not_eq_true'] at finds
  have fresh : (before.filter fun rule => rule.fieldPath = first.fieldPath) = [] := List.filter_eq_nil_iff.mpr apart
  apply mem_foldl_transformations.mpr
  refine .inr ⟨before, first, after, split, rfl, ?_⟩
  rw [pathPresent_eq, valueAt_before (split ▸ sorted), ← split, finds.2, fresh]
  simpa [pathPresent_eq] using finds.1

theorem not_traced_after_removal {payload : Json.Object} {rules others : List SanitizationRule}
    {first second : SanitizationRule} (same : first.fieldPath = second.fieldPath)
    (leads : (rules.filter fun rule => rule.fieldPath = second.fieldPath) = first :: others)
    (removes : removesField first.operation = true) (apart : second ≠ first) :
    traceOf second ∉ (applySanitization payload rules).transformations := by
  intro traced
  rcases mem_foldl_transformations.mp traced with initial | ⟨before, rule, after, split, trace, found⟩
  · cases initial
  · obtain rfl := traceOf_injective trace
    have sorted := sortedRules_sorted rules
    rw [split] at sorted
    rw [pathPresent_eq, valueAt_before sorted] at found
    rw [← filter_sortedRules, split, List.filter_append, List.filter_cons_of_pos (by simp)] at leads
    split_ifs at found with covered
    · simp at found
    · cases earlier : before.filter fun other => other.fieldPath = rule.fieldPath with
      | nil =>
        rw [earlier, List.nil_append, List.cons.injEq] at leads
        exact apart leads.1
      | cons leader rest =>
        rw [earlier, List.cons_append, List.cons.injEq] at leads
        obtain ⟨rfl, _⟩ := leads
        have gone : (valueAt payload (splitPath rule.fieldPath)).bind leader.replacement = none := by
          rw [Option.bind_eq_none_iff]
          exact fun value _ => replacement_eq_none_iff.mpr removes
        rw [earlier, slot_cons, gone, slot_none] at found
        cases found

theorem valueAt_released {payload : Json.Object} {rules : List SanitizationRule} {rule : SanitizationRule}
    (inside : rule ∈ rules) (uncovered : hidden rules rule.fieldPath = false) :
    valueAt (applySanitization payload rules).releasedPayload (splitPath rule.fieldPath) =
      slot (rules.filter fun other => other.fieldPath = rule.fieldPath) (valueAt payload (splitPath rule.fieldPath)) := by
  have listed : rule ∈ (sortedRules rules).filter fun other => splitPath other.fieldPath = splitPath rule.fieldPath :=
    List.mem_filter.mpr ⟨(sortedRules_perm rules).mem_iff.mpr inside, decide_eq_true rfl⟩
  rw [hidden_perm (sortedRules_perm rules).symm, hidden] at uncovered
  rw [← filter_sortedRules]
  simp only [← splitPath_injective.eq_iff]
  generalize splitPath rule.fieldPath = place at listed uncovered ⊢
  obtain ⟨field, nested⟩ := place
  cases nested with
  | none =>
    rw [valueAt, lookup_releasedPayload, fieldRules, valueAt]
    exact map_onMembers_other (slot_ne_obj (List.ne_nil_of_mem listed) (payload.lookup field)) _
  | some key =>
    rw [applySanitization, valueAt_foldl_member (sortedRules_sorted rules), if_neg (by simpa using uncovered)]

theorem slot_keeps {rules : List SanitizationRule} (keep : ∀ rule ∈ rules, removesField rule.operation = false)
    (value : Json) : ∃ left, slot rules (some value) = some left := by
  induction rules generalizing value with
  | nil => exact ⟨value, rfl⟩
  | cons rule rules ih =>
    obtain ⟨here, later⟩ := List.forall_mem_cons.mp keep
    obtain ⟨left, replaced⟩ := Option.ne_none_iff_exists'.mp
      (replacement_eq_none_iff.not.mpr (by simp [here]) : rule.replacement value ≠ none)
    rw [slot_cons, Option.bind_some, replaced]
    exact ih later left

omit [Runtime] in
private theorem perm_pair {rules : List SanitizationRule} {first second : SanitizationRule} (firstInside : first ∈ rules)
    (secondInside : second ∈ rules) (apart : second ≠ first) :
    ∃ others, (first :: second :: others).Perm rules := by
  have later : second ∈ rules.erase first := (List.mem_erase_of_ne apart).mpr secondInside
  refine ⟨(rules.erase first).erase second, ?_⟩
  exact ((List.perm_cons_erase later).symm.cons first).trans (List.perm_cons_erase firstInside).symm

section
variable {payload : Json.Object} {rules : List SanitizationRule}
  (stable : ∀ reordered, reordered.Perm rules →
    SameRelease (applySanitization payload reordered) (applySanitization payload rules))
include stable

/-- A removing rule that is first in one order and second in another makes other traces. -/
theorem removal_alone {first second : SanitizationRule} (firstInside : first ∈ rules) (secondInside : second ∈ rules)
    (same : first.fieldPath = second.fieldPath) (finds : effective rules payload first = true)
    (removes : removesField first.operation = true) : second = first := by
  by_contra apart
  obtain ⟨others, perm⟩ := perm_pair firstInside secondInside apart
  have swapped : (second :: first :: others).Perm rules := (List.Perm.swap _ _ _).trans perm
  have traces := (stable _ perm).transformations.trans (stable _ swapped).transformations.symm
  have secondFinds : effective (second :: first :: others) payload second = true := by
    rw [effective_perm swapped, effective, ← same]
    exact finds
  have leads (others : List SanitizationRule) (rule : SanitizationRule) (here : rule.fieldPath = second.fieldPath) :
      ((rule :: others).filter fun rule => rule.fieldPath = second.fieldPath) =
        rule :: others.filter fun rule => rule.fieldPath = second.fieldPath := List.filter_cons_of_pos (by simpa using here)
  have traced := first_traced (leads (first :: others) second rfl) secondFinds
  have untraced : traceOf second ∉ (applySanitization payload (first :: second :: others)).transformations :=
    not_traced_after_removal same (leads (second :: others) first same) removes apart
  exact untraced (traces.mem_iff.mpr traced)

theorem orderFree_of_stable : OrderFree rules payload := by
  intro first firstInside second secondInside same finds
  by_contra! ⟨apart, unexchangeable⟩
  obtain ⟨others, perm⟩ := perm_pair firstInside secondInside apart.symm
  -- Only rules that keep the field are left, so the values can be followed.
  have keeps (rule : SanitizationRule) (inside : rule ∈ rules) (here : rule.fieldPath = first.fieldPath) :
      removesField rule.operation = false := by
    by_contra removes
    have ruleFinds : effective rules payload rule = true := by
      rw [effective, here]
      exact finds
    have alone (other : SanitizationRule) (among : other ∈ rules) (path : other.fieldPath = first.fieldPath) : other = rule :=
      removal_alone stable inside among (here.trans path.symm) ruleFinds (by simpa using removes)
    exact apart ((alone first firstInside rfl).trans (alone second secondInside same.symm).symm)
  have known := finds
  rw [effective, Bool.and_eq_true, Bool.not_eq_true', pathPresent_eq, Option.isSome_iff_exists] at known
  obtain ⟨⟨value, held⟩, uncovered⟩ := known
  have earlierKeep (rule : SanitizationRule) (inside : rule ∈ others.filter fun rule => rule.fieldPath = first.fieldPath) :
      removesField rule.operation = false := by
    obtain ⟨among, here⟩ := List.mem_filter.mp inside
    exact keeps rule (perm.mem_iff.mp (by simp [among])) (of_decide_eq_true here)
  obtain ⟨left, reached⟩ := slot_keeps earlierKeep value
  have released (one other : SanitizationRule) (reordered : (others ++ [one, other]).Perm rules)
      (oneHere : one.fieldPath = first.fieldPath) (otherHere : other.fieldPath = first.fieldPath) :
      valueAt (applySanitization payload rules).releasedPayload (splitPath first.fieldPath) = inTurn one other left := by
    have listed : first ∈ others ++ [one, other] := reordered.mem_iff.mpr firstInside
    rw [← (stable _ reordered).releasedPayload, valueAt_released listed (hidden_perm reordered _ ▸ uncovered), held,
      List.filter_append, slot_append, reached]
    simp [oneHere, otherHere, inTurn]
  have firstLast : (others ++ [second, first]).Perm rules :=
    List.perm_append_comm.trans ((List.Perm.swap _ _ _).trans perm)
  have secondLast : (others ++ [first, second]).Perm rules := List.perm_append_comm.trans perm
  apply inTurn_ne unexchangeable (keeps first firstInside rfl) (keeps second secondInside same.symm) left
  rw [← released first second secondLast rfl same.symm, released second first firstLast same.symm rfl]

end

/-- Every order of the rules gives one release exactly when the rules of each path that is
found are exchangeable. -/
theorem same_release_iff (payload : Json.Object) (rules : List SanitizationRule) :
    (∀ reordered, reordered.Perm rules →
      SameRelease (applySanitization payload reordered) (applySanitization payload rules)) ↔ OrderFree rules payload :=
  ⟨orderFree_of_stable, fun free _ => sameRelease_of_orderFree free⟩

end

/-- Two rules of one path: the last one decides what is released. -/
theorem reordered_rules_released_differently :
    letI := Runtime.transparent
    let redact : SanitizationRule := ⟨"user", .redactField, ""⟩
    let generalize : SanitizationRule := ⟨"user", .generalizeValue, ""⟩
    [redact, generalize].Perm [generalize, redact] ∧
      (applySanitization [("user", .int 1)] [redact, generalize]).releasedPayload ≠
        (applySanitization [("user", .int 1)] [generalize, redact]).releasedPayload ∧
      (applySanitization [("user", .int 1)] [redact, generalize]).releasedHash ≠
        (applySanitization [("user", .int 1)] [generalize, redact]).releasedHash := by
  refine ⟨.swap _ _ _, ?_, ?_⟩
  · decide
  · decide

end ArgosCore.Proofs
