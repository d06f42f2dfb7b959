import ArgosCore.TemporalKnowledge

/-! What later operations can change about an earlier time. Adding what is observed
later changes nothing; a mark after the time changes nothing either, unless it takes
the place of one that had already cut the fact off. -/

namespace ArgosCore.Proofs

section
variable {α : Type}

def unmarked (fact : TemporalFact α) : TemporalFact α := { fact with supersededAt := none }

def knownAt (fact : TemporalFact α) (atTime : String) : Bool :=
  fact.observedAt ≤ atTime && fact.validFrom ≤ atTime && beforeLimit atTime fact.validUntil

theorem applies_eq (fact : TemporalFact α) (entityId attributeName atTime : String) :
    fact.applies entityId attributeName atTime =
      (fact.entityId = entityId && fact.attributeName = attributeName && knownAt fact atTime &&
        beforeLimit atTime fact.supersededAt) := by
  simp [TemporalFact.applies, knownAt, Bool.and_assoc]

/-- The candidates of a query, marks forgotten; they decide its answer up to the mark. -/
def candidates (base : TemporalKnowledgeBase α) (entityId attributeName atTime : String) : List (TemporalFact α) :=
  (base.filter (·.applies entityId attributeName atTime)).map unmarked

theorem queryAt_unmarked (base : TemporalKnowledgeBase α) (entityId attributeName atTime : String) :
    (base.queryAt entityId attributeName atTime).map unmarked =
      (candidates base entityId attributeName atTime).argmax TemporalFact.validFrom := by
  rw [candidates, ByKey.argmax_map]
  rfl

def Future (atTime : String) : TemporalOp α → Prop
  | .addFact fact => atTime < fact.observedAt
  | .supersede _ supersededAt => atTime < supersededAt

/-- The operation does not replace a mark that cuts a fact off at `atTime`. -/
def KeepsMarks (base : TemporalKnowledgeBase α) (atTime : String) : TemporalOp α → Prop
  | .addFact _ => True
  | .supersede factId _ => ∀ fact, base.find? (·.factId = factId) = some fact → knownAt fact atTime = true →
      beforeLimit atTime fact.supersededAt = true

variable [Runtime]

theorem candidates_supersede {base marked : TemporalKnowledgeBase α} {factId supersededAt atTime : String}
    (later : atTime < supersededAt) (keeps : KeepsMarks base atTime (.supersede factId supersededAt))
    (done : base.supersede factId supersededAt = .ok marked) (entityId attributeName : String) :
    candidates marked entityId attributeName atTime = candidates base entityId attributeName atTime := by
  induction base generalizing marked with
  | nil => cases done
  | cons fact base ih =>
    rw [TemporalKnowledgeBase.supersede] at done
    split_ifs at done with here
    · obtain rfl := Except.ok.inj done
      have unharmed := keeps fact (by simp [here])
      have same : ({ fact with supersededAt := some supersededAt } : TemporalFact α).applies entityId attributeName atTime =
          fact.applies entityId attributeName atTime := by
        rw [applies_eq, applies_eq]
        change (_ && knownAt fact atTime && decide (atTime < supersededAt)) = _
        rw [decide_eq_true later]
        cases known : knownAt fact atTime with
        | false => simp
        | true => rw [unharmed known]
      rw [candidates, candidates, List.filter_cons, List.filter_cons, same]
      split <;> rfl
    · cases rest : TemporalKnowledgeBase.supersede base factId supersededAt with
      | error message =>
        rw [rest] at done
        cases done
      | ok markedRest =>
        rw [rest] at done
        obtain rfl := Except.ok.inj done
        have others : KeepsMarks base atTime (.supersede factId supersededAt) := by
          intro other found
          exact keeps other (by simpa [here] using found)
        have kept := ih others rest
        rw [candidates, candidates] at kept
        rw [candidates, candidates, List.filter_cons, List.filter_cons]
        split <;> simp [kept]

theorem candidates_step {base : TemporalKnowledgeBase α} {op : TemporalOp α} {atTime : String}
    (future : Future atTime op) (keeps : KeepsMarks base atTime op) (entityId attributeName : String) :
    candidates (base.step op) entityId attributeName atTime = candidates base entityId attributeName atTime := by
  cases op with
  | addFact fact =>
    have absent : fact.applies entityId attributeName atTime = false := by
      have unobserved : ¬ fact.observedAt ≤ atTime := not_le.mpr future
      rw [applies_eq, knownAt, decide_eq_false unobserved]
      simp
    rw [TemporalKnowledgeBase.step, TemporalKnowledgeBase.addFact, candidates, List.filter_append,
      List.filter_singleton, absent]
    simp [candidates]
  | supersede factId supersededAt =>
    rw [TemporalKnowledgeBase.step]
    cases done : TemporalKnowledgeBase.supersede base factId supersededAt with
    | ok marked => exact candidates_supersede future keeps done entityId attributeName
    | error message => rfl

def RunKeepsMarks (atTime : String) : TemporalKnowledgeBase α → List (TemporalOp α) → Prop
  | _, [] => True
  | base, op :: ops => KeepsMarks base atTime op ∧ RunKeepsMarks atTime (base.step op) ops

theorem candidates_run {base : TemporalKnowledgeBase α} {ops : List (TemporalOp α)} {atTime : String}
    (future : ∀ op ∈ ops, Future atTime op) (keeps : RunKeepsMarks atTime base ops) (entityId attributeName : String) :
    candidates (base.run ops) entityId attributeName atTime = candidates base entityId attributeName atTime := by
  induction ops generalizing base with
  | nil => rfl
  | cons op ops ih =>
    obtain ⟨here, rest⟩ := keeps
    change candidates ((base.step op).run ops) entityId attributeName atTime = _
    rw [ih (fun later inside => future later (List.mem_cons_of_mem _ inside)) rest,
      candidates_step (future op List.mem_cons_self) here]

theorem runKeepsMarks_initial {base : TemporalKnowledgeBase α} {done ops : List (TemporalOp α)} {atTime : String}
    (before : done <+: ops) (keeps : RunKeepsMarks atTime base ops) : RunKeepsMarks atTime base done := by
  induction done generalizing base ops with
  | nil => trivial
  | cons op done ih =>
    obtain ⟨rest, rfl⟩ := before
    exact ⟨keeps.1, ih ⟨rest, rfl⟩ keeps.2⟩

/-- What was answered about a time stays the answer in every state that operations about
later times reach, as long as none of them replaces a mark that already held then. -/
theorem past_answer_kept (base : TemporalKnowledgeBase α) (ops : List (TemporalOp α)) (atTime : String)
    (future : ∀ op ∈ ops, Future atTime op) (keeps : RunKeepsMarks atTime base ops) :
    ∀ done, done <+: ops → ∀ entityId attributeName,
      ((base.run done).queryAt entityId attributeName atTime).map unmarked =
        (base.queryAt entityId attributeName atTime).map unmarked := by
  intro done before entityId attributeName
  rw [queryAt_unmarked, queryAt_unmarked,
    candidates_run (fun op inside => future op (before.subset inside)) (runKeepsMarks_initial before keeps)]

end

def criticality (mark : Option String) : TemporalFact String where
  factId := "fact-1"
  entityId := "asset-x"
  attributeName := "criticality"
  value := "medium"
  sourceId := "cmam"
  observedAt := "2026-01-01T00:00:00Z"
  validFrom := "2026-01-01T00:00:00Z"
  validUntil := none
  supersededAt := mark

private theorem january_le_march : "2026-01-01T00:00:00Z" ≤ "2026-03-01T00:00:00Z" := by
  rw [String.le_iff_toList_le]
  decide

private theorem february_before_march : ¬ "2026-03-01T00:00:00Z" < "2026-02-01T00:00:00Z" := by
  rw [String.lt_iff_toList_lt]
  decide

private theorem march_before_april : "2026-03-01T00:00:00Z" < "2026-04-01T00:00:00Z" := by
  rw [String.lt_iff_toList_lt]
  decide

/-- Superseded in February and marked again for April, the fact is back in March. -/
theorem second_mark_changes_the_past :
    letI := Runtime.transparent
    let base := TemporalKnowledgeBase.run [] [.addFact (criticality none), .supersede "fact-1" "2026-02-01T00:00:00Z"]
    let again : TemporalOp String := .supersede "fact-1" "2026-04-01T00:00:00Z"
    Future "2026-03-01T00:00:00Z" again ∧
      base.queryAt "asset-x" "criticality" "2026-03-01T00:00:00Z" = none ∧
      (base.run [again]).queryAt "asset-x" "criticality" "2026-03-01T00:00:00Z" =
        some (criticality (some "2026-04-01T00:00:00Z")) := by
  intro base again
  have known (mark : Option String) : knownAt (criticality mark) "2026-03-01T00:00:00Z" = true := by
    rw [knownAt, criticality, decide_eq_true january_le_march]
    rfl
  have marked (mark : String) : (criticality (some mark)).applies "asset-x" "criticality" "2026-03-01T00:00:00Z" =
      decide ("2026-03-01T00:00:00Z" < mark) := by
    rw [applies_eq, known]
    rfl
  refine ⟨march_before_april, ?_, ?_⟩
  · change ([criticality (some "2026-02-01T00:00:00Z")].filter _).argmax _ = none
    rw [List.filter_singleton, marked, decide_eq_false february_before_march]
    rfl
  · change ([criticality (some "2026-04-01T00:00:00Z")].filter _).argmax _ = _
    rw [List.filter_singleton, marked, decide_eq_true march_before_april]
    rfl

theorem past_answer_kept_criticality :
    letI := Runtime.transparent
    let ops : List (TemporalOp String) := [.supersede "fact-1" "2026-04-01T00:00:00Z"]
    ((∀ op ∈ ops, Future "2026-03-01T00:00:00Z" op) ∧ RunKeepsMarks "2026-03-01T00:00:00Z" [criticality none] ops) ∧
      ∀ done, done <+: ops → ∀ entityId attributeName,
        ((TemporalKnowledgeBase.run [criticality none] done).queryAt entityId attributeName
            "2026-03-01T00:00:00Z").map unmarked =
          (TemporalKnowledgeBase.queryAt [criticality none] entityId attributeName "2026-03-01T00:00:00Z").map unmarked := by
  let _ := Runtime.transparent
  intro ops
  have future : ∀ op ∈ ops, Future "2026-03-01T00:00:00Z" op := by
    intro op inside
    rw [List.mem_singleton.mp inside]
    exact march_before_april
  have keeps : RunKeepsMarks "2026-03-01T00:00:00Z" [criticality none] ops := by
    refine ⟨?_, trivial⟩
    intro fact found _
    rw [← Option.some.inj found]
    rfl
  exact ⟨⟨future, keeps⟩, past_answer_kept [criticality none] ops "2026-03-01T00:00:00Z" future keeps⟩

end ArgosCore.Proofs
