import ArgosCore.Proofs.TemporalHistory

/-! The audit trail of an attribute. It holds every fact that was ever added, and whoever has it
can ask what was known at any time. -/

namespace ArgosCore.Proofs

section
variable {α : Type}

def added (ops : List (TemporalOp α)) : List (TemporalFact α) :=
  ops.filterMap fun
    | .addFact fact => some fact
    | .supersede _ _ => none

def about (entityId attributeName : String) (fact : TemporalFact α) : Bool :=
  fact.entityId = entityId && fact.attributeName = attributeName

theorem applies_about {fact : TemporalFact α} {entityId attributeName atTime : String}
    (applies : fact.applies entityId attributeName atTime = true) : about entityId attributeName fact = true := by
  rw [applies_eq, Bool.and_eq_true, Bool.and_eq_true] at applies
  exact applies.1.1

theorem historyFor_eq (base : TemporalKnowledgeBase α) (entityId attributeName : String) :
    base.historyFor entityId attributeName =
      ByKey.sortedOn TemporalFact.validFrom (base.filter (about entityId attributeName)) := by
  have same : (fun fact : TemporalFact α => decide (fact.entityId = entityId ∧ fact.attributeName = attributeName)) =
      about entityId attributeName := by
    funext fact
    exact Bool.decide_and ..
  rw [TemporalKnowledgeBase.historyFor, same]

theorem queryAt_historyFor (base : TemporalKnowledgeBase α) (entityId attributeName atTime : String) :
    TemporalKnowledgeBase.queryAt (base.historyFor entityId attributeName) entityId attributeName atTime =
      base.queryAt entityId attributeName atTime := by
  have own : (base.filter (about entityId attributeName)).filter (·.applies entityId attributeName atTime) =
      base.filter (·.applies entityId attributeName atTime) := by
    rw [List.filter_filter]
    apply List.filter_congr
    intro fact _
    cases applies : fact.applies entityId attributeName atTime with
    | false => rfl
    | true => exact applies_about applies
  rw [TemporalKnowledgeBase.queryAt, historyFor_eq, ← ByKey.sortedOn_filter, ByKey.argmax_sortedOn, own]
  rfl

variable [Runtime]

theorem supersede_unmarked {base marked : TemporalKnowledgeBase α} {factId supersededAt : String}
    (done : base.supersede factId supersededAt = .ok marked) : marked.map unmarked = base.map unmarked := by
  induction base generalizing marked with
  | nil => cases done
  | cons fact base ih =>
    rw [TemporalKnowledgeBase.supersede] at done
    split_ifs at done
    · rw [← Except.ok.inj done]
      rfl
    · cases rest : TemporalKnowledgeBase.supersede base factId supersededAt with
      | error message =>
        rw [rest] at done
        cases done
      | ok markedRest =>
        rw [rest] at done
        rw [← Except.ok.inj done, List.map_cons, List.map_cons, ih rest]

theorem run_unmarked (base : TemporalKnowledgeBase α) (ops : List (TemporalOp α)) :
    (base.run ops).map unmarked = (base ++ added ops).map unmarked := by
  induction ops generalizing base with
  | nil => simp [TemporalKnowledgeBase.run, added]
  | cons op ops ih =>
    change ((base.step op).run ops).map unmarked = _
    rw [ih]
    cases op with
    | addFact fact => simp [TemporalKnowledgeBase.step, TemporalKnowledgeBase.addFact, added]
    | supersede factId supersededAt =>
      rw [TemporalKnowledgeBase.step]
      cases done : TemporalKnowledgeBase.supersede base factId supersededAt with
      | ok marked => simp [supersede_unmarked done, added]
      | error message => simp [added]

structure AuditTrail (ops : List (TemporalOp α)) (entityId attributeName : String) (trail : List (TemporalFact α)) : Prop where
  chronological : trail.Pairwise fun earlier later => earlier.validFrom ≤ later.validFrom
  /-- Every fact that was added is on it as often as it was added, whatever has superseded it. -/
  complete : (trail.map unmarked).Perm (((added ops).filter (about entityId attributeName)).map unmarked)
  answers : ∀ atTime, TemporalKnowledgeBase.queryAt trail entityId attributeName atTime =
    (TemporalKnowledgeBase.run [] ops).queryAt entityId attributeName atTime
  /-- What was answered about a time, once all that happens is about later times. -/
  past : ∀ done later atTime, ops = done ++ later → (∀ op ∈ later, Future atTime op) →
    RunKeepsMarks atTime (TemporalKnowledgeBase.run [] done) later →
      (TemporalKnowledgeBase.queryAt trail entityId attributeName atTime).map unmarked =
        ((TemporalKnowledgeBase.run [] done).queryAt entityId attributeName atTime).map unmarked

theorem audit_trail (ops : List (TemporalOp α)) (entityId attributeName : String) :
    AuditTrail ops entityId attributeName ((TemporalKnowledgeBase.run [] ops).historyFor entityId attributeName) where
  chronological := by
    rw [historyFor_eq]
    exact ByKey.pairwise_sortedOn ..
  complete := by
    have unseen (fact : TemporalFact α) : about entityId attributeName (unmarked fact) = about entityId attributeName fact := rfl
    have same := congrArg (List.filter (about entityId attributeName)) (run_unmarked [] ops)
    simp only [List.filter_map, Function.comp_def, unseen, List.nil_append] at same
    rw [historyFor_eq, ← same]
    exact (ByKey.sortedOn_perm ..).map _
  answers atTime := queryAt_historyFor ..
  past done later atTime split future keeps := by
    have whole : TemporalKnowledgeBase.run [] ops = (TemporalKnowledgeBase.run [] done).run later := by
      rw [split, TemporalKnowledgeBase.run, List.foldl_append]
      rfl
    rw [queryAt_historyFor, whole, queryAt_unmarked, queryAt_unmarked, candidates_run future keeps]

end

end ArgosCore.Proofs
