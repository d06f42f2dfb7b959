import ArgosCore.Proofs.TemporalInstants

/-! The same facts inserted in another order. Of several facts that apply since the same
time a query answers with the first, so the order matters where two of them compete. -/

namespace ArgosCore.Proofs

variable {α : Type}

/-- Two different facts that apply at the time, both since the latest start of any that does. -/
structure Competing (base : TemporalKnowledgeBase α) (entityId attributeName atTime : String)
    (one other : TemporalFact α) : Prop where
  first : one ∈ base ∧ one.applies entityId attributeName atTime = true
  second : other ∈ base ∧ other.applies entityId attributeName atTime = true
  sameStart : one.validFrom = other.validFrom
  latest : ∀ fact ∈ base, fact.applies entityId attributeName atTime = true → fact.validFrom ≤ one.validFrom
  differ : one ≠ other

theorem competing_iff {base : TemporalKnowledgeBase α} {entityId attributeName atTime : String} :
    (∀ one other, ¬ Competing base entityId attributeName atTime one other) ↔
      ∀ one ∈ ByKey.greatest TemporalFact.validFrom (base.filter (·.applies entityId attributeName atTime)),
        ∀ other ∈ ByKey.greatest TemporalFact.validFrom (base.filter (·.applies entityId attributeName atTime)),
          one = other := by
  simp only [ByKey.mem_greatest, List.mem_filter, and_imp]
  constructor
  · intro none one inside applies most other member also most'
    by_contra differ
    have same := le_antisymm (most' one inside applies) (most other member also)
    exact none one other ⟨⟨inside, applies⟩, ⟨member, also⟩, same, most, differ⟩
  · rintro single one other ⟨⟨inside, applies⟩, ⟨member, also⟩, sameStart, latest, differ⟩
    exact differ (single one inside applies latest other member also fun fact among holds => sameStart ▸ latest fact among holds)

theorem query_order_free_iff {base : TemporalKnowledgeBase α} {entityId attributeName atTime : String} :
    (∀ arrived : TemporalKnowledgeBase α, arrived.Perm base →
        arrived.queryAt entityId attributeName atTime = base.queryAt entityId attributeName atTime) ↔
      ∀ one other, ¬ Competing base entityId attributeName atTime one other := by
  rw [competing_iff, ← ByKey.argmax_perm_iff]
  constructor
  · intro same arranged perm
    -- an order of the facts that apply is the one of some order of all facts
    have rest := List.filter_append_perm (fun fact => fact.applies entityId attributeName atTime) base
    have whole := same (arranged ++ base.filter fun fact => !fact.applies entityId attributeName atTime)
      ((perm.append_right _).trans rest)
    have kept : arranged.filter (·.applies entityId attributeName atTime) = arranged :=
      List.filter_eq_self.mpr fun fact inside => (List.mem_filter.mp (perm.mem_iff.mp inside)).2
    have others : (base.filter fun fact => !fact.applies entityId attributeName atTime).filter
        (·.applies entityId attributeName atTime) = [] := by simp [List.filter_filter]
    rwa [TemporalKnowledgeBase.queryAt, List.filter_append, kept, others, List.append_nil] at whole
  · intro same arrived perm
    exact same _ (perm.filter _)

/-- What is known does not depend on the order of insertion exactly when at no time two
facts compete. -/
theorem insertion_order_irrelevant_iff (base : TemporalKnowledgeBase α) :
    (∀ arrived : TemporalKnowledgeBase α, arrived.Perm base → ∀ entityId attributeName atTime,
        arrived.queryAt entityId attributeName atTime = base.queryAt entityId attributeName atTime) ↔
      ∀ entityId attributeName atTime one other, ¬ Competing base entityId attributeName atTime one other := by
  simp only [← query_order_free_iff]
  constructor
  · exact fun same entityId attributeName atTime arrived perm => same arrived perm entityId attributeName atTime
  · exact fun same arrived perm entityId attributeName atTime => same entityId attributeName atTime arrived perm

/-- Another source reports another value at the same time: the first one inserted is what is known. -/
theorem insertion_order_decides :
    let other : TemporalFact String := { criticality none with factId := "fact-2", value := "high", sourceId := "legacy" }
    TemporalKnowledgeBase.queryAt [criticality none, other] "asset-x" "criticality" "2026-01-01T00:00:00Z" =
        some (criticality none) ∧
      TemporalKnowledgeBase.queryAt [other, criticality none] "asset-x" "criticality" "2026-01-01T00:00:00Z" = some other := by
  intro other
  have first : (criticality none).applies "asset-x" "criticality" "2026-01-01T00:00:00Z" = true := by
    rw [applies_eq, knownAt, criticality, decide_eq_true (le_refl "2026-01-01T00:00:00Z")]
    rfl
  have second : other.applies "asset-x" "criticality" "2026-01-01T00:00:00Z" = true := first
  -- the later of two equal starts does not replace the earlier one
  have answer (one two : TemporalFact String) (same : one.validFrom = two.validFrom) :
      [one, two].argmax TemporalFact.validFrom = some one := by
    rw [← List.singleton_append, List.argmax_concat, List.argmax_singleton]
    simp [same]
  constructor
  · rw [TemporalKnowledgeBase.queryAt, List.filter_cons, if_pos first, List.filter_singleton, second]
    exact answer _ _ rfl
  · rw [TemporalKnowledgeBase.queryAt, List.filter_cons, if_pos second, List.filter_singleton, first]
    exact answer _ _ rfl

end ArgosCore.Proofs
