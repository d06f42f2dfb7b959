import ArgosCore.Foundations.IsoParse
import ArgosCore.Proofs.TemporalHistory

/-! Answers in real time. A query compares text; its answer is in force at the instant
of the query exactly for timestamps whose order as text is their order in time. -/

namespace ArgosCore.Proofs
open IsoTime

def instantOf (text : String) : Option Instant := (fromisoformat text).bind DateTime.instant?

variable {α : Type}

def timestamps (fact : TemporalFact α) : List String :=
  fact.observedAt :: fact.validFrom :: (fact.validUntil.toList ++ fact.supersededAt.toList)

def NotAfter (read : String → Option Instant) (earlier later : String) : Prop :=
  ∃ one other, read earlier = some one ∧ read later = some other ∧ one ≤ other

def StrictlyBefore (read : String → Option Instant) (earlier later : String) : Prop :=
  ∃ one other, read earlier = some one ∧ read later = some other ∧ one < other

/-- Observed, valid, not yet expired and not yet superseded at the instant of `atTime`. -/
structure InForce (read : String → Option Instant) (fact : TemporalFact α) (atTime : String) : Prop where
  observed : NotAfter read fact.observedAt atTime
  valid : NotAfter read fact.validFrom atTime
  unexpired : ∀ limit, fact.validUntil = some limit → StrictlyBefore read atTime limit
  unsuperseded : ∀ limit, fact.supersededAt = some limit → StrictlyBefore read atTime limit

def TextOrdersInstants (read : String → Option Instant) (stamps : Set String) : Prop :=
  ∀ one ∈ stamps, ∀ other ∈ stamps, one < other → StrictlyBefore read one other

theorem mem_of_queryAt {base : TemporalKnowledgeBase α} {entityId attributeName atTime : String} {fact : TemporalFact α}
    (answer : base.queryAt entityId attributeName atTime = some fact) :
    fact ∈ base ∧ fact.applies entityId attributeName atTime = true :=
  List.mem_filter.mp (List.argmax_mem answer)

theorem beforeLimit_iff (atTime : String) (limit : Option String) :
    beforeLimit atTime limit = true ↔ ∀ text, limit = some text → atTime < text := by
  cases limit with
  | none => simp [beforeLimit]
  | some text => simp only [beforeLimit, decide_eq_true_eq, Option.some.injEq, forall_eq']

theorem notAfter_of_le {read : String → Option Instant} {stamps : Set String} (ordered : TextOrdersInstants read stamps)
    {one other : String} (first : one ∈ stamps) (second : other ∈ stamps) (readable : (read other).isSome)
    (before : one ≤ other) : NotAfter read one other := by
  rcases before.lt_or_eq with less | same
  · obtain ⟨left, right, readLeft, readRight, strict⟩ := ordered one first other second less
    exact ⟨left, right, readLeft, readRight, strict.le⟩
  · obtain ⟨instant, found⟩ := Option.isSome_iff_exists.mp readable
    exact ⟨instant, instant, same ▸ found, found, le_refl _⟩

/-- For any reading of timestamps: the answers over a set of them are in force exactly
when their order as text is their order in time. -/
theorem answers_inForce_iff [Inhabited α] {read : String → Option Instant} {stamps : Set String}
    (aware : ∀ text ∈ stamps, (read text).isSome) :
    (∀ (base : TemporalKnowledgeBase α) (atTime : String), atTime ∈ stamps →
        (∀ fact ∈ base, ∀ text ∈ timestamps fact, text ∈ stamps) →
        ∀ entityId attributeName fact, base.queryAt entityId attributeName atTime = some fact →
          InForce read fact atTime) ↔
      TextOrdersInstants read stamps := by
  constructor
  · intro inForce one first other second less
    -- one fact that is observed at `one` and valid until `other`
    let fact : TemporalFact α := ⟨"fact", "entity", "attribute", default, "source", one, one, some other, none⟩
    have applies : fact.applies "entity" "attribute" one = true := by
      have within : beforeLimit one fact.validUntil = true := decide_eq_true less
      rw [applies_eq, knownAt, decide_eq_true (le_refl one : fact.observedAt ≤ one), within]
      rfl
    have answer : TemporalKnowledgeBase.queryAt [fact] "entity" "attribute" one = some fact := by
      rw [TemporalKnowledgeBase.queryAt, List.filter_singleton, applies]
      rfl
    have known : ∀ known ∈ [fact], ∀ text ∈ timestamps known, text ∈ stamps := by
      intro known inside text stamped
      rw [List.mem_singleton.mp inside] at stamped
      simp only [timestamps, fact, Option.toList_some, Option.toList_none, List.append_nil, List.mem_cons,
        List.not_mem_nil, or_false] at stamped
      rcases stamped with rfl | rfl | rfl
      · exact first
      · exact first
      · exact second
    exact (inForce [fact] one first known "entity" "attribute" fact answer).unexpired other rfl
  · intro ordered base atTime now known entityId attributeName fact answer
    obtain ⟨inside, applies⟩ := mem_of_queryAt answer
    rw [applies_eq, knownAt] at applies
    simp only [Bool.and_eq_true, decide_eq_true_eq, beforeLimit_iff] at applies
    obtain ⟨⟨_, ⟨observed, valid⟩, unexpired⟩, unsuperseded⟩ := applies
    have stamped := known fact inside
    have limit (text : String) (bound : text ∈ fact.validUntil.toList ++ fact.supersededAt.toList) (after : atTime < text) :
        StrictlyBefore read atTime text :=
      ordered atTime now text (stamped text (List.mem_cons_of_mem _ (List.mem_cons_of_mem _ bound))) after
    exact {
      observed := notAfter_of_le ordered (stamped _ List.mem_cons_self) now (aware _ now) observed
      valid := notAfter_of_le ordered (stamped _ (List.mem_cons_of_mem _ List.mem_cons_self)) now (aware _ now) valid
      unexpired := fun text bound => limit text (by simp [bound]) (unexpired text bound)
      unsuperseded := fun text bound => limit text (by simp [bound]) (unsuperseded text bound) }

theorem answers_inForce_iff_textOrder [Inhabited α] {stamps : Set String}
    (aware : ∀ text ∈ stamps, (instantOf text).isSome) :
    (∀ (base : TemporalKnowledgeBase α) (atTime : String), atTime ∈ stamps →
        (∀ fact ∈ base, ∀ text ∈ timestamps fact, text ∈ stamps) →
        ∀ entityId attributeName fact, base.queryAt entityId attributeName atTime = some fact →
          InForce instantOf fact atTime) ↔
      TextOrdersInstants instantOf stamps :=
  answers_inForce_iff aware

/-- Observed half a second after the query, in the format of the service's own clock. -/
def halfSecondLater : TemporalFact String :=
  { criticality none with
    observedAt := "2026-01-01T00:00:00.500000+00:00"
    validFrom := "2026-01-01T00:00:00.500000+00:00" }

/-- The query ends in `Z`, which sorts after a fraction. -/
theorem later_observation_answers :
    (fromisoformat "2026-01-01T00:00:00Z").isSome ∧ (fromisoformat "2026-01-01T00:00:00.500000+00:00").isSome ∧
      TemporalKnowledgeBase.queryAt [halfSecondLater] "asset-x" "criticality" "2026-01-01T00:00:00Z" =
        some halfSecondLater ∧
      ¬ InForce instantOf halfSecondLater "2026-01-01T00:00:00Z" := by
  refine ⟨by decide, by decide, ?_, ?_⟩
  · have textually : "2026-01-01T00:00:00.500000+00:00" ≤ "2026-01-01T00:00:00Z" := by
      rw [String.le_iff_toList_le]
      decide
    have applies : halfSecondLater.applies "asset-x" "criticality" "2026-01-01T00:00:00Z" = true := by
      rw [applies_eq, knownAt, halfSecondLater, decide_eq_true textually]
      rfl
    rw [TemporalKnowledgeBase.queryAt, List.filter_singleton, applies]
    rfl
  · intro inForce
    obtain ⟨seen, now, readSeen, readNow, before⟩ := inForce.observed
    have seenAt : instantOf "2026-01-01T00:00:00.500000+00:00" = some 1767225600500000 := by decide
    have nowAt : instantOf "2026-01-01T00:00:00Z" = some 1767225600000000 := by decide
    obtain rfl := Option.some.inj (seenAt.symm.trans readSeen)
    obtain rfl := Option.some.inj (nowAt.symm.trans readNow)
    exact absurd before (by decide)

def januaryStamps : Set String := {"2026-01-01T00:00:00Z", "2026-01-01T00:00:00.500000+00:00"}

theorem answers_inForce_iff_textOrder_january :
    (∀ text ∈ januaryStamps, (instantOf text).isSome) ∧
      ((∀ (base : TemporalKnowledgeBase String) (atTime : String), atTime ∈ januaryStamps →
          (∀ fact ∈ base, ∀ text ∈ timestamps fact, text ∈ januaryStamps) →
          ∀ entityId attributeName fact, base.queryAt entityId attributeName atTime = some fact →
            InForce instantOf fact atTime) ↔
        TextOrdersInstants instantOf januaryStamps) := by
  have aware : ∀ text ∈ januaryStamps, (instantOf text).isSome := by
    intro text member
    rcases member with rfl | rfl
    · decide
    · decide
  exact ⟨aware, answers_inForce_iff_textOrder aware⟩

end ArgosCore.Proofs
