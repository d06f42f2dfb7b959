import ArgosCore.Foundations.ByKey
import ArgosCore.Runtime

/-! What was known at a time: facts with the time of their observation and an
interval of validity, which a later mark can cut off. Times are compared as text. -/

namespace ArgosCore

structure TemporalFact (α : Type) where
  factId : String
  entityId : String
  attributeName : String
  value : α
  sourceId : String
  observedAt : String
  validFrom : String
  validUntil : Option String
  supersededAt : Option String
  deriving DecidableEq

variable {α : Type}

abbrev TemporalKnowledgeBase (α : Type) := List (TemporalFact α)

/-- `limit is None or at_time < limit` -/
def beforeLimit (atTime : String) : Option String → Bool
  | none => true
  | some limit => atTime < limit

/-- The candidates of `query_at` for the entity and the attribute. -/
def TemporalFact.applies (fact : TemporalFact α) (entityId attributeName atTime : String) : Bool :=
  fact.entityId = entityId && fact.attributeName = attributeName &&
    fact.observedAt ≤ atTime && fact.validFrom ≤ atTime &&
    beforeLimit atTime fact.validUntil && beforeLimit atTime fact.supersededAt

namespace TemporalKnowledgeBase

def addFact (base : TemporalKnowledgeBase α) (fact : TemporalFact α) : TemporalKnowledgeBase α := base ++ [fact]

/-- Mark the first fact with the id; the error is the `LookupError`. -/
def supersede [Runtime] : TemporalKnowledgeBase α → String → String → Except String (TemporalKnowledgeBase α)
  | [], factId, _ => .error ("fact_id " ++ Runtime.reprStr factId ++ " no existe en esta base")
  | fact :: base, factId, supersededAt =>
    if fact.factId = factId then .ok ({ fact with supersededAt := some supersededAt } :: base)
    else (supersede base factId supersededAt).map (fact :: ·)

/-- The candidate with the latest `valid_from`; of several, the first one. -/
def queryAt (base : TemporalKnowledgeBase α) (entityId attributeName atTime : String) : Option (TemporalFact α) :=
  (base.filter (·.applies entityId attributeName atTime)).argmax TemporalFact.validFrom

def historyFor (base : TemporalKnowledgeBase α) (entityId attributeName : String) : List (TemporalFact α) :=
  ByKey.sortedOn TemporalFact.validFrom
    (base.filter fun fact => fact.entityId = entityId ∧ fact.attributeName = attributeName)

end TemporalKnowledgeBase

inductive TemporalOp (α : Type) where
  | addFact (fact : TemporalFact α)
  | supersede (factId supersededAt : String)

namespace TemporalKnowledgeBase
variable [Runtime]

/-- A supersession that raises leaves the base as it is. -/
def step (base : TemporalKnowledgeBase α) : TemporalOp α → TemporalKnowledgeBase α
  | .addFact fact => base.addFact fact
  | .supersede factId supersededAt =>
    match base.supersede factId supersededAt with
    | .ok marked => marked
    | .error _ => base

def run (base : TemporalKnowledgeBase α) (ops : List (TemporalOp α)) : TemporalKnowledgeBase α := ops.foldl step base

end TemporalKnowledgeBase

end ArgosCore
