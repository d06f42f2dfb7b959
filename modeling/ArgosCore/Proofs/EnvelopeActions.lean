import ArgosCore.SafetyKernel
import Mathlib.Order.SymmDiff

/-! What an envelope lets through: the target that was evaluated, with the modes of its tool,
and the execution of nothing that cannot be undone. -/

namespace ArgosCore.Proofs
open SafetyKernel

structure ModesSorted (modes allowed forbidden : List String) : Prop where
  all : (allowed ++ forbidden).Perm modes
  exactlyOne : ∀ mode ∈ modes, Xor (mode ∈ allowed) (mode ∈ forbidden)

/-- What can be authorised of a tool: a mode of it on the target it was evaluated for, unless
what it does is irreversible, and the execution only of what can be rolled back. -/
structure Authorisable (inp : SafetyCheckInput) (target action : String) : Prop where
  evaluated : target = inp.target
  mode : action ∈ inp.toolModes
  reversible : inp.sideEffectClass ∉ ["IRREVERSIBLE", "DESTRUCTIVE"]
  execution : action = "execute" → inp.rollbackSupported = true ∧ inp.sideEffectClass = "REVERSIBLE_WRITE"

section
variable {inp : SafetyCheckInput}

theorem mem_allowedActions {action : String} :
    action ∈ allowedActions inp ↔ action ∈ inp.toolModes ∧ inp.sideEffectClass ∉ ["IRREVERSIBLE", "DESTRUCTIVE"] ∧
      (action = "execute" → inp.rollbackSupported = true ∧ inp.sideEffectClass = "REVERSIBLE_WRITE") := by
  rw [allowedActions]
  by_cases undone : inp.sideEffectClass ∈ ["IRREVERSIBLE", "DESTRUCTIVE"]
  · rw [if_pos undone]
    simp [undone]
  · rw [if_neg undone, List.mem_filter]
    simp [undone, imp_iff_not_or]

theorem mem_forbiddenActions {action : String} :
    action ∈ forbiddenActions inp ↔ action ∈ inp.toolModes ∧ action ∉ allowedActions inp := by
  rw [forbiddenActions]
  by_cases undone : inp.sideEffectClass ∈ ["IRREVERSIBLE", "DESTRUCTIVE"]
  · rw [if_pos undone, allowedActions, if_pos undone]
    simp
  · rw [if_neg undone, List.mem_filter]
    simp

theorem modes_sorted (inp : SafetyCheckInput) : ModesSorted inp.toolModes (allowedActions inp) (forbiddenActions inp) where
  all := by
    by_cases undone : inp.sideEffectClass ∈ ["IRREVERSIBLE", "DESTRUCTIVE"]
    · rw [allowedActions, forbiddenActions, if_pos undone, if_pos undone, List.nil_append]
    · have others : forbiddenActions inp = inp.toolModes.filter fun mode =>
          !(mode ≠ "execute" || (inp.rollbackSupported && inp.sideEffectClass = "REVERSIBLE_WRITE")) := by
        rw [forbiddenActions, allowedActions, if_neg undone, if_neg undone]
        apply List.filter_congr
        intro mode inside
        simp [inside]
      rw [others, allowedActions, if_neg undone]
      exact List.filter_append_perm ..
  exactlyOne mode inside := by
    by_cases allowed : mode ∈ allowedActions inp
    · exact .inl ⟨allowed, fun forbidden => (mem_forbiddenActions.mp forbidden).2 allowed⟩
    · exact .inr ⟨mem_forbiddenActions.mpr ⟨inside, allowed⟩, allowed⟩

end

variable [Runtime]

theorem actionRequestWithinEnvelope_iff (inp : SafetyCheckInput) (checks : List Check) (draw : Draw) (target action : String) :
    actionRequestWithinEnvelope target action (buildEnvelopePayload inp checks draw) = some true ↔
      target = inp.target ∧ action ∈ allowedActions inp := by
  have targets : (buildEnvelopePayload inp checks draw).lookup "target_set" = some (.arr [.str inp.target]) := rfl
  have actions : (buildEnvelopePayload inp checks draw).lookup "allowed_actions" =
      some (.arr ((allowedActions inp).map .str)) := rfl
  have named := Json.contains?_texts [inp.target] target
  rw [List.map_singleton] at named
  rw [actionRequestWithinEnvelope, targets]
  simp only [Option.bind_eq_bind, Option.bind_some, named, actions, Json.contains?_texts]
  by_cases same : target = inp.target <;> simp [same]

/-- An envelope sorts the modes of the tool, and lets through only what can be authorised. -/
theorem envelope_authorises (inp : SafetyCheckInput) (checks : List Check) (draw : Draw) :
    (∃ allowed forbidden : List String,
      (buildEnvelopePayload inp checks draw).lookup "allowed_actions" = some (.arr (allowed.map .str)) ∧
        (buildEnvelopePayload inp checks draw).lookup "forbidden_actions" = some (.arr (forbidden.map .str)) ∧
        ModesSorted inp.toolModes allowed forbidden) ∧
      ∀ target action, actionRequestWithinEnvelope target action (buildEnvelopePayload inp checks draw) = some true ↔
        Authorisable inp target action := by
  refine ⟨⟨_, _, rfl, rfl, modes_sorted inp⟩, fun target action => ?_⟩
  rw [actionRequestWithinEnvelope_iff, mem_allowedActions]
  constructor
  · rintro ⟨evaluated, mode, reversible, execution⟩
    exact ⟨evaluated, mode, reversible, execution⟩
  · rintro ⟨evaluated, mode, reversible, execution⟩
    exact ⟨evaluated, mode, reversible, execution⟩

end ArgosCore.Proofs
