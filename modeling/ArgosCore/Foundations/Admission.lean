import Mathlib.Data.Set.Basic
import Mathlib.Data.List.Induction

/-! Letting keyed requests in once. A point of admission remembers keys and refuses a
request whose key it remembers; it is exact when it remembers the keys it let in. -/

structure Admission (σ ι β κ : Type) where
  step : σ → ι → β × σ
  key : ι → κ
  remembered : σ → Set κ
  admits : β → Prop
  refuses : β → Prop

namespace Admission

variable {σ ι β κ : Type} (point : Admission σ ι β κ)

def answer (state : σ) (input : ι) : β := (point.step state input).1

def next (state : σ) (input : ι) : σ := (point.step state input).2

def final (state : σ) (inputs : List ι) : σ := inputs.foldl point.next state

def history (state : σ) : List ι → List (ι × β)
  | [] => []
  | input :: inputs => (input, point.answer state input) :: history (point.next state input) inputs

def Admitted (history : List (ι × β)) (key : κ) : Prop :=
  ∃ entry ∈ history, point.key entry.1 = key ∧ point.admits entry.2

@[simp] theorem not_admitted_nil (key : κ) : ¬ point.Admitted [] key := by simp [Admitted]

theorem final_concat (state : σ) (done : List ι) (input : ι) :
    point.final state (done ++ [input]) = point.next (point.final state done) input := by
  simp [final]

theorem history_concat (state : σ) (done : List ι) (input : ι) :
    point.history state (done ++ [input]) =
      point.history state done ++ [(input, point.answer (point.final state done) input)] := by
  induction done generalizing state with
  | nil => rfl
  | cons first done ih => exact congrArg _ (ih (point.next state first))

theorem answer_of_mem_history {state : σ} {inputs : List ι} {entry : ι × β} (inside : entry ∈ point.history state inputs) :
    ∃ earlier, entry.2 = point.answer earlier entry.1 := by
  induction inputs generalizing state with
  | nil => cases inside
  | cons input inputs ih =>
    rcases List.mem_cons.mp inside with rfl | later
    · exact ⟨state, rfl⟩
    · exact ih later

theorem admitted_concat (state : σ) (done : List ι) (input : ι) (key : κ) :
    point.Admitted (point.history state (done ++ [input])) key ↔
      point.Admitted (point.history state done) key ∨
        key = point.key input ∧ point.admits (point.answer (point.final state done) input) := by
  simp [Admitted, history_concat, or_and_right, exists_or, eq_comm]

/-- A request with a remembered key is refused and not let in, any other is not refused. -/
structure Lawful : Prop where
  refuses_iff : ∀ state input, point.refuses (point.answer state input) ↔ point.key input ∈ point.remembered state
  fresh : ∀ state input, point.admits (point.answer state input) → point.key input ∉ point.remembered state

def Remembers (state : σ) (input : ι) : Prop :=
  ∀ key, key ∈ point.remembered (point.next state input) ↔
    key ∈ point.remembered state ∨ key = point.key input ∧ point.admits (point.answer state input)

/-- What holds after a request: the remembered keys are those let in so far, it was let
in as the first of its key, and it was refused because of an earlier one. -/
structure Exact (start : σ) (done : List ι) (input : ι) : Prop where
  remembered : ∀ key, key ∈ point.remembered (point.final start (done ++ [input])) ↔
    point.Admitted (point.history start (done ++ [input])) key
  once : point.admits (point.answer (point.final start done) input) →
    ¬ point.Admitted (point.history start done) (point.key input)
  earlier : point.refuses (point.answer (point.final start done) input) →
    point.Admitted (point.history start done) (point.key input)

variable {point}

theorem remembered_of_remembers {start : σ} (empty : ∀ key, key ∉ point.remembered start) {inputs : List ι}
    (remembers : ∀ done input rest, inputs = done ++ input :: rest → point.Remembers (point.final start done) input)
    (key : κ) :
    key ∈ point.remembered (point.final start inputs) ↔ point.Admitted (point.history start inputs) key := by
  induction inputs using List.reverseRecOn with
  | nil => simp [final, history, empty]
  | append_singleton done input ih =>
    have before := ih fun done' input' rest same => remembers done' input' (rest ++ [input]) (by simp [same])
    rw [final_concat, admitted_concat, ← before]
    exact remembers done input [] rfl key

/-- A run is exact at every request when every step remembers what it lets in, and no
later step can repair one that does not. -/
theorem exact_iff (lawful : point.Lawful) {start : σ} (empty : ∀ key, key ∉ point.remembered start) (inputs : List ι) :
    (∀ done input rest, inputs = done ++ input :: rest → point.Exact start done input) ↔
      ∀ done input rest, inputs = done ++ input :: rest → point.Remembers (point.final start done) input := by
  constructor
  · intro exact done input rest same key
    have before : key ∈ point.remembered (point.final start done) ↔ point.Admitted (point.history start done) key := by
      cases done using List.reverseRecOn with
      | nil => simp [final, history, empty]
      | append_singleton done last => exact (exact done last (input :: rest) (by simp [same])).remembered key
    rw [before, ← final_concat, (exact done input rest same).remembered, admitted_concat]
  · intro remembers done input rest same
    have before : ∀ key, key ∈ point.remembered (point.final start done) ↔
        point.Admitted (point.history start done) key := by
      apply remembered_of_remembers empty
      intro done' input' rest' split
      exact remembers done' input' (rest' ++ input :: rest) (by simp [same, split])
    refine ⟨?_, ?_, ?_⟩
    · intro key
      rw [final_concat, admitted_concat, ← before]
      exact remembers done input rest same key
    · intro admitted earlier
      exact lawful.fresh _ _ admitted ((before _).mpr earlier)
    · intro refused
      exact (before _).mp ((lawful.refuses_iff _ _).mp refused)

end Admission
