import ArgosCore.Foundations.Admission
import ArgosCore.Normalizer

/-! The deduplication of the normalizer as a point of admission. A key that was reserved
by a call that neither succeeded nor was refused by the schema stays taken. -/

namespace ArgosCore.Proofs

variable [Runtime]

/-- The call gets past everything that can raise: its key is taken already, or its
severity is a text and the schema files can be read. -/
def Completes (normalizer : Normalizer) (call : ProcessCall) : Prop :=
  call.raw.dedupKey ∈ normalizer.seen ∨
    ∃ severityNative errors, call.raw.severityNative = .str severityNative ∧
      call.validatePayload (normalizer.fullPayload call (normalizeSeverity call.raw.source severityNative)) = .ok errors

inductive Processed (normalizer : Normalizer) (call : ProcessCall) :
    Except ProcessError NormalizeResult × Normalizer → Prop where
  | duplicate (taken : call.raw.dedupKey ∈ normalizer.seen) :
      Processed normalizer call (.error (.rejectedEvent (duplicateReason call.raw.dedupKey) []), normalizer)
  | accepted (free : call.raw.dedupKey ∉ normalizer.seen) (completes : Completes normalizer call)
      (result : NormalizeResult) :
      Processed normalizer call (.ok result, { normalizer with seen := insert call.raw.dedupKey normalizer.seen })
  | invalid (free : call.raw.dedupKey ∉ normalizer.seen) (completes : Completes normalizer call) (errors : List String)
      (some : errors ≠ []) :
      Processed normalizer call (.error (.rejectedEvent "schema inválido" errors), normalizer)
  | raised (free : call.raw.dedupKey ∉ normalizer.seen) (fails : ¬ Completes normalizer call) (error : ProcessError)
      (other : ∀ reason errors, error ≠ .rejectedEvent reason errors) :
      Processed normalizer call (.error error, { normalizer with seen := insert call.raw.dedupKey normalizer.seen })

theorem process_spec (normalizer : Normalizer) (call : ProcessCall) :
    Processed normalizer call (normalizer.process call) := by
  rw [Normalizer.process]
  by_cases taken : call.raw.dedupKey ∈ normalizer.seen
  · rw [if_pos taken]
    exact .duplicate taken
  · simp only [if_neg taken]
    split
    next severityNative textual =>
      split
      next message unreadable =>
        refine .raised taken ?_ _ (by simp)
        rintro (seen | ⟨other, errors, same, readable⟩)
        · exact taken seen
        · rw [textual] at same
          cases same
          rw [unreadable] at readable
          cases readable
      next errors readable =>
        have completes : Completes normalizer call := .inr ⟨severityNative, errors, textual, readable⟩
        by_cases invalid : errors ≠ []
        · rw [if_pos invalid, Finset.erase_insert taken]
          exact .invalid taken completes errors invalid
        · rw [if_neg invalid]
          exact .accepted taken completes _
    next textless =>
      refine .raised taken ?_ _ (by simp)
      rintro (seen | ⟨severityNative, _, textual, _⟩)
      · exact taken seen
      · exact textless severityNative textual

/-- An event is let in by a result and refused as a duplicate by a rejection without
errors of the schema. -/
def admission : Admission Normalizer ProcessCall (Except ProcessError NormalizeResult) (String × String) where
  step := Normalizer.process
  key call := call.raw.dedupKey
  remembered normalizer := normalizer.seen
  admits outcome := ∃ result, outcome = .ok result
  refuses outcome := ∃ reason, outcome = .error (.rejectedEvent reason [])

theorem admits_iff (outcome : Except ProcessError NormalizeResult) :
    admission.admits outcome ↔ ∃ result, outcome = .ok result := Iff.rfl

theorem admission_lawful : admission.Lawful := by
  constructor
  · intro normalizer call
    have cases := process_spec normalizer call
    simp only [Admission.answer, admission, Finset.mem_coe]
    generalize normalizer.process call = outcome at cases
    cases cases with
    | duplicate taken => simp [taken]
    | accepted free => simp [free]
    | invalid free _ errors some => simp [free, some]
    | raised free _ error other => simp [free, other]
  · intro normalizer call
    have cases := process_spec normalizer call
    simp only [Admission.answer, admission, Finset.mem_coe]
    generalize normalizer.process call = outcome at cases
    cases cases with
    | duplicate taken => simp
    | accepted free => simp [free]
    | invalid free => simp
    | raised free => simp

theorem remembers_iff (normalizer : Normalizer) (call : ProcessCall) :
    admission.Remembers normalizer call ↔ Completes normalizer call := by
  have cases := process_spec normalizer call
  simp only [Admission.Remembers, Admission.next, Admission.answer, admission, Finset.mem_coe]
  generalize normalizer.process call = outcome at cases
  cases cases with
  | duplicate taken => simp [Completes, taken]
  | accepted free completes result => simp [completes, or_comm]
  | invalid free completes => simp [completes]
  | raised free fails error =>
    simp only [fails, iff_false, not_forall]
    exact ⟨call.raw.dedupKey, by simp [free]⟩

/-- The set of keys is the set of accepted ones throughout a run exactly when no call
raises on the way: a key that an exception left behind is never given back. -/
theorem dedup_exact_iff (context : EnvelopeContext) (calls : List ProcessCall) :
    (∀ done call rest, calls = done ++ call :: rest → admission.Exact { context } done call) ↔
      ∀ done call rest, calls = done ++ call :: rest → Completes (admission.final { context } done) call := by
  rw [Admission.exact_iff admission_lawful (by simp [admission])]
  simp only [remembers_iff]

def alertContext : EnvelopeContext := { producer := "normalizer", runId := "run-1" }

/-- One alert, processed while its schema file is missing or readable. -/
def alertCall (answer : Except String (List String)) : ProcessCall where
  raw := { source := "wazuh", nativeRef := "wazuh://alert/1", severityNative := .str "5" }
  validatePayload _ := answer
  draw := ⟨0, 0⟩

def unreadableAlert : ProcessCall := alertCall (.error "No existe schemas/security-event/v1.schema.json")

def retriedAlert : List ProcessCall := [unreadableAlert, alertCall (.ok [])]

omit [Runtime] in
/-- The retry of an alert that was never accepted is refused as a duplicate. -/
theorem retried_alert_refused :
    letI := Runtime.transparent
    admission.answer (admission.final { context := alertContext } [unreadableAlert]) (alertCall (.ok [])) =
        .error (.rejectedEvent (duplicateReason ("wazuh", "wazuh://alert/1")) []) ∧
      (∀ key, ¬ admission.Admitted (admission.history { context := alertContext } retriedAlert) key) ∧
      ¬ ∀ done call rest, retriedAlert = done ++ call :: rest → admission.Exact { context := alertContext } done call := by
  let _ := Runtime.transparent
  have refused : admission.answer (admission.final { context := alertContext } [unreadableAlert]) (alertCall (.ok [])) =
      .error (.rejectedEvent (duplicateReason ("wazuh", "wazuh://alert/1")) []) := rfl
  have raised : admission.answer { context := alertContext } unreadableAlert =
      .error (.unreadableSchema "No existe schemas/security-event/v1.schema.json") := rfl
  have first (key : String × String) :
      ¬ admission.Admitted (admission.history { context := alertContext } [unreadableAlert]) key := by
    simp [Admission.Admitted, Admission.history, raised, admits_iff]
  refine ⟨refused, ?_, ?_⟩
  · intro key
    rw [show retriedAlert = [unreadableAlert] ++ [alertCall (.ok [])] from rfl, Admission.admitted_concat, refused]
    simp [first, admits_iff]
  · intro exact
    exact first _ ((exact [unreadableAlert] (alertCall (.ok [])) [] rfl).earlier ⟨_, refused⟩)

end ArgosCore.Proofs
