import ArgosCore.Foundations.Fallible
import ArgosCore.RuleEngineering.DeploymentGate

/-! What an authorisation says about the history it was given for. The matching events are
counted by the hours of the clocks that wrote them, so an hour of real time, which can
begin anywhere, meets two of the counted hours. -/

namespace ArgosCore.Proofs
open IsoTime Backtest

def hourWidth : Int := 3600000000

def writtenHour (time : DateTime) : Int := time.wall / hourWidth

def inWrittenHour (hour : Int) (event : BacktestEvent) : Bool :=
  (fromisoformat event.observedAt).any fun time => writtenHour time = hour

/-- The timestamp was written with this offset, and its instant is within 60 minutes of the start. -/
def occursWithin (offset : Int) (start : Int) (event : BacktestEvent) : Bool :=
  (fromisoformat event.observedAt).any fun time =>
    time.offset = some offset ∧ start ≤ time.wall - offset ∧ time.wall - offset ≤ start + hourWidth

theorem hourBucket_congr {one other : DateTime} (same : writtenHour one = writtenHour other) :
    hourBucket one = hourBucket other := by
  have days (time : DateTime) : time.wall / 86400000000 = writtenHour time / 24 := by
    rw [writtenHour, hourWidth]
    omega
  have hours (time : DateTime) : (time.wall % 86400000000).toNat / 3600000000 = (writtenHour time % 24).toNat := by
    rw [writtenHour, hourWidth]
    omega
  simp only [hourBucket, days, hours, same]

def ReadAs (events : List BacktestEvent) (times : List DateTime) : Prop :=
  List.Forall₂ (fun event time => fromisoformat event.observedAt = some time) events times

theorem countP_read {events : List BacktestEvent} {times : List DateTime} (read : ReadAs events times)
    (wanted : DateTime → Bool) :
    events.countP (fun event => (fromisoformat event.observedAt).any wanted) = times.countP wanted := by
  induction read with
  | nil => rfl
  | cons same _ ih => rw [List.countP_cons, List.countP_cons, ih, same, Option.any_some]

theorem parse_ok_iff {event : BacktestEvent} {time : DateTime} :
    Backtest.parse event.observedAt = .ok time ↔ fromisoformat event.observedAt = some time := by
  rw [Backtest.parse]
  cases fromisoformat event.observedAt <;> simp

theorem mapM_parse_ok_iff {events : List BacktestEvent} {times : List DateTime} :
    events.mapM (fun event => Backtest.parse event.observedAt) = .ok times ↔ ReadAs events times := by
  simp only [Fallible.mapM_ok_iff, parse_ok_iff, ReadAs]

theorem maxAlertsPerHour_ok {events : List BacktestEvent} {most : Nat} (done : maxAlertsPerHour events = .ok most) :
    ∃ times, ReadAs events times ∧ most = Tally.busiest (Tally.tally (times.map hourBucket)) := by
  obtain ⟨times, read, returned⟩ := Fallible.bind_ok_iff.mp done
  exact ⟨times, mapM_parse_ok_iff.mp read, (Except.ok.inj returned).symm⟩

theorem countP_writtenHour_le (times : List DateTime) (hour : Int) :
    times.countP (fun time => writtenHour time = hour) ≤ Tally.busiest (Tally.tally (times.map hourBucket)) := by
  by_cases empty : ∃ time ∈ times, writtenHour time = hour
  · obtain ⟨first, _, here⟩ := empty
    refine Nat.le_trans ?_ (Tally.count_le_busiest (times.map hourBucket) (hourBucket first))
    rw [List.count, List.countP_map]
    apply List.countP_mono_left
    intro time _ inside
    exact beq_iff_eq.mpr (hourBucket_congr ((of_decide_eq_true inside).trans here.symm))
  · have none : times.countP (fun time => writtenHour time = hour) = 0 := by
      rw [List.countP_eq_zero]
      intro time member inside
      exact empty ⟨time, member, of_decide_eq_true inside⟩
    omega

section
variable {events : List BacktestEvent} {most : Nat}

theorem countP_inWrittenHour_le (done : maxAlertsPerHour events = .ok most) (hour : Int) :
    events.countP (inWrittenHour hour) ≤ most := by
  obtain ⟨times, read, rfl⟩ := maxAlertsPerHour_ok done
  exact (countP_read read _).le.trans (countP_writtenHour_le times hour)

/-- An hour of real time, on the clocks of one offset, is two hours of those clocks at most. -/
theorem countP_occursWithin_le (done : maxAlertsPerHour events = .ok most) (offset : Int) (start : Int) :
    events.countP (occursWithin offset start) ≤ 2 * most := by
  obtain ⟨times, read, rfl⟩ := maxAlertsPerHour_ok done
  have interval := Tally.countP_interval_le DateTime.wall (by decide : 0 < hourWidth)
    (countP_writtenHour_le times) (start + offset)
  refine ((countP_read read _).le.trans ?_).trans interval
  apply List.countP_mono_left
  intro time _ inside
  simp only [decide_eq_true_eq] at inside ⊢
  omega

end

structure Figures (ruleSpec : Json.Object) (events : List BacktestEvent) (result : BacktestResult) : Prop where
  counted : result.eventsMatched = (matched ruleSpec events).length
  alerts : estimatedAlerts ruleSpec (matched ruleSpec events) = .ok result.estimatedAlerts
  volume : maxAlertsPerHour (matched ruleSpec events) = .ok result.maxAlertsPerHour

theorem runBacktest_figures {ruleSpec : Json.Object} {events : List BacktestEvent} {windowDays : Int}
    {result : BacktestResult} (ran : runBacktest ruleSpec events windowDays = .ok result) :
    Figures ruleSpec events result := by
  simp only [runBacktest, Fallible.bind_ok_iff] at ran
  obtain ⟨alerts, counted, most, busiest, returned⟩ := ran
  rw [← Except.ok.inj returned]
  exact ⟨rfl, counted, busiest⟩

section
variable [Runtime]

theorem authorizeDeployment_iff (gate : RuleDeploymentGate) (socDecision : Json.Object) (result : BacktestResult)
    (durable : Bool) :
    (∃ decision, gate.authorizeDeployment socDecision (some result.asDict) durable = some decision ∧
        decision.allowed = true) ↔
      Json.get socDecision "decision" = .str "CONFIRMED_THREAT" ∧ durable = true ∧
        (result.maxAlertsPerHour : Int) ≤ gate.maxAlertsPerHour := by
  have volume : Json.get result.asDict "max_alerts_per_hour" = .int result.maxAlertsPerHour := rfl
  simp only [RuleDeploymentGate.authorizeDeployment, volume, reduceCtorEq, if_false, Json.number?, Option.bind_eq_bind,
    Option.bind_some]
  by_cases confirmed : Json.get socDecision "decision" = .str "CONFIRMED_THREAT"
  · by_cases storm : (result.maxAlertsPerHour : Int) > gate.maxAlertsPerHour
    · simp [confirmed, storm]
    · cases durable <;> simp [confirmed, storm, not_lt.mp storm]
  · simp [confirmed]

/-- What is authorised does not exceed the threshold in an hour of a clock, nor its double in
an hour of time as far as one offset goes. -/
theorem storm_gate_bounds {gate : RuleDeploymentGate} {ruleSpec : Json.Object} {events : List BacktestEvent}
    {windowDays : Int} {result : BacktestResult} {socDecision : Json.Object} {durable : Bool}
    {decision : RuleDeploymentAuthorizationResult}
    (ran : runBacktest ruleSpec events windowDays = .ok result)
    (decided : gate.authorizeDeployment socDecision (some result.asDict) durable = some decision)
    (allowed : decision.allowed = true) :
    (∀ hour, ((matched ruleSpec events).countP (inWrittenHour hour) : Int) ≤ gate.maxAlertsPerHour) ∧
      ∀ offset start,
        ((matched ruleSpec events).countP (occursWithin offset start) : Int) ≤ 2 * gate.maxAlertsPerHour := by
  obtain ⟨_, _, volume⟩ := (authorizeDeployment_iff gate socDecision result durable).mp ⟨decision, decided, allowed⟩
  have counted := (runBacktest_figures ran).volume
  constructor
  · intro hour
    have within := countP_inWrittenHour_le counted hour
    omega
  · intro offset start
    have within := countP_occursWithin_le counted offset start
    omega

end

private def storming : List BacktestEvent :=
  [{ wazuhRuleId := some "5710", observedAt := "2026-08-11T10:59:59Z" },
    { wazuhRuleId := some "5710", observedAt := "2026-08-11T11:00:00Z" }]

private def rule5710 : Json.Object := [("parent_rule_sid", .str "5710")]

private def confirmed : Json.Object := [("decision", .str "CONFIRMED_THREAT")]

private theorem storming_backtest :
    ∃ result, runBacktest rule5710 storming 7 = .ok result ∧ result.maxAlertsPerHour = 1 := by
  have ran : ∃ result, runBacktest rule5710 storming 7 = .ok result := ⟨_, rfl⟩
  obtain ⟨result, ran⟩ := ran
  have counted : maxAlertsPerHour (matched rule5710 storming) = .ok 1 := by decide
  exact ⟨result, ran, Except.ok.inj ((runBacktest_figures ran).volume.symm.trans counted)⟩

theorem storm_gate_bounds_two_hours :
    letI := Runtime.transparent
    ∃ result decision, runBacktest rule5710 storming 7 = .ok result ∧
      RuleDeploymentGate.authorizeDeployment ⟨1⟩ confirmed (some result.asDict) true = some decision ∧
      (∀ hour, ((matched rule5710 storming).countP (inWrittenHour hour) : Int) ≤ 1) ∧
      ∀ offset start, ((matched rule5710 storming).countP (occursWithin offset start) : Int) ≤ 2 * 1 := by
  let _ := Runtime.transparent
  obtain ⟨result, ran, calm⟩ := storming_backtest
  obtain ⟨decision, decided, allowed⟩ :=
    (authorizeDeployment_iff ⟨1⟩ confirmed result true).mpr ⟨rfl, rfl, by simp [calm]⟩
  exact ⟨result, decision, ran, decided, storm_gate_bounds ran decided allowed⟩

/-- Two events a second apart, in two hours of the clock. -/
theorem storm_across_the_hour :
    letI := Runtime.transparent
    ∃ result decision, runBacktest rule5710 storming 7 = .ok result ∧
      RuleDeploymentGate.authorizeDeployment ⟨1⟩ confirmed (some result.asDict) true = some decision ∧
      decision.allowed = true ∧ (1 : Int) < (matched rule5710 storming).countP (occursWithin 0 1786445999000000) := by
  let _ := Runtime.transparent
  obtain ⟨result, ran, calm⟩ := storming_backtest
  obtain ⟨decision, decided, allowed⟩ :=
    (authorizeDeployment_iff ⟨1⟩ confirmed result true).mpr ⟨rfl, rfl, by simp [calm]⟩
  exact ⟨result, decision, ran, decided, allowed, by decide⟩

end ArgosCore.Proofs
