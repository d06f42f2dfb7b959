import ArgosCore.Proofs.BacktestFigures

/-! What more events do to a backtest. The busiest hour only gets busier, so the gate is
never opened by adding events. Alerts are counted by groups, and an event between two
groups makes them one. -/

namespace ArgosCore.Proofs
open IsoTime Backtest

theorem matched_subperm {history larger : List BacktestEvent} (among : history.Subperm larger) (ruleSpec : Json.Object) :
    (matched ruleSpec history).Subperm (matched ruleSpec larger) := among.filter _

section
variable {history larger : List BacktestEvent}

theorem groupByKeyAndWindow_of_subset {keyFn : BacktestEvent → CorrelationKey} {window : Int}
    {groups : List (List BacktestEvent)} (subset : history ⊆ larger)
    (grouped : groupByKeyAndWindow keyFn window larger = .ok groups) :
    groupByKeyAndWindow keyFn window history = .ok (Gaps.grouped keyFn happened window history) := by
  have comparable := (groupByKeyAndWindow_ok_iff.mp grouped).1
  refine groupByKeyAndWindow_ok_iff.mpr ⟨fun value known => ?_, rfl⟩
  obtain ⟨event, inside, same⟩ := Buckets.mem_keys.mp known
  refine (comparable value (Buckets.mem_keys.mpr ⟨event, subset inside, same⟩)).subset ?_
  apply List.map_subset
  intro other member
  obtain ⟨old, here⟩ := Buckets.mem_ofKey.mp member
  exact Buckets.mem_ofKey.mpr ⟨subset old, here⟩

theorem estimatedAlerts_of_subset {ruleSpec : Json.Object} {alerts : Nat} (subset : history ⊆ larger)
    (estimated : estimatedAlerts ruleSpec larger = .ok alerts) : ∃ fewer, estimatedAlerts ruleSpec history = .ok fewer := by
  cases estimatedAlerts_ok_iff.mp estimated with
  | @declared rule groups declares done =>
    rw [CorrelationRule.alertGroups] at done
    cases grouped : groupByKeyAndWindow rule.key rule.timeframe larger with
    | error error =>
      rw [grouped] at done
      cases done
    | ok formed =>
      have some := groupByKeyAndWindow_of_subset subset grouped
      have counted : rule.alertGroups history = .ok _ := congrArg (Except.map _) some
      exact ⟨_, estimatedAlerts_ok_iff.mpr (.declared declares counted)⟩
  | undeclared read absent => exact ⟨_, estimatedAlerts_ok_iff.mpr (.undeclared read absent)⟩
  | unread read both frequency timeframe nothing =>
    rw [nothing, List.subset_nil] at subset
    exact ⟨0, estimatedAlerts_ok_iff.mpr (.unread read both frequency timeframe subset)⟩

theorem maxAlertsPerHour_of_subset {most : Nat} (subset : history ⊆ larger) (busiest : maxAlertsPerHour larger = .ok most) :
    ∃ fewer, maxAlertsPerHour history = .ok fewer := by
  obtain ⟨times, read, _⟩ := maxAlertsPerHour_ok busiest
  have readable := (readAs_iff_stamps.mp read).readable
  obtain ⟨fewer, readFewer⟩ := exists_readStamps fun stamp inside => readable stamp (List.map_subset _ subset inside)
  have parsed := mapM_parse_ok_iff.mpr (readAs_iff_stamps.mpr readFewer)
  exact ⟨_, by rw [maxAlertsPerHour, parsed]; rfl⟩

theorem runBacktest_of_subset {ruleSpec : Json.Object} {windowDays : Int} {noisy : BacktestResult} (subset : history ⊆ larger)
    (ran : runBacktest ruleSpec larger windowDays = .ok noisy) : ∃ quiet, runBacktest ruleSpec history windowDays = .ok quiet := by
  have part : matched ruleSpec history ⊆ matched ruleSpec larger := List.filter_subset _ subset
  obtain ⟨alerts, estimated⟩ := estimatedAlerts_of_subset part (runBacktest_figures ran).alerts
  obtain ⟨most, busiest⟩ := maxAlertsPerHour_of_subset part (runBacktest_figures ran).volume
  exact ⟨_, by rw [runBacktest, estimated, busiest]; rfl⟩

theorem maxAlertsPerHour_mono {most fewer : Nat} (among : history.Subperm larger)
    (busiest : maxAlertsPerHour larger = .ok most) (calm : maxAlertsPerHour history = .ok fewer) : fewer ≤ most := by
  rw [maxAlertsPerHour_le_iff calm]
  intro hour
  exact (among.countP_le _).trans ((maxAlertsPerHour_le_iff busiest).mp (Nat.le_refl most) hour)

end

theorem authorizeDeployment_antitone [Runtime] {gate : RuleDeploymentGate} {ruleSpec : Json.Object}
    {history larger : List BacktestEvent} {windowDays : Int} {noisy : BacktestResult} {socDecision : Json.Object}
    {durable : Bool} {decision : RuleDeploymentAuthorizationResult} (among : history.Subperm larger)
    (ran : runBacktest ruleSpec larger windowDays = .ok noisy)
    (decided : gate.authorizeDeployment socDecision (some noisy.asDict) durable = some decision)
    (allowed : decision.allowed = true) :
    ∃ quiet other, runBacktest ruleSpec history windowDays = .ok quiet ∧
      gate.authorizeDeployment socDecision (some quiet.asDict) durable = some other ∧ other.allowed = true := by
  obtain ⟨confirmed, approved, volume⟩ :=
    (authorizeDeployment_iff gate socDecision noisy durable).mp ⟨decision, decided, allowed⟩
  obtain ⟨quiet, also⟩ := runBacktest_of_subset among.subset ran
  have fewer := maxAlertsPerHour_mono (matched_subperm among ruleSpec) (runBacktest_figures ran).volume
    (runBacktest_figures also).volume
  have within : (quiet.maxAlertsPerHour : Int) ≤ gate.maxAlertsPerHour := by omega
  obtain ⟨other, result⟩ := (authorizeDeployment_iff gate socDecision quiet durable).mpr ⟨confirmed, approved, within⟩
  exact ⟨quiet, other, also, result⟩

/-- Two bursts of failed logins, three minutes apart. -/
private def twoBursts : List BacktestEvent :=
  [failedLogin "2026-08-11T10:00:00Z", failedLogin "2026-08-11T10:00:10Z", failedLogin "2026-08-11T10:00:20Z",
    failedLogin "2026-08-11T10:03:20Z", failedLogin "2026-08-11T10:03:30Z", failedLogin "2026-08-11T10:03:40Z"]

private def bridgedBursts : List BacktestEvent := failedLogin "2026-08-11T10:01:50Z" :: twoBursts

private theorem twoBursts_among : twoBursts.Subperm bridgedBursts := (List.sublist_cons_self ..).subperm

private theorem bridgedBursts_backtest : ∃ noisy, runBacktest threeInTwoMinutes bridgedBursts 7 = .ok noisy ∧
    noisy.maxAlertsPerHour = 7 ∧ noisy.estimatedAlerts = 1 := by
  have ran : ∃ noisy, runBacktest threeInTwoMinutes bridgedBursts 7 = .ok noisy := ⟨_, rfl⟩
  obtain ⟨noisy, ran⟩ := ran
  have busiest : maxAlertsPerHour (matched threeInTwoMinutes bridgedBursts) = .ok 7 := by decide
  have one : estimatedAlerts threeInTwoMinutes (matched threeInTwoMinutes bridgedBursts) = .ok 1 := by decide
  exact ⟨noisy, ran, Except.ok.inj ((runBacktest_figures ran).volume.symm.trans busiest),
    Except.ok.inj ((runBacktest_figures ran).alerts.symm.trans one)⟩

private def confirmedThreat : Json.Object := [("decision", .str "CONFIRMED_THREAT")]

theorem authorizeDeployment_antitone_bursts :
    letI := Runtime.transparent
    ∃ quiet other, runBacktest threeInTwoMinutes twoBursts 7 = .ok quiet ∧
      RuleDeploymentGate.authorizeDeployment ⟨10⟩ confirmedThreat (some quiet.asDict) true = some other ∧
      other.allowed = true := by
  let _ := Runtime.transparent
  obtain ⟨noisy, ran, busiest, _⟩ := bridgedBursts_backtest
  obtain ⟨decision, decided, allowed⟩ :=
    (authorizeDeployment_iff ⟨10⟩ confirmedThreat noisy true).mpr ⟨rfl, rfl, by simp [busiest]⟩
  exact authorizeDeployment_antitone twoBursts_among ran decided allowed

namespace CorrelationRule

/-- Alerts of the larger history that hold no alert of the smaller one. -/
def newAlerts (rule : CorrelationRule) (history larger : List BacktestEvent) : Nat :=
  Gaps.appeared rule.key happened rule.timeframe history larger rule.fires

/-- Alerts of the smaller history that are one with another of them in the larger one. -/
def mergedAlerts (rule : CorrelationRule) (history larger : List BacktestEvent) : Nat :=
  Gaps.joined rule.key happened rule.timeframe history larger rule.fires

theorem fires_mono {rule : CorrelationRule} (part whole : List BacktestEvent) (among : part.Subperm whole)
    (firing : rule.fires part = true) : rule.fires whole = true := by
  have longer := among.length_le
  have enough : rule.frequency ≤ part.length := of_decide_eq_true firing
  exact decide_eq_true (by omega)

variable {rule : CorrelationRule} {history larger : List BacktestEvent}

theorem stretches_balance (forward : 0 ≤ rule.timeframe) (among : history.Subperm larger) :
    rule.stretches history + rule.newAlerts history larger = rule.stretches larger + rule.mergedAlerts history larger :=
  Gaps.countP_grouped_balance forward among fires_mono

theorem stretches_mono_iff (among : history.Subperm larger) :
    rule.stretches history ≤ rule.stretches larger ↔
      (0 ≤ rule.timeframe → rule.mergedAlerts history larger ≤ rule.newAlerts history larger) := by
  by_cases forward : 0 ≤ rule.timeframe
  · have balance := stretches_balance forward among
    constructor
    · intro more _
      omega
    · intro fewer
      have merged := fewer forward
      omega
  · have shorter := among.length_le
    rw [stretches_of_negative (not_le.mp forward), stretches_of_negative (not_le.mp forward)]
    split_ifs <;> simp [forward, shorter]

end CorrelationRule

/-- Adding events raises the number of alerts, or leaves it, exactly when it makes as many new
alerts as it merges. -/
theorem more_events_more_alerts_iff {ruleSpec : Json.Object} {history larger : List BacktestEvent} {windowDays : Int}
    {noisy : BacktestResult} (among : history.Subperm larger) (ran : runBacktest ruleSpec larger windowDays = .ok noisy) :
    ∃ quiet, runBacktest ruleSpec history windowDays = .ok quiet ∧
      (quiet.estimatedAlerts ≤ noisy.estimatedAlerts ↔ ∀ rule, Declares ruleSpec rule → 0 ≤ rule.timeframe →
        rule.mergedAlerts (matched ruleSpec history) (matched ruleSpec larger) ≤
          rule.newAlerts (matched ruleSpec history) (matched ruleSpec larger)) := by
  obtain ⟨quiet, also⟩ := runBacktest_of_subset among.subset ran
  have part := matched_subperm among ruleSpec
  have before := (runBacktest_figures also).alerts
  have after := (runBacktest_figures ran).alerts
  refine ⟨quiet, also, ?_⟩
  constructor
  · intro more rule declares
    rw [alerts_of_declares declares before, alerts_of_declares declares after] at more
    exact (CorrelationRule.stretches_mono_iff part).mp more
  · intro merged
    by_cases correlated : ∃ rule, Declares ruleSpec rule
    · obtain ⟨rule, declares⟩ := correlated
      rw [alerts_of_declares declares before, alerts_of_declares declares after]
      exact (CorrelationRule.stretches_mono_iff part).mpr (merged rule declares)
    · rw [alerts_of_none (not_exists.mp correlated) before, alerts_of_none (not_exists.mp correlated) after]
      exact part.length_le

theorem more_events_more_alerts_iff_bursts :
    ∃ quiet noisy, runBacktest threeInTwoMinutes twoBursts 7 = .ok quiet ∧
      runBacktest threeInTwoMinutes bridgedBursts 7 = .ok noisy ∧
      (quiet.estimatedAlerts ≤ noisy.estimatedAlerts ↔ ∀ rule, Declares threeInTwoMinutes rule → 0 ≤ rule.timeframe →
        rule.mergedAlerts (matched threeInTwoMinutes twoBursts) (matched threeInTwoMinutes bridgedBursts) ≤
          rule.newAlerts (matched threeInTwoMinutes twoBursts) (matched threeInTwoMinutes bridgedBursts)) := by
  obtain ⟨noisy, ran, _⟩ := bridgedBursts_backtest
  obtain ⟨quiet, also, same⟩ := more_events_more_alerts_iff twoBursts_among ran
  exact ⟨quiet, noisy, also, ran, same⟩

/-- The login between the bursts is less than two minutes from both, and two alerts become one. -/
theorem bridging_login_merges_alerts :
    ∃ quiet noisy, twoBursts.Subperm bridgedBursts ∧ runBacktest threeInTwoMinutes twoBursts 7 = .ok quiet ∧
      runBacktest threeInTwoMinutes bridgedBursts 7 = .ok noisy ∧ quiet.estimatedAlerts = 2 ∧ noisy.estimatedAlerts = 1 := by
  obtain ⟨noisy, ran, _, one⟩ := bridgedBursts_backtest
  obtain ⟨quiet, also⟩ := runBacktest_of_subset twoBursts_among.subset ran
  have two : estimatedAlerts threeInTwoMinutes (matched threeInTwoMinutes twoBursts) = .ok 2 := by decide
  exact ⟨quiet, noisy, twoBursts_among, also, ran,
    Except.ok.inj ((runBacktest_figures also).alerts.symm.trans two), one⟩

end ArgosCore.Proofs
