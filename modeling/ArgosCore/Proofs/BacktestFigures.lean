import ArgosCore.Foundations.GapGrowth
import ArgosCore.Proofs.BacktestAlerts

/-! How the figures of one backtest relate. Alerts are estimated from the correlation of the
rule, the busiest hour is counted without it, so the busiest hour can have more "alerts"
than the whole history. -/

namespace ArgosCore.Proofs
open IsoTime Backtest

/-- The timestamp was written in this hour, such as `2026-08-11T10`. -/
def writtenIn (hour : String) (event : BacktestEvent) : Bool :=
  (fromisoformat event.observedAt).any fun time => hourBucket time = hour

def CorrelationRule.stretches (rule : CorrelationRule) (matched : List BacktestEvent) : Nat :=
  (Gaps.grouped rule.key happened rule.timeframe matched).countP fun stretch => rule.frequency ≤ stretch.length

structure FiguresConsistent (result : BacktestResult) : Prop where
  hour : result.maxAlertsPerHour ≤ result.estimatedAlerts
  history : result.estimatedAlerts ≤ result.eventsMatched

section
variable {ruleSpec : Json.Object} {events : List BacktestEvent} {windowDays : Int} {result : BacktestResult}

theorem maxAlertsPerHour_le_iff {matched : List BacktestEvent} {busiest most : Nat}
    (done : maxAlertsPerHour matched = .ok busiest) :
    busiest ≤ most ↔ ∀ hour, matched.countP (writtenIn hour) ≤ most := by
  obtain ⟨times, read, rfl⟩ := maxAlertsPerHour_ok done
  rw [Tally.busiest_tally_le_iff]
  apply forall_congr'
  intro hour
  have counted : matched.countP (writtenIn hour) = (times.map hourBucket).count hour := by
    rw [List.count, List.countP_map]
    exact (countP_read read _).trans (List.countP_congr fun time _ => by simp)
  rw [counted]

theorem stretches_le (rule : CorrelationRule) (matched : List BacktestEvent) : rule.stretches matched ≤ matched.length :=
  List.countP_le_length.trans (Gaps.length_grouped_le ..)

theorem alerts_of_declares {rule : CorrelationRule} {matched : List BacktestEvent} {alerts : Nat}
    (declares : Declares ruleSpec rule) (estimated : estimatedAlerts ruleSpec matched = .ok alerts) :
    alerts = rule.stretches matched := by
  rw [estimatedAlerts_of_declares declares] at estimated
  cases done : rule.alertGroups matched with
  | error error =>
    rw [done] at estimated
    cases estimated
  | ok counted =>
    rw [done] at estimated
    rw [← Except.ok.inj estimated, alertGroups_eq done, CorrelationRule.stretches, List.countP_eq_length_filter]

theorem alerts_of_none {matched : List BacktestEvent} {alerts : Nat} (none : ∀ rule, ¬ Declares ruleSpec rule)
    (estimated : estimatedAlerts ruleSpec matched = .ok alerts) : alerts = matched.length := by
  cases estimatedAlerts_ok_iff.mp estimated with
  | declared declares done => exact absurd declares (none _)
  | undeclared read absent => rfl
  | unread read both frequency timeframe nothing => rw [nothing, List.length_nil]

theorem estimatedAlerts_le (ran : runBacktest ruleSpec events windowDays = .ok result) :
    result.estimatedAlerts ≤ result.eventsMatched := by
  rw [(runBacktest_figures ran).counted]
  by_cases correlated : ∃ rule, Declares ruleSpec rule
  · obtain ⟨rule, declares⟩ := correlated
    rw [alerts_of_declares declares (runBacktest_figures ran).alerts]
    exact stretches_le ..
  · exact (alerts_of_none (not_exists.mp correlated) (runBacktest_figures ran).alerts).le

theorem figures_consistent_iff (ran : runBacktest ruleSpec events windowDays = .ok result) :
    FiguresConsistent result ↔ ∀ rule, Declares ruleSpec rule →
      ∀ hour, (matched ruleSpec events).countP (writtenIn hour) ≤ rule.stretches (matched ruleSpec events) := by
  have alerts := (runBacktest_figures ran).alerts
  have busiest (most : Nat) : result.maxAlertsPerHour ≤ most ↔
      ∀ hour, (matched ruleSpec events).countP (writtenIn hour) ≤ most :=
    maxAlertsPerHour_le_iff (runBacktest_figures ran).volume
  constructor
  · intro consistent rule declares
    rw [← busiest, ← alerts_of_declares declares alerts]
    exact consistent.hour
  · intro bound
    by_cases correlated : ∃ rule, Declares ruleSpec rule
    · obtain ⟨rule, declares⟩ := correlated
      have counted := alerts_of_declares declares alerts
      exact ⟨counted ▸ (busiest _).mpr (bound rule declares), estimatedAlerts_le ran⟩
    · have counted := alerts_of_none (not_exists.mp correlated) alerts
      exact ⟨counted ▸ (busiest _).mpr fun _ => List.countP_le_length, estimatedAlerts_le ran⟩

/-- Alerts take as many matches as the rule asks for, each its own. -/
theorem frequency_mul_stretches_le (rule : CorrelationRule) (matched : List BacktestEvent) :
    rule.frequency * rule.stretches matched ≤ matched.length := by
  have counted (groups : List (List BacktestEvent)) :
      rule.frequency * groups.countP (fun group => rule.frequency ≤ group.length) ≤ groups.flatten.length := by
    induction groups with
    | nil => simp
    | cons group groups ih =>
      rw [List.countP_cons, List.flatten_cons, List.length_append]
      split_ifs with enough
      · have met : rule.frequency ≤ group.length := of_decide_eq_true enough
        rw [Int.natCast_add, Int.natCast_add, Int.mul_add]
        omega
      · rw [Int.natCast_add, Int.natCast_add, Int.mul_add]
        omega
  have whole := (Gaps.flatten_grouped_perm rule.key happened rule.timeframe matched).length_eq
  rw [← whole]
  exact counted _

theorem inconsistent_of_crowded (ran : runBacktest ruleSpec events windowDays = .ok result) {rule : CorrelationRule}
    (declares : Declares ruleSpec rule) (hour : String)
    (crowded : (matched ruleSpec events).length < rule.frequency * (matched ruleSpec events).countP (writtenIn hour)) :
    ¬ FiguresConsistent result := by
  intro consistent
  have most := (figures_consistent_iff ran).mp consistent rule declares hour
  have share := frequency_mul_stretches_le rule (matched ruleSpec events)
  have positive : 0 < rule.frequency := by
    by_contra nonpositive
    have product := Int.mul_nonpos_of_nonpos_of_nonneg (not_lt.mp nonpositive)
      (Int.natCast_nonneg ((matched ruleSpec events).countP (writtenIn hour)))
    omega
  have more := Int.mul_le_mul_of_nonneg_left (Int.ofNat_le.mpr most) positive.le
  omega

theorem consistent_of_matched_nil (ran : runBacktest ruleSpec events windowDays = .ok result)
    (nothing : matched ruleSpec events = []) : FiguresConsistent result := by
  refine (figures_consistent_iff ran).mpr fun rule _ hour => ?_
  rw [nothing]
  exact Nat.zero_le _

end

/-- The rule matches some event at all. -/
def Matchable (ruleSpec : Json.Object) : Prop := ∃ event, matched ruleSpec [event] = [event]

theorem matched_nil_of_not_matchable {ruleSpec : Json.Object} (unmatchable : ¬ Matchable ruleSpec)
    (events : List BacktestEvent) : matched ruleSpec events = [] := by
  refine List.filter_eq_nil_iff.mpr fun event _ met => unmatchable ⟨event, ?_⟩
  exact List.filter_eq_self.mpr (by simpa using met)

namespace CorrelationRule

def fires (rule : CorrelationRule) (group : List BacktestEvent) : Bool := rule.frequency ≤ group.length

/-- No two events are in one group, and one event is enough. -/
def CountsEach (rule : CorrelationRule) : Prop := rule.timeframe < 0 ∧ rule.frequency ≤ 1

variable {rule : CorrelationRule}

theorem stretches_eq (rule : CorrelationRule) (matched : List BacktestEvent) :
    rule.stretches matched = (Gaps.grouped rule.key happened rule.timeframe matched).countP rule.fires := rfl

theorem stretches_of_negative (backward : rule.timeframe < 0) (matched : List BacktestEvent) :
    rule.stretches matched = if rule.frequency ≤ 1 then matched.length else 0 := by
  have single (group : List BacktestEvent) (found : group ∈ Gaps.grouped rule.key happened rule.timeframe matched) :
      rule.fires group = decide (rule.frequency ≤ 1) := by
    rw [fires, Gaps.length_group_of_negative backward (Gaps.group_of_mem found)]
    rfl
  rw [stretches_eq, List.countP_congr fun group found => by rw [single group found]]
  split_ifs with low
  · simpa [low] using Gaps.length_grouped_of_negative backward rule.key matched
  · simp [low]

theorem countsEach_of_stretches {event : BacktestEvent} (two : 2 ≤ rule.stretches (List.replicate 2 event)) :
    rule.CountsEach := by
  by_cases forward : 0 ≤ rule.timeframe
  · have one := Gaps.length_grouped_replicate_le forward rule.key happened 2 event
    have fewer : rule.stretches (List.replicate 2 event) ≤ _ := List.countP_le_length
    omega
  · rw [stretches_of_negative (not_le.mp forward)] at two
    split_ifs at two with low
    · exact ⟨not_le.mp forward, low⟩
    · omega

end CorrelationRule

section
variable {ruleSpec : Json.Object} {rule : CorrelationRule}

/-- The event, when it is observed at ten. -/
def atTen (event : BacktestEvent) : BacktestEvent := { event with observedAt := "2026-08-11T10:00:00Z" }

theorem matched_atTen {event : BacktestEvent} (met : matched ruleSpec [event] = [event]) :
    matched ruleSpec (List.replicate 2 (atTen event)) = List.replicate 2 (atTen event) := by
  refine List.filter_eq_self.mpr fun copy inside => ?_
  rw [List.eq_of_mem_replicate inside]
  exact List.filter_eq_self.mp met event List.mem_cons_self

theorem grouped_atTen (keyFn : BacktestEvent → CorrelationKey) (window : Int) (event : BacktestEvent) :
    groupByKeyAndWindow keyFn window (List.replicate 2 (atTen event)) =
      .ok (Gaps.grouped keyFn happened window (List.replicate 2 (atTen event))) := by
  refine groupByKeyAndWindow_ok_iff.mpr ⟨fun value _ => ?_, rfl⟩
  have stamps : ∀ stamp ∈ (Buckets.ofKey keyFn (List.replicate 2 (atTen event)) value).map BacktestEvent.observedAt,
      stamp = "2026-08-11T10:00:00Z" := by
    intro stamp inside
    obtain ⟨copy, member, rfl⟩ := List.mem_map.mp inside
    rw [List.eq_of_mem_replicate (Buckets.mem_ofKey.mp member).1, atTen]
  exact ⟨fun stamp inside => stamps stamp inside ▸ by decide, .inl fun stamp inside => stamps stamp inside ▸ by decide⟩

/-- Two events at once are two alerts of their hour, and of the whole only if each counts. -/
theorem countsEach_of_consistent (declares : Declares ruleSpec rule) (matchable : Matchable ruleSpec)
    (consistent : ∀ events windowDays result, runBacktest ruleSpec events windowDays = .ok result → FiguresConsistent result) :
    rule.CountsEach := by
  obtain ⟨event, isMatched⟩ := matchable
  have both := matched_atTen isMatched
  have alerts : estimatedAlerts ruleSpec (matched ruleSpec (List.replicate 2 (atTen event))) =
      .ok (rule.stretches (List.replicate 2 (atTen event))) := by
    rw [both, estimatedAlerts_of_declares declares, CorrelationRule.alertGroups, grouped_atTen]
    exact congrArg Except.ok List.countP_eq_length_filter.symm
  have busiest : maxAlertsPerHour (matched ruleSpec (List.replicate 2 (atTen event))) = .ok 2 := by
    rw [both]
    -- only the timestamps are read
    have same : maxAlertsPerHour (List.replicate 2 (atTen event)) =
        maxAlertsPerHour (List.replicate 2 (failedLogin "2026-08-11T10:00:00Z")) := rfl
    rw [same]
    decide
  have ran : ∃ result, runBacktest ruleSpec (List.replicate 2 (atTen event)) 1 = .ok result :=
    ⟨_, by rw [runBacktest, alerts, busiest]; rfl⟩
  obtain ⟨result, ran⟩ := ran
  have figures := runBacktest_figures ran
  have hour := (consistent _ _ _ ran).hour
  rw [← Except.ok.inj (busiest.symm.trans figures.volume), ← Except.ok.inj (alerts.symm.trans figures.alerts)] at hour
  exact CorrelationRule.countsEach_of_stretches hour

/-- The figures of a rule are consistent on every history when it declares no correlation, and else
only in degenerate cases. With a correlation they are not as soon as an hour has more than its share
of the matches, one in as many as the rule asks for. -/
theorem figures_always_consistent_iff (ruleSpec : Json.Object) :
    (∀ events windowDays result, runBacktest ruleSpec events windowDays = .ok result →
      result.estimatedAlerts ≤ result.eventsMatched) ∧
    ((∀ events windowDays result, runBacktest ruleSpec events windowDays = .ok result → FiguresConsistent result) ↔
      ∀ rule, Declares ruleSpec rule → Matchable ruleSpec → rule.CountsEach) ∧
    ∀ events windowDays result, runBacktest ruleSpec events windowDays = .ok result →
      ∀ rule, Declares ruleSpec rule → ∀ hour,
        (matched ruleSpec events).length < rule.frequency * (matched ruleSpec events).countP (writtenIn hour) →
          ¬ FiguresConsistent result := by
  refine ⟨fun _ _ _ ran => estimatedAlerts_le ran, ⟨?_, ?_⟩, ?_⟩
  · exact fun consistent rule declares matchable => countsEach_of_consistent declares matchable consistent
  · intro degenerate events windowDays result ran
    by_cases matchable : Matchable ruleSpec
    · refine (figures_consistent_iff ran).mpr fun rule declares hour => ?_
      obtain ⟨backward, low⟩ := degenerate rule declares matchable
      rw [CorrelationRule.stretches_of_negative backward, if_pos low]
      exact List.countP_le_length
    · exact consistent_of_matched_nil ran (matched_nil_of_not_matchable matchable events)
  · exact fun _ _ _ ran rule declares hour crowded => inconsistent_of_crowded ran declares hour crowded

end

/-- Two of the three events that make an alert, in one hour. -/
private def twoLogins : List BacktestEvent := [failedLogin "2026-08-11T10:00:00Z", failedLogin "2026-08-11T10:00:10Z"]

/-- The busiest hour has two alerts, and the whole history none. -/
theorem busiest_hour_exceeds_history :
    ∃ result, runBacktest threeInTwoMinutes twoLogins 7 = .ok result ∧ result.estimatedAlerts = 0 ∧
      result.maxAlertsPerHour = 2 ∧ ¬ FiguresConsistent result := by
  have ran : ∃ result, runBacktest threeInTwoMinutes twoLogins 7 = .ok result := ⟨_, rfl⟩
  obtain ⟨result, ran⟩ := ran
  have none : estimatedAlerts threeInTwoMinutes (matched threeInTwoMinutes twoLogins) = .ok 0 := by decide
  have both : maxAlertsPerHour (matched threeInTwoMinutes twoLogins) = .ok 2 := by decide
  have alerts := Except.ok.inj ((runBacktest_figures ran).alerts.symm.trans none)
  have busiest := Except.ok.inj ((runBacktest_figures ran).volume.symm.trans both)
  refine ⟨result, ran, alerts, busiest, ?_⟩
  intro consistent
  have more := consistent.hour
  omega

end ArgosCore.Proofs
