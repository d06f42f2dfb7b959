import ArgosCore.Proofs.BacktestGroups

/-! What an estimated alert stands for. A group is chained by the gaps between one event
and the next, so it can be longer than the time frame of the rule, and meet the
frequency only over its whole length. -/

namespace ArgosCore.Proofs
open IsoTime Backtest

/-- The correlation that a rule declares: so many events of one key within a time frame,
which is in microseconds. -/
structure CorrelationRule where
  frequency : Int
  timeframe : Int
  sameSourceIp : Bool
  sameUser : Bool

namespace CorrelationRule

def key (rule : CorrelationRule) : BacktestEvent → CorrelationKey := correlationKey rule.sameSourceIp rule.sameUser

def alertGroups (rule : CorrelationRule) (matched : List BacktestEvent) : Except BacktestError (List (List BacktestEvent)) :=
  (groupByKeyAndWindow rule.key rule.timeframe matched).map (·.filter fun group => rule.frequency ≤ group.length)

def Meets (rule : CorrelationRule) (group : List BacktestEvent) : Prop :=
  ∃ burst : List BacktestEvent, burst.Subperm group ∧ rule.frequency ≤ burst.length ∧
    (∀ one ∈ burst, ∀ other ∈ burst, rule.key one = rule.key other) ∧
    ∃ start, ∀ event ∈ burst, start ≤ happened event ∧ happened event ≤ start + rule.timeframe

def timeline (rule : CorrelationRule) (matched : List BacktestEvent) (key : CorrelationKey) : List BacktestEvent :=
  ByKey.sortedOn happened (Buckets.ofKey rule.key matched key)

/-- Events that follow one another within the time frame, as many as the frequency, or more,
but any so many of them in a row take longer than the time frame. -/
structure Sparse (rule : CorrelationRule) (events : List BacktestEvent) : Prop where
  enough : rule.frequency ≤ events.length
  spread : ∀ row, row <:+: events → row.length = rule.frequency.toNat →
    ∃ first ∈ row, ∃ last ∈ row, rule.timeframe < happened last - happened first

end CorrelationRule

structure Declares (ruleSpec : Json.Object) (rule : CorrelationRule) : Prop where
  declared : ∃ correlation, correlationOf ruleSpec = .ok correlation ∧
    (Json.get correlation "frequency").truthy = true ∧ (Json.get correlation "timeframe_seconds").truthy = true ∧
    (Json.get correlation "frequency").number? = some rule.frequency ∧
    timedelta (Json.get correlation "timeframe_seconds") = .ok rule.timeframe ∧
    (Json.get correlation "same_source_ip").truthy = rule.sameSourceIp ∧
    (Json.get correlation "same_user").truthy = rule.sameUser

theorem estimatedAlerts_of_declares {ruleSpec : Json.Object} {rule : CorrelationRule} (declares : Declares ruleSpec rule)
    (matched : List BacktestEvent) : estimatedAlerts ruleSpec matched = (rule.alertGroups matched).map List.length := by
  obtain ⟨correlation, read, often, timed, frequency, timeframe, sourceIp, user⟩ := declares.declared
  rw [estimatedAlerts, read]
  change (if (_ && _) = true then _ else _) = _
  rw [often, timed, Bool.and_self, if_pos rfl, timeframe, sourceIp, user, CorrelationRule.alertGroups, CorrelationRule.key]
  change (groupByKeyAndWindow _ _ _ >>= _) = _
  cases groupByKeyAndWindow (correlationKey rule.sameSourceIp rule.sameUser) rule.timeframe matched with
  | error error => rfl
  | ok groups =>
    change (firingGroups _ groups >>= _) = _
    rw [firingGroups, frequency]
    rfl

/-- The ways in which alerts are estimated. A frequency that is no number is only left unread
when nothing matches. -/
inductive Estimated (ruleSpec : Json.Object) (matched : List BacktestEvent) : Nat → Prop where
  | declared {rule : CorrelationRule} {groups : List (List BacktestEvent)} (declares : Declares ruleSpec rule)
      (done : rule.alertGroups matched = .ok groups) : Estimated ruleSpec matched groups.length
  | undeclared {correlation : Json.Object} (read : correlationOf ruleSpec = .ok correlation)
      (absent : ¬ ((Json.get correlation "frequency").truthy && (Json.get correlation "timeframe_seconds").truthy) = true) :
      Estimated ruleSpec matched matched.length
  | unread {correlation : Json.Object} {window : Int} (read : correlationOf ruleSpec = .ok correlation)
      (both : ((Json.get correlation "frequency").truthy && (Json.get correlation "timeframe_seconds").truthy) = true)
      (frequency : (Json.get correlation "frequency").number? = none)
      (timeframe : timedelta (Json.get correlation "timeframe_seconds") = .ok window) (nothing : matched = []) :
      Estimated ruleSpec matched 0

theorem matched_nil_of_grouped {keyFn : BacktestEvent → CorrelationKey} {window : Int} {matched : List BacktestEvent}
    (grouped : groupByKeyAndWindow keyFn window matched = .ok []) : matched = [] := by
  have whole := Gaps.flatten_grouped_perm keyFn happened window matched
  rw [(groupByKeyAndWindow_ok_iff.mp grouped).2] at whole
  exact whole.symm.eq_nil

theorem estimatedAlerts_ok_iff {ruleSpec : Json.Object} {matched : List BacktestEvent} {alerts : Nat} :
    estimatedAlerts ruleSpec matched = .ok alerts ↔ Estimated ruleSpec matched alerts := by
  constructor
  · intro estimated
    rw [estimatedAlerts, Fallible.bind_ok_iff] at estimated
    obtain ⟨correlation, read, estimated⟩ := estimated
    by_cases both : ((Json.get correlation "frequency").truthy && (Json.get correlation "timeframe_seconds").truthy) = true
    · rw [if_pos both] at estimated
      simp only [Fallible.bind_ok_iff] at estimated
      obtain ⟨window, timeframe, groups, grouped, firing, fires, returned⟩ := estimated
      obtain ⟨often, timed⟩ := Bool.and_eq_true_iff.mp both
      cases Except.ok.inj returned
      cases frequency : (Json.get correlation "frequency").number? with
      | some least =>
        rw [firingGroups, frequency] at fires
        cases Except.ok.inj fires
        let rule : CorrelationRule := ⟨least, window, (Json.get correlation "same_source_ip").truthy,
          (Json.get correlation "same_user").truthy⟩
        have declares : Declares ruleSpec rule := ⟨correlation, read, often, timed, frequency, timeframe, rfl, rfl⟩
        have done : rule.alertGroups matched = .ok _ := congrArg (Except.map _) grouped
        exact .declared declares done
      | none =>
        rw [firingGroups, frequency] at fires
        split_ifs at fires with empty
        subst empty
        cases fires
        exact .unread read both frequency timeframe (matched_nil_of_grouped grouped)
    · rw [if_neg both] at estimated
      cases Except.ok.inj estimated
      exact .undeclared read both
  · intro estimated
    cases estimated with
    | declared declares done => rw [estimatedAlerts_of_declares declares, done, Except.map]
    | undeclared read absent =>
      rw [estimatedAlerts, Fallible.bind_ok_iff]
      exact ⟨_, read, if_neg absent⟩
    | unread read both frequency timeframe nothing =>
      subst nothing
      rw [estimatedAlerts, Fallible.bind_ok_iff]
      refine ⟨_, read, ?_⟩
      rw [if_pos both, timeframe]
      change (firingGroups _ [] >>= _) = _
      rw [firingGroups, frequency]
      rfl

section
variable {rule : CorrelationRule} {matched group : List BacktestEvent} {counted : List (List BacktestEvent)}

theorem alertGroups_eq (done : rule.alertGroups matched = .ok counted) :
    counted = (Gaps.grouped rule.key happened rule.timeframe matched).filter fun group => rule.frequency ≤ group.length := by
  rw [CorrelationRule.alertGroups] at done
  cases grouped : groupByKeyAndWindow rule.key rule.timeframe matched with
  | error error =>
    rw [grouped] at done
    cases done
  | ok groups =>
    rw [grouped] at done
    rw [(groupByKeyAndWindow_ok_iff.mp grouped).2]
    exact (Except.ok.inj done).symm

theorem mem_alertGroups (done : rule.alertGroups matched = .ok counted) :
    group ∈ counted ↔
      (∃ key, Gaps.Stretch happened rule.timeframe (rule.timeline matched key) group) ∧ rule.frequency ≤ group.length := by
  have ordered (key : CorrelationKey) : Gaps.Ordered happened (rule.timeline matched key) := ByKey.pairwise_sortedOn ..
  rw [alertGroups_eq done, List.mem_filter, Gaps.mem_grouped, decide_eq_true_eq]
  simp only [← Gaps.mem_runs_iff (ordered _)]
  rfl

/-- The events of a group are of one key, so only their times matter. -/
theorem meets_iff (formed : Gaps.Group rule.key happened rule.timeframe group) :
    rule.Meets group ↔
      ∃ row, Gaps.Burst happened rule.timeframe group row ∧ row.length = rule.frequency.toNat := by
  rw [Gaps.exists_burst_iff formed.ordered]
  constructor
  · intro ⟨burst, among, enough, _, within⟩
    exact ⟨burst, among, by omega, within⟩
  · intro ⟨burst, among, enough, within⟩
    have oneKey (one : BacktestEvent) (first : one ∈ burst) (other : BacktestEvent) (second : other ∈ burst) :
        rule.key one = rule.key other :=
      formed.oneKey one (among.subset first) other (among.subset second)
    exact ⟨burst, among, by omega, oneKey, within⟩

theorem meets_iff_not_sparse (formed : Gaps.Group rule.key happened rule.timeframe group)
    (enough : rule.frequency ≤ group.length) : rule.Meets group ↔ ¬ rule.Sparse group := by
  rw [meets_iff formed]
  constructor
  · intro ⟨row, ⟨part, near⟩, length⟩ sparse
    obtain ⟨first, firstInside, last, lastInside, far⟩ := sparse.spread row part length
    have close := near first firstInside last lastInside
    omega
  · intro dense
    by_contra none
    refine dense ⟨enough, fun row part length => ?_⟩
    by_contra near
    push Not at near
    exact none ⟨row, ⟨part, near⟩, length⟩

end

/-- Every alert meets the frequency within the time frame exactly when no stretch of a
timeline is a sparse one. -/
theorem alerts_meet_frequency_iff {ruleSpec : Json.Object} {rule : CorrelationRule} {events : List BacktestEvent}
    {windowDays : Int} {result : BacktestResult} (declares : Declares ruleSpec rule)
    (ran : runBacktest ruleSpec events windowDays = .ok result) :
    ∃ counted, rule.alertGroups (matched ruleSpec events) = .ok counted ∧ result.estimatedAlerts = counted.length ∧
      ((∀ group ∈ counted, rule.Meets group) ↔
        ∀ key stretch, Gaps.Stretch happened rule.timeframe (rule.timeline (matched ruleSpec events) key) stretch →
          ¬ rule.Sparse stretch) := by
  have alerts := (runBacktest_figures ran).alerts
  rw [estimatedAlerts_of_declares declares] at alerts
  cases done : rule.alertGroups (matched ruleSpec events) with
  | error error =>
    rw [done] at alerts
    cases alerts
  | ok counted =>
    rw [done] at alerts
    refine ⟨counted, rfl, (Except.ok.inj alerts).symm, ?_⟩
    have formed (group : List BacktestEvent) (found : group ∈ counted) : Gaps.Group rule.key happened rule.timeframe group := by
      rw [alertGroups_eq done] at found
      exact Gaps.group_of_mem (List.mem_filter.mp found).1
    constructor
    · intro meets key stretch found sparse
      have inside := (mem_alertGroups done).mpr ⟨⟨key, found⟩, sparse.enough⟩
      exact (meets_iff_not_sparse (formed stretch inside) sparse.enough).mp (meets stretch inside) sparse
    · intro dense group inside
      obtain ⟨⟨key, found⟩, enough⟩ := (mem_alertGroups done).mp inside
      exact (meets_iff_not_sparse (formed group inside) enough).mpr (dense key group found)

def failedLogin (observedAt : String) : BacktestEvent where
  wazuhRuleId := some "5710"
  observedAt := observedAt
  assetId := some (some "a1")

/-- Three failed logins, each 100 seconds after the one before. -/
private def slowLogins : List BacktestEvent :=
  [failedLogin "2026-08-11T10:00:00Z", failedLogin "2026-08-11T10:01:40Z", failedLogin "2026-08-11T10:03:20Z"]

def threeInTwoMinutes : Json.Object :=
  [("parent_rule_sid", .str "5710"),
    ("correlation", .obj [("frequency", .int 3), ("timeframe_seconds", .int 120)])]

theorem threeInTwoMinutes_declares : Declares threeInTwoMinutes ⟨3, 120000000, false, false⟩ :=
  ⟨[("frequency", .int 3), ("timeframe_seconds", .int 120)], by decide⟩

theorem alerts_meet_frequency_iff_slow_logins :
    let rule : CorrelationRule := ⟨3, 120000000, false, false⟩
    ∃ result, Declares threeInTwoMinutes rule ∧ runBacktest threeInTwoMinutes slowLogins 7 = .ok result ∧
      ∃ counted, rule.alertGroups (matched threeInTwoMinutes slowLogins) = .ok counted ∧
        result.estimatedAlerts = counted.length ∧
        ((∀ group ∈ counted, rule.Meets group) ↔
          ∀ key stretch,
            Gaps.Stretch happened rule.timeframe (rule.timeline (matched threeInTwoMinutes slowLogins) key) stretch →
              ¬ rule.Sparse stretch) := by
  have ran : ∃ result, runBacktest threeInTwoMinutes slowLogins 7 = .ok result := ⟨_, rfl⟩
  obtain ⟨result, ran⟩ := ran
  exact ⟨result, threeInTwoMinutes_declares, ran, alerts_meet_frequency_iff threeInTwoMinutes_declares ran⟩

/-- The three are one group and one alert, and the first is 200 seconds before the last. -/
theorem slow_logins_alert :
    let rule : CorrelationRule := ⟨3, 120000000, false, false⟩
    ∃ result, Declares threeInTwoMinutes rule ∧ runBacktest threeInTwoMinutes slowLogins 7 = .ok result ∧
      result.estimatedAlerts = 1 ∧ rule.alertGroups (matched threeInTwoMinutes slowLogins) = .ok [slowLogins] ∧
      ¬ rule.Meets slowLogins := by
  intro rule
  have ran : ∃ result, runBacktest threeInTwoMinutes slowLogins 7 = .ok result := ⟨_, rfl⟩
  obtain ⟨result, ran⟩ := ran
  have grouped : rule.alertGroups (matched threeInTwoMinutes slowLogins) = .ok [slowLogins] := by decide
  have alerts := (runBacktest_figures ran).alerts
  rw [estimatedAlerts_of_declares threeInTwoMinutes_declares, grouped] at alerts
  refine ⟨result, threeInTwoMinutes_declares, ran, (Except.ok.inj alerts).symm, grouped, ?_⟩
  intro ⟨burst, among, enough, _, start, within⟩
  -- a burst of three is all of them
  have three : slowLogins.length ≤ burst.length := Int.ofNat_le.mp enough
  have all := among.perm_of_length_le three
  have first := within (failedLogin "2026-08-11T10:00:00Z") (all.mem_iff.mpr (by simp [slowLogins]))
  have last := within (failedLogin "2026-08-11T10:03:20Z") (all.mem_iff.mpr (by simp [slowLogins]))
  have apart : happened (failedLogin "2026-08-11T10:03:20Z") =
      happened (failedLogin "2026-08-11T10:00:00Z") + 200000000 := by decide
  change _ ∧ _ ≤ start + 120000000 at last
  omega

end ArgosCore.Proofs
