import ArgosCore.Foundations.ByKey
import ArgosCore.Foundations.IsoParse
import ArgosCore.Foundations.Json
import ArgosCore.Foundations.Tally
import Mathlib.Data.Rat.Defs

/-! What a rule would have done over a history of events: which of them it matches, how
many alerts it would have raised, and how many of the matches fall into the busiest hour. -/

namespace ArgosCore
open IsoTime

/-- An event of the history. A member that is missing and one that is null read alike, apart
from the asset, which is `none` when it is missing and `some none` when it is null. -/
structure BacktestEvent where
  wazuhRuleId : Option String
  observedAt : String
  assetId : Option (Option String) := none
  sourceIp : Option String := none
  user : Option String := none
  deriving DecidableEq, Repr

structure BacktestResult where
  eventsMatched : Nat
  estimatedAlerts : Nat
  uniqueAssets : Nat
  uniqueUsers : Nat
  alertsPerDay : Rat
  maxAlertsPerHour : Nat
  deriving DecidableEq

inductive BacktestError where
  | invalidTimestamp (text : String)
  | naiveAndAware
  | wrongType
  | overflow
  deriving DecidableEq, Repr

namespace Backtest

/-- `_parse` -/
def parse (observedAt : String) : Except BacktestError DateTime :=
  match fromisoformat observedAt with
  | none => .error (.invalidTimestamp observedAt)
  | some time => .ok time

/-- `_correlation_key`: the asset, and the fields that the rule wants to be the same. -/
structure CorrelationKey where
  assetId : Option String
  sourceIp : Option (Option String)
  user : Option (Option String)
  deriving DecidableEq, Repr

def correlationKey (sameSourceIp sameUser : Bool) (event : BacktestEvent) : CorrelationKey where
  assetId := event.assetId.getD (some "unknown")
  sourceIp := if sameSourceIp then some event.sourceIp else none
  user := if sameUser then some event.user else none

section
variable {κ : Type} [DecidableEq κ]

/-- `by_key.setdefault(key, []).append(event)` -/
def addTo (key : κ) (event : BacktestEvent) : List (κ × List BacktestEvent) → List (κ × List BacktestEvent)
  | [] => [(key, [event])]
  | group :: groups =>
    if group.1 = key then (key, group.2 ++ [event]) :: groups else group :: addTo key event groups

/-- The events in the order of their times, which are all aware or all naive. -/
def orderByTime (members : List BacktestEvent) : Except BacktestError (List (Int × BacktestEvent)) := do
  let times ← members.mapM fun event => parse event.observedAt
  if times.all (·.offset.isSome) || times.all (·.offset.isNone) then
    return ByKey.sortedOn Prod.fst ((times.map fun time => time.wall - time.offset.getD 0).zip members)
  else throw .naiveAndAware

/-- The loop over the events of one key: a gap wider than the window closes the group. -/
def splitWindow (window : Int) : List (Int × BacktestEvent) → List BacktestEvent → Option Int → List (List BacktestEvent)
  | [], current, _ => if current = [] then [] else [current]
  | (time, event) :: later, current, last =>
    if last.any fun last => time - last > window then current :: splitWindow window later [event] (some time)
    else splitWindow window later (current ++ [event]) (some time)

/-- `_group_by_key_and_window` -/
def groupByKeyAndWindow (keyFn : BacktestEvent → κ) (window : Int) (events : List BacktestEvent) :
    Except BacktestError (List (List BacktestEvent)) := do
  let byKey := events.foldl (fun groups event => addTo (keyFn event) event groups) []
  let groups ← byKey.mapM fun members => do return splitWindow window (← orderByTime members.2) [] none
  return groups.flatten

end

/-- `timedelta(seconds=value)` in microseconds; a timedelta has fewer than a billion days. -/
def timedelta (value : Json) : Except BacktestError Int :=
  match value.number? with
  | none => .error .wrongType
  | some seconds => if (seconds / 86400).natAbs ≤ 999999999 then .ok (seconds * 1000000) else .error .overflow

/-- `rule_spec.get("correlation") or {}` -/
def correlationOf (ruleSpec : Json.Object) : Except BacktestError Json.Object :=
  let correlation := Json.get ruleSpec "correlation"
  if correlation.truthy then
    match correlation with
    | .obj members => .ok members
    | _ => .error .wrongType
  else .ok []

def matched (ruleSpec : Json.Object) (events : List BacktestEvent) : List BacktestEvent :=
  events.filter fun event =>
    Json.equals (event.wazuhRuleId.elim .null .str) (Json.get ruleSpec "parent_rule_sid")

def firingGroups (frequency : Json) (groups : List (List BacktestEvent)) :
    Except BacktestError (List (List BacktestEvent)) :=
  match frequency.number? with
  | some least => .ok (groups.filter fun group => least ≤ group.length)
  | none => if groups = [] then .ok [] else .error .wrongType

def estimatedAlerts (ruleSpec : Json.Object) (matched : List BacktestEvent) : Except BacktestError Nat := do
  let correlation ← correlationOf ruleSpec
  let frequency := Json.get correlation "frequency"
  let timeframeSeconds := Json.get correlation "timeframe_seconds"
  if frequency.truthy && timeframeSeconds.truthy then
    let window ← timedelta timeframeSeconds
    let keyFn := correlationKey (Json.get correlation "same_source_ip").truthy (Json.get correlation "same_user").truthy
    let groups ← groupByKeyAndWindow keyFn window matched
    let firing ← firingGroups frequency groups
    return firing.length
  else return matched.length

/-- `strftime("%Y-%m-%dT%H")`, of the clock that the timestamp was written by. -/
def hourBucket (time : DateTime) : String :=
  let date := civil (time.wall / 86400000000)
  let hour := (time.wall % 86400000000).toNat / 3600000000
  String.ofList (padded 4 date.year.toNat ++ '-' :: padded 2 date.month ++ '-' :: padded 2 date.day ++ 'T' :: padded 2 hour)

def maxAlertsPerHour (matched : List BacktestEvent) : Except BacktestError Nat := do
  let times ← matched.mapM fun event => parse event.observedAt
  return Tally.busiest (Tally.tally (times.map hourBucket))

def countUnique (field : BacktestEvent → Option String) (events : List BacktestEvent) : Nat :=
  (events.filterMap fun event => (field event).filter (· ≠ "")).eraseDups.length

end Backtest

open Backtest in
/-- `run_backtest`. The average is the exact quotient, which the code rounds to a float. -/
def runBacktest (ruleSpec : Json.Object) (events : List BacktestEvent) (windowDays : Int) :
    Except BacktestError BacktestResult := do
  let matched := matched ruleSpec events
  let estimatedAlerts ← estimatedAlerts ruleSpec matched
  let maxAlertsPerHour ← maxAlertsPerHour matched
  return {
    eventsMatched := matched.length
    estimatedAlerts
    uniqueAssets := countUnique (fun event => event.assetId.join) matched
    uniqueUsers := countUnique BacktestEvent.user matched
    alertsPerDay := if windowDays = 0 then 0 else estimatedAlerts / windowDays
    maxAlertsPerHour }

end ArgosCore
