import ArgosCore.Normalizer

/-! The DMZ detector: flows that the baseline does not explain become raw events for the
normalizer. A flow that was already blocked is a signal all the same. -/

namespace ArgosCore

/-- `_VALID_SOURCE_MODES` -/
def validSourceModes : List String := ["REAL_CONNECTOR", "EMULATED"]

structure FlowRecord where
  nativeRef : String
  source : String
  destination : String
  destinationIsExternal : Bool
  port : Int
  protocol : String
  bytesTransferred : Int
  verdict : String
  sourceMode : String
  deriving DecidableEq, Repr

structure Baseline where
  authorizedDestinations : Finset String
  maxBytesPerDestination : Dict Int := []
  defaultMaxBytes : Int := 1000000

structure DetectedAnomaly where
  event : RawEvent
  sourceMode : String
  deriving DecidableEq

def Baseline.threshold (baseline : Baseline) (destination : String) : Int :=
  (baseline.maxBytesPerDestination.lookup destination).getD baseline.defaultMaxBytes

/-- `_anomaly_reasons` -/
def anomalyReasons (flow : FlowRecord) (baseline : Baseline) : List String :=
  (if flow.destination ∈ baseline.authorizedDestinations then []
    else ["destino no autorizado en baseline: " ++ flow.destination]) ++
  if baseline.threshold flow.destination < flow.bytesTransferred then
    [s!"volumen {flow.bytesTransferred}B excede baseline {baseline.threshold flow.destination}B (posible exfiltración)"]
  else []

def FlowRecord.anomaly (flow : FlowRecord) : DetectedAnomaly where
  event := {
    source := "dmz-detector"
    nativeRef := flow.nativeRef
    severityNative := .str (if flow.destinationIsExternal then "critical" else "high")
    assetId := some flow.source }
  sourceMode := flow.sourceMode

variable [Runtime]

def invalidSourceMode (flow : FlowRecord) : String :=
  "source_mode=" ++ Runtime.reprStr flow.sourceMode ++ " inválido para flow " ++ Runtime.reprStr flow.nativeRef ++
    ", debe ser uno de " ++ reprList (validSourceModes.insertionSort (· ≤ ·))

/-- `detect_anomalies`; the first flow of an unknown mode ends the loop with an error. -/
def detectAnomalies (baseline : Baseline) : List FlowRecord → Except String (List DetectedAnomaly)
  | [] => .ok []
  | flow :: flows =>
    if flow.sourceMode ∉ validSourceModes then .error (invalidSourceMode flow)
    else if anomalyReasons flow baseline = [] then detectAnomalies baseline flows
    else (detectAnomalies baseline flows).map (flow.anomaly :: ·)

end ArgosCore
