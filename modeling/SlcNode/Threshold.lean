import SlcNode.Timers

namespace SlcNode.State

open LittleEndian

def updateFloatThreshold (t : Threshold) (file : String) (value : Binary32) (s : State) : State :=
  if !value.eq (s.threshold t) then
    { s with
      threshold := Function.update s.threshold t value
      files := DataStore.writeFile s.files file (bytes 4 value.toNat) }
  else s

/-- The body that the two lux updates share: the test is made in 64 bits, the assignment in 32. -/
def updateLuxThreshold (t : Threshold) (file : String) (value : ℤ) (s : State) : State :=
  if value ≠ (s.threshold t).toNat then
    { s with
      threshold := Function.update s.threshold t (BitVec.ofInt 32 value)
      files := DataStore.writeFile s.files file (bytes 4 (BitVec.ofInt 32 value).toNat) }
  else s

def updateThresholdVolatgeHigh : Binary32 → State → State :=
  updateFloatThreshold .voltageHigh DataStore.voltageThresholdH

def updateThresholdVolatgeLow : Binary32 → State → State :=
  updateFloatThreshold .voltageLow DataStore.voltageThresholdL

def updateThresholdCurrentHigh : Binary32 → State → State :=
  updateFloatThreshold .currentHigh DataStore.currentThresholdH

def updateThresholdCurrentLow : Binary32 → State → State :=
  updateFloatThreshold .currentLow DataStore.currentThresholdL

def updateThresholdFreqHigh : Binary32 → State → State :=
  updateFloatThreshold .freqHigh DataStore.freqThresholdH

def updateThresholdFreqLow : Binary32 → State → State :=
  updateFloatThreshold .freqLow DataStore.freqThresholdL

-- The source writes the two power factor limits crosswise, each to the file of the other.
def updateThresholdPfHigh : Binary32 → State → State :=
  updateFloatThreshold .pfHigh DataStore.pfThresholdL

def updateThresholdPfLow : Binary32 → State → State :=
  updateFloatThreshold .pfLow DataStore.pfThresholdH

def updateThresholdWattHigh : Binary32 → State → State :=
  updateFloatThreshold .wattHigh DataStore.wattThresholdH

def updateThresholdWattLow : Binary32 → State → State :=
  updateFloatThreshold .wattLow DataStore.wattThresholdL

def updateThresholdLuxHigh : ℤ → State → State :=
  updateLuxThreshold .luxHigh DataStore.luxThresholdH

def updateThresholdLuxLow : ℤ → State → State :=
  updateLuxThreshold .luxLow DataStore.luxThresholdL

/-- `DEFAULT_THRESHOLD_INVALID` as a float and as an integer. -/
def defaultThresholdInvalid : Binary32 := 0x461C3C00
def defaultLuxInvalid : BitVec 32 := 9999

def restoreOne (t : Threshold) (file : String) (default : BitVec 32) (s : State) : State :=
  let r := DataStore.readFile s.files file 4
  { s with
    threshold :=
      Function.update s.threshold t (if r.ret ≤ 0 then default else BitVec.ofNat 32 (value r.buff)) }

def restoreThreshold (s : State) : State :=
  s |> restoreOne .voltageHigh DataStore.voltageThresholdH defaultThresholdInvalid
    |> restoreOne .voltageLow DataStore.voltageThresholdL defaultThresholdInvalid
    |> restoreOne .currentHigh DataStore.currentThresholdH defaultThresholdInvalid
    |> restoreOne .currentLow DataStore.currentThresholdL defaultThresholdInvalid
    |> restoreOne .freqHigh DataStore.freqThresholdH defaultThresholdInvalid
    |> restoreOne .freqLow DataStore.freqThresholdL defaultThresholdInvalid
    |> restoreOne .pfHigh DataStore.pfThresholdH defaultThresholdInvalid
    |> restoreOne .pfLow DataStore.pfThresholdL defaultThresholdInvalid
    |> restoreOne .wattHigh DataStore.wattThresholdH defaultThresholdInvalid
    |> restoreOne .wattLow DataStore.wattThresholdL defaultThresholdInvalid
    |> restoreOne .luxHigh DataStore.luxThresholdH defaultLuxInvalid
    |> restoreOne .luxLow DataStore.luxThresholdL defaultLuxInvalid

def thresholdValid (th : Binary32) : Bool := !th.eq defaultThresholdInvalid

def checkOutOfSpec (value thH thL : Binary32) : Bool :=
  if thresholdValid thH && thresholdValid thL then thH.lt value || value.lt thL
  else if thresholdValid thH then thH.lt value
  else if thresholdValid thL then value.lt thL
  else false

def checkThresholds (i : Inputs) (s : State) : State :=
  { s with
    status :=
      { errorVoltage := checkOutOfSpec i.voltage (s.threshold .voltageHigh) (s.threshold .voltageLow)
        errorCurrent := checkOutOfSpec i.current (s.threshold .currentHigh) (s.threshold .currentLow)
        errorFreq := checkOutOfSpec i.freq (s.threshold .freqHigh) (s.threshold .freqLow)
        errorPf := checkOutOfSpec i.pf (s.threshold .pfHigh) (s.threshold .pfLow)
        errorWatt := checkOutOfSpec i.watt (s.threshold .wattHigh) (s.threshold .wattLow) } }

end SlcNode.State
