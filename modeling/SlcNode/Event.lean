import SlcNode.Thread

namespace SlcNode

inductive ThresholdPut
  | volatgeHigh (value : Binary32)
  | volatgeLow (value : Binary32)
  | currentHigh (value : Binary32)
  | currentLow (value : Binary32)
  | freqHigh (value : Binary32)
  | freqLow (value : Binary32)
  | pfHigh (value : Binary32)
  | pfLow (value : Binary32)
  | wattHigh (value : Binary32)
  | wattLow (value : Binary32)
  | luxHigh (value : ℤ)
  | luxLow (value : ℤ)

def ThresholdPut.apply : ThresholdPut → State → State
  | .volatgeHigh v => State.updateThresholdVolatgeHigh v
  | .volatgeLow v => State.updateThresholdVolatgeLow v
  | .currentHigh v => State.updateThresholdCurrentHigh v
  | .currentLow v => State.updateThresholdCurrentLow v
  | .freqHigh v => State.updateThresholdFreqHigh v
  | .freqLow v => State.updateThresholdFreqLow v
  | .pfHigh v => State.updateThresholdPfHigh v
  | .pfLow v => State.updateThresholdPfLow v
  | .wattHigh v => State.updateThresholdWattHigh v
  | .wattLow v => State.updateThresholdWattLow v
  | .luxHigh v => State.updateThresholdLuxHigh v
  | .luxLow v => State.updateThresholdLuxLow v

inductive ConfigPut
  | nodeRegister (value : ℤ)
  | config (buff : List Byte)
  | watchdogSysSec (value : ℤ)
  | watchdogRegSec (value : ℤ)
  | watchdogLightSensorSec (value : ℤ)
  | periodSec (p : Period) (value : ℤ)
  | deregKeepOnline (value : Bool)
  | deregKeepOnlineTimeSec (value : ℤ)
  | resetConfig

def ConfigPut.apply : ConfigPut → State → State
  | .nodeRegister v => State.updateNodeRegister v
  | .config buff => State.updateConfig buff
  | .watchdogSysSec v => State.updateConfigWatchdogSysSec v
  | .watchdogRegSec v => State.updateConfigWatchdogRegSec v
  | .watchdogLightSensorSec v => State.updateConfigWatchdogLightSensorSec v
  | .periodSec p v => State.updateConfigPeriodSec p v
  | .deregKeepOnline v => State.updateConfigDeregKeepOnline v
  | .deregKeepOnlineTimeSec v => State.updateConfigDeregKeepOnlineTimeSec v
  | .resetConfig => State.resetConfig

inductive Timer
  | launchUpload
  | terminateUpload
  | nodeRegister
  | status
  | data
  | lightSensorMode
  | systemWatchdog
  | threadWatchdog
deriving DecidableEq, Repr

namespace State

def reboot (s : State) : State := boot s.files

/-- The `SlcApp_Timer*Fxn` callback of a timer that runs; another one cannot expire. -/
def expire (t : Timer) (s : State) : State :=
  match t with
  | .launchUpload =>
    if s.launchTimer.isSome then { s with launchTimer := none, launchUpload := true } else s
  | .terminateUpload => { s with terminateUpload := s.terminateUpload.expire }
  | .nodeRegister => { s with nodeRegister := s.nodeRegister.expire }
  | .status => { s with uploadStatus := s.uploadStatus.expire }
  | .data => { s with uploadData := s.uploadData.expire }
  | .lightSensorMode =>
    if s.lightSensor.period.isSome then
      { s with lightSensor := s.lightSensor.expire, mcuMode := some 0 }
    else s
  | .systemWatchdog => if s.systemWatchdog.period.isSome then s.reboot else s
  | .threadWatchdog => if s.threadWatchdog.period.isSome then s.reboot else s

def fwUpdateTriggered (s : State) : State := { s with fwUpdate := true }

def fwUpdateHasTerminated (s : State) : State := { s with fwUpdateTerminated := true }

end State

inductive Event
  | config (put : ConfigPut)
  | threshold (put : ThresholdPut)
  | lightDim (payload : DimPayload)
  | lightSchedule (buff : List Byte)
  | customAtCmd
  | fwUpdateTriggered
  | fwUpdateTerminated
  | kickAppTimer
  | timer (t : Timer)
  | iterate (i : Inputs)
  | reboot

namespace State

def step (s : State) : Event → State
  | .config put => put.apply s
  | .threshold put => put.apply s
  | .lightDim p => s.updateLightDim p
  | .lightSchedule buff => s.updateLightSchedule buff
  | .customAtCmd => { s with uploadCustomAtCmd := true }
  | .fwUpdateTriggered => s.fwUpdateTriggered
  | .fwUpdateTerminated => s.fwUpdateHasTerminated
  | .kickAppTimer => s.kickAppTimer
  | .timer t => s.expire t
  | .iterate i => s.iterate i
  | .reboot => s.reboot

def restarts (s : State) : Event → Bool
  | .timer .systemWatchdog => s.systemWatchdog.period.isSome
  | .timer .threadWatchdog => s.threadWatchdog.period.isSome
  | .iterate i => (s.switch i).rebooting
  | .reboot => true
  | _ => false

end State

def quiet : Inputs where
  netState := .connected
  registered := true
  paused := false
  allSubscribed := true
  timestamp := 0
  clock := fun _ => realTime 0
  voltage := 0
  current := 0
  freq := 0
  pf := 0
  watt := 0
  rand := fun _ => 0

def toStandby : List Event :=
  [.iterate quiet, .timer .launchUpload] ++ List.replicate 9 (.iterate quiet)

example : (toStandby.foldl State.step (State.boot fun _ => none)).appState = .standby := by decide

end SlcNode
