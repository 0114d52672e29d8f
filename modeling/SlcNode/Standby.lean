import SlcNode.Update

namespace SlcNode

/-- The three assignments that copy a period; the reserved bits stay. -/
def CycleTime.copyTimes (src dst : CycleTime) : CycleTime :=
  { dst with cycleTime := src.cycleTime, random := src.random, diffTime := src.diffTime }

namespace State

def backupPeriod (p : Period) (s : State) : State :=
  { s with
    configBackup :=
      s.configBackup.withCycle ((s.config.cycle p).copyTimes (s.configBackup.cycle p)) p }

/-! The blocks of `SLCAPP_APPSTATE_STANDBY`, named after their comments. -/

def updateSystemWatchdogTimer (s : State) : State :=
  if s.config.sysWatchdogTimeoutSec ≠ s.configBackup.sysWatchdogTimeoutSec then
    { s.relaunchTimerSystemWatchdog with
      configBackup.sysWatchdogTimeoutSec := s.config.sysWatchdogTimeoutSec }
  else s

def updateRegisterWatchdogTimer (s : State) : State :=
  if s.config.regWatchdogTimeoutSec ≠ s.configBackup.regWatchdogTimeoutSec then
    { s with configBackup.regWatchdogTimeoutSec := s.config.regWatchdogTimeoutSec }
  else s

def updateLightSensorModeTimer (s : State) : State :=
  if s.config.lightSensorTimeoutSec ≠ s.configBackup.lightSensorTimeoutSec then
    { s.relaunchTimerLightSensorMode with
      configBackup.lightSensorTimeoutSec := s.config.lightSensorTimeoutSec }
  else s

/-- The body that the next three blocks share: no timer is touched. -/
def updatePeriodTimer (p : Period) (s : State) : State :=
  if (s.config.cycle p).cycleTime ≠ (s.configBackup.cycle p).cycleTime then s.backupPeriod p
  else s

def updateFirstUploadProcedureTimer : State → State := updatePeriodTimer .firstUpload

def updateCycleUploadProcedureTimer : State → State := updatePeriodTimer .cycleUpload

def updateNodeRegisterTimer : State → State := updatePeriodTimer .nodeRegister

def updateStatusTimer (i : Inputs) (s : State) : State :=
  if (s.config.cycle .status).cycleTime ≠ (s.configBackup.cycle .status).cycleTime then
    s.stopTimerStatus.upload (.status s.status) |> launchTimerStatus (i.rand 7)
      |> backupPeriod .status
  else s

def updateDataTimer (i : Inputs) (s : State) : State :=
  if s.config.cycleUploadDataEnable ≠ s.configBackup.cycleUploadDataEnable ∨
      s.config.cycleUploadData.random ≠ s.configBackup.cycleUploadData.random ∨
      s.config.cycleUploadData.cycleTime ≠ s.configBackup.cycleUploadData.cycleTime ∨
      s.config.cycleUploadData.diffTime ≠ s.configBackup.cycleUploadData.diffTime then
    let s := if s.config.cycleUploadDataEnable ≠ 0 then s.relaunchTimerData (i.rand 8)
      else s.stopTimerData
    { s with configBackup.cycleUploadDataEnable := s.config.cycleUploadDataEnable }.backupPeriod
      .data
  else s

def updateDeregister (s : State) : State :=
  if s.config.deregister.keepOnline ≠ s.configBackup.deregister.keepOnline ∨
      s.config.deregister.keepOnlineTime ≠ s.configBackup.deregister.keepOnlineTime then
    let s := if s.config.deregister.keepOnline then s.stopTimerTerminateUpload
      else s.relaunchTimerTerminateUpload
    { s with
      configBackup.deregister :=
        { s.configBackup.deregister with
          keepOnline := s.config.deregister.keepOnline
          keepOnlineTime := s.config.deregister.keepOnlineTime } }
  else s

def updateDim (s : State) : State :=
  if s.lightDim.broadcast ≠ s.lightDimBackup.broadcast ∨
      s.lightDim.dimarray ≠ s.lightDimBackup.dimarray then
    let d := s.lightDim.spread
    { s with lightDim := d, dimLevel := some d, lightDimBackup := d }
  else s

def undoDevRegister (s : State) : State :=
  if s.config.nodeRegistered = 0 then
    { s with
      appState := .waitNetworkConnect
      configBackup.nodeRegistered := s.config.nodeRegistered }
  else s

def toUploadStatus (i : Inputs) (s : State) : State :=
  if s.uploadStatus.trigger then
    let s := s.upload (.status s.status) |> launchTimerStatus (i.rand 9)
    { s with uploadStatus := s.uploadStatus.consume }
  else s

def toUploadData (i : Inputs) (s : State) : State :=
  if s.uploadData.trigger then
    let s := s.upload .signalPowerLight |> relaunchTimerData (i.rand 10)
    { s with uploadData := s.uploadData.consume }
  else s

def toUploadDim (s : State) : State :=
  if s.uploadDim then { s with uploadDim := false } else s

def toUploadCustomAtCmd (s : State) : State :=
  if s.uploadCustomAtCmd then { s.upload .customAtCmd with uploadCustomAtCmd := false } else s

/-- The reaction to `Trigger.TerminateUpload`, which four states share. -/
def toPelionDeregOnTerminate (s : State) : State :=
  { s with appState := .toPelionDereg, terminateUpload := s.terminateUpload.consume }

def toTerminateUpload (s : State) : State :=
  if s.terminateUpload.trigger then s.toPelionDeregOnTerminate else s

/-- "stop timer and wait for fw update complete", which three states share:
`SLCAPP_STOPTIMER_REG_WATCHDOG` stops the same timer. -/
def startFwUpdating (s : State) : State :=
  { s.stopTimerTerminateUpload with fwUpdating := true, fwUpdate := false }

def toFwUpdate (s : State) : State := if s.fwUpdate then s.startFwUpdating else s

/-- The flags that the end of an update clears after the timer is relaunched. -/
def endFwUpdating (s : State) : State := { s with fwUpdating := false, fwUpdateTerminated := false }

def toFwUpdateTerminated (s : State) : State :=
  if s.fwUpdateTerminated then s.relaunchTimerTerminateUpload.endFwUpdating else s

def updateTimers (i : Inputs) (s : State) : State :=
  s |> updateSystemWatchdogTimer |> updateRegisterWatchdogTimer |> updateLightSensorModeTimer
    |> updateFirstUploadProcedureTimer |> updateCycleUploadProcedureTimer
    |> updateNodeRegisterTimer |> updateStatusTimer i |> updateDataTimer i

def toUpload (i : Inputs) (s : State) : State :=
  s |> toUploadStatus i |> toUploadData i |> toUploadDim |> toUploadCustomAtCmd

def standby (i : Inputs) (s : State) : State :=
  s |> updateTimers i |> updateDeregister |> updateDim |> undoDevRegister |> toUpload i
    |> toTerminateUpload |> toFwUpdate |> toFwUpdateTerminated

end State

end SlcNode
