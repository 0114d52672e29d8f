import SlcNode.Standby
import SlcNode.Init

namespace SlcNode

namespace State

def reduceUploadPeriodTimes : Byte := 12

def waitDisconnectMax : ℕ := 1920 / 5

/-! The states of `SlcApp_ThreadFxn`. -/

def readyToIdle (i : Inputs) (s : State) : State :=
  let s := if s.firstUploadDone = 0 then s.launchTimer1stLaunchUpload (i.rand 0)
    else if s.firstUploadDone < reduceUploadPeriodTimes then
      s.launchTimerReducePeriodLaunchUpload (i.rand 1)
    else s.launchTimerLaunchUpload (i.rand 2)
  { s with appState := .idle }

def idle (s : State) : State :=
  if s.launchUpload then
    { s.relaunchTimerRegWatchdog with
      requests := s.requests ++ [.toRestart]
      appState := .waitNetworkConnect
      launchUpload := false }
  else s

def waitNetworkConnect (i : Inputs) (s : State) : State :=
  match i.netState with
  | .connected => { s with appState := .init }
  | .error | .errorReboot => s.toPelionDeregOnTerminate
  | .connecting | .disconnected | .raiDisconnected | .detachDisconnected =>
    if s.terminateUpload.trigger then s.toPelionDeregOnTerminate else s

def init (s : State) : State :=
  { s with nodeRegister := s.nodeRegister.consume, appState := .waitPelionReg
    }.relaunchTimerRegWatchdog

def waitPelionReg (i : Inputs) (s : State) : State :=
  if i.registered && !i.paused then
    { s.relaunchTimerRegWatchdog with appState := .waitResourceSubscribed }
  else if s.terminateUpload.trigger then s.toPelionDeregOnTerminate
  else s

def waitResourceSubscribed (i : Inputs) (s : State) : State :=
  if i.allSubscribed then
    { s.relaunchTimerNoderegWatchdog with appState := .waitDevReg, devRegState := .init }
  else if s.terminateUpload.trigger then s.toPelionDeregOnTerminate
  else if s.fwUpdate then s.startFwUpdating
  else if s.fwUpdateTerminated then s.relaunchTimerRegWatchdog.endFwUpdating
  else s

def uploadNodeRegister (r : ℕ) (s : State) : State :=
  s.upload (.nodeRegister s.config.nodeRegistered) |> launchTimerNodeRegister r

def waitDevReg (i : Inputs) (s : State) : State :=
  match s.devRegState with
  | .init =>
    let s := { s with devRegState := .waitReg }
    if s.config.nodeRegistered = 0 then s.uploadNodeRegister (i.rand 3) else s
  | .waitReg =>
    if s.config.nodeRegistered ≠ 0 then
      { s.stopTimerTerminateUpload with devRegState := .done }
    else if s.nodeRegister.trigger then
      let s := s.uploadNodeRegister (i.rand 4)
      { s with nodeRegister := s.nodeRegister.consume }
    else if s.terminateUpload.trigger then s.toPelionDeregOnTerminate
    else if s.fwUpdate then s.startFwUpdating
    else if s.fwUpdateTerminated then s.relaunchTimerNoderegWatchdog.endFwUpdating
    else s
  | .done => { s with appState := .readyToStandby }

def fullUploadList (s : State) : List Upload :=
  [.status s.status, .config s.config.buff, .nodeVersion, .imei, .imsi, .modFwVersion, .mcuVersion,
    .ccid, .signalPowerLight]

def updateUploadTimeStamp (timestamp : ℕ) (s : State) : State :=
  { s with
    files := DataStore.writeFile s.files DataStore.uploadtimestampFileName
      (LittleEndian.bytes 8 timestamp) }

def uploadAll (i : Inputs) (s : State) : State :=
  let s := s.fullUploadList.foldl (fun s u => s.upload u) s.stopTimerNodeRegister
  let s := s.launchTimerStatus (i.rand 5)
  let s := if s.config.cycleUploadDataEnable ≠ 0 then s.relaunchTimerData (i.rand 6) else s
  { s with configBackup.nodeRegistered := s.config.nodeRegistered
    }.updateUploadTimeStamp i.timestamp

def readyToStandby (i : Inputs) (s : State) : State :=
  let s := if s.configBackup.nodeRegistered = 0 ∨ s.firstUploadDone = 0 then s.uploadAll i else s
  let s := if !s.config.deregister.keepOnline && !s.fwUpdating then s.relaunchTimerTerminateUpload
    else s
  { s with
    firstUploadDone :=
      if s.firstUploadDone < reduceUploadPeriodTimes then s.firstUploadDone + 1
      else s.firstUploadDone
    appState := .standby }

def toPelionDereg (s : State) : State :=
  { s.stopTimerNodeRegister with
    requests := s.requests ++ [.toDeregister s.config.deregister.disconnectType]
    appState := .waitPelionDereg }

def waitPelionDereg (i : Inputs) (s : State) : State :=
  if !i.registered || i.paused then
    { s with disconnectWaitcnt := 0, appState := .waitNetworkDisconnected }
  else s

def waitNetworkDisconnected (i : Inputs) (s : State) : State :=
  match i.netState with
  | .connecting | .connected | .error | .errorReboot =>
    let s := { s with disconnectWaitcnt := s.disconnectWaitcnt + 1 }
    if s.disconnectWaitcnt > waitDisconnectMax then s.osReboot else s
  | .disconnected | .raiDisconnected | .detachDisconnected => { s with appState := .readyToIdle }

def switch (i : Inputs) (s : State) : State :=
  match s.appState with
  | .readyToIdle => s.readyToIdle i
  | .idle => s.idle
  | .waitNetworkConnect => s.waitNetworkConnect i
  | .init => s.init
  | .waitPelionReg => s.waitPelionReg i
  | .waitResourceSubscribed => s.waitResourceSubscribed i
  | .waitDevReg => s.waitDevReg i
  | .readyToStandby => s.readyToStandby i
  | .standby => s.standby i
  | .toPelionDereg => s.toPelionDereg
  | .waitPelionDereg => s.waitPelionDereg i
  | .waitNetworkDisconnected => s.waitNetworkDisconnected i
  | .reset => s

/-- One turn of the loop over the schedule, `now` being the clock when it tests the entry. -/
def checkSchedule (now : DateTime) (k : Fin lightScheduleCountMax) (s : State) : State :=
  if (s.schedule k).due now then
    let d : LightDim := ⟨1, Vector.replicate lightAddrMax (s.schedule k).dim⟩
    { s with
      lightDim := d
      dimLevel := some d
      uploadDim := true
      lightDimBackup := d
      schedule := Function.update s.schedule k (s.schedule k).fired }
  else s

def processLightSchedule (i : Inputs) (s : State) : State :=
  (List.finRange lightScheduleCountMax).foldl (fun s k => s.checkSchedule (i.clock k) k) s

/-- One pass of the `while(1)` of `SlcApp_ThreadFxn`. A pass that reboots ends there. -/
def iterate (i : Inputs) (s : State) : State :=
  let t := s.switch i
  if t.rebooting then boot t.files
  else t.processLightSchedule i |> checkThresholds i |> kickThreadTimer

end State

end SlcNode
