import SlcNode.State

namespace SlcNode

/-- The period of `SlcApp_Timer*Launch(random, interval, random_diff)`, `r` being what `rand()`
returns. -/
def launchMillis (random : Bool) (interval : BitVec 16) (randomDiff : BitVec 8) (r : ℕ) : Millis :=
  if random && randomDiff != 0 then
    interval.setWidth 32 * 1000 + BitVec.ofNat 32 r % (randomDiff.setWidth 32 * 1000) + 1
  else interval.setWidth 32 * 1000 + 1

def CycleTime.millis (t : CycleTime) (r : ℕ) : Millis :=
  launchMillis t.random (t.cycleTime.setWidth 16) t.diffTime r

namespace State

def launchTimer1stLaunchUpload (r : ℕ) (s : State) : State :=
  { s with launchTimer := some (launchMillis true 30 90 r) }

def launchTimerReducePeriodLaunchUpload (r : ℕ) (s : State) : State :=
  { s with launchTimer := some (s.config.firstUploadProcedure.millis r) }

def launchTimerLaunchUpload (r : ℕ) (s : State) : State :=
  { s with launchTimer := some (s.config.cycleUploadProcedure.millis r) }

def stopTimerTerminateUpload (s : State) : State :=
  { s with terminateUpload := s.terminateUpload.stop }

def relaunchTimerRegWatchdog (s : State) : State :=
  { s with
    terminateUpload := s.terminateUpload.launch (s.config.regWatchdogTimeoutSec.setWidth 32 * 1000) }

def relaunchTimerNoderegWatchdog (s : State) : State :=
  { s with terminateUpload := s.terminateUpload.launch (10 * 60 * 1000) }

def relaunchTimerTerminateUpload (s : State) : State :=
  { s with
    terminateUpload :=
      s.terminateUpload.launch (s.config.deregister.keepOnlineTime.setWidth 32 * 1000) }

def stopTimerNodeRegister (s : State) : State := { s with nodeRegister := s.nodeRegister.stop }

def launchTimerNodeRegister (r : ℕ) (s : State) : State :=
  { s with nodeRegister := s.nodeRegister.launch (s.config.cycleUploadNoderegister.millis r) }

def stopTimerStatus (s : State) : State := { s with uploadStatus := s.uploadStatus.stop }

def launchTimerStatus (r : ℕ) (s : State) : State :=
  { s with uploadStatus := s.uploadStatus.launch (s.config.cycleUploadStatus.millis r) }

def stopTimerData (s : State) : State := { s with uploadData := s.uploadData.stop }

def relaunchTimerData (r : ℕ) (s : State) : State :=
  { s with uploadData := s.uploadData.launch (s.config.cycleUploadData.millis r) }

def relaunchTimerLightSensorMode (s : State) : State :=
  { s with
    lightSensor := s.lightSensor.relaunch (s.config.lightSensorTimeoutSec.setWidth 32 * 1000) }

def relaunchTimerSystemWatchdog (s : State) : State :=
  { s with systemWatchdog := s.systemWatchdog.relaunch (s.config.sysWatchdogTimeoutSec * 1000) }

/-- `SLCAPP_RELAUNCHTIMER_THREADWATCHDOG` with `THREAD_WATCHDOG_TIMEOUTTIME_SEC` -/
def relaunchTimerThreadWatchdog (s : State) : State :=
  { s with threadWatchdog := s.threadWatchdog.relaunch (480 * 1000) }

/-- `SlcApp_KickAppTimer`, putting the lamp controller in `SPI_PAIR_MODE`. -/
def kickAppTimer (s : State) : State :=
  { s with mcuMode := some 1 }.relaunchTimerLightSensorMode.relaunchTimerSystemWatchdog

def kickThreadTimer (s : State) : State := s.relaunchTimerThreadWatchdog

def upload (u : Upload) (s : State) : State :=
  { s with uploads := s.uploads ++ [u] }.kickAppTimer

def osReboot (s : State) : State := { s with rebooting := true }

end State

end SlcNode
