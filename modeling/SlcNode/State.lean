import SlcNode.Library.Binary32
import SlcNode.Library.OneShot
import SlcNode.Config
import SlcNode.DataStore
import SlcNode.LightSchedule

namespace SlcNode

inductive AppState
  | reset
  | readyToIdle
  | idle
  | waitNetworkConnect
  | init
  | waitPelionReg
  | waitDevReg
  | waitResourceSubscribed
  | readyToStandby
  | standby
  | toPelionDereg
  | waitPelionDereg
  | waitNetworkDisconnected
deriving DecidableEq, Repr

inductive DevRegState
  | init
  | waitReg
  | done
deriving DecidableEq, Repr

inductive NetState
  | disconnected
  | connecting
  | connected
  | raiDisconnected
  | detachDisconnected
  | error
  | errorReboot
deriving DecidableEq, Repr

inductive Threshold
  | voltageHigh
  | voltageLow
  | currentHigh
  | currentLow
  | freqHigh
  | freqLow
  | pfHigh
  | pfLow
  | wattHigh
  | wattLow
  | luxHigh
  | luxLow
deriving DecidableEq, Repr

structure Status where
  errorVoltage : Bool
  errorCurrent : Bool
  errorFreq : Bool
  errorPf : Bool
  errorWatt : Bool
deriving DecidableEq, Repr

abbrev lightAddrMax : ℕ := 1

structure LightDim where
  broadcast : Byte
  dimarray : Vector Byte lightAddrMax
deriving DecidableEq

namespace LightDim

def spread (d : LightDim) : LightDim :=
  if d.broadcast ≠ 0 then { d with dimarray := Vector.replicate lightAddrMax d.dimarray[0] } else d

def levels (d : LightDim) : Vector Byte lightAddrMax := d.spread.dimarray

end LightDim

abbrev Millis := BitVec 32

structure Periodic where
  period : Option Millis
  launched : Bool
deriving DecidableEq

namespace Periodic

def relaunch (p : Millis) (_ : Periodic) : Periodic := { period := some p, launched := true }

/-- The expiry callback clears the flag; the timer itself goes on. -/
def expire (t : Periodic) : Periodic := { t with launched := false }

end Periodic

inductive Upload
  | nodeRegister (registered : Byte)
  | status (status : Status)
  | config (buff : List Byte)
  | nodeVersion
  | imei
  | imsi
  | modFwVersion
  | mcuVersion
  | ccid
  | signalPowerLight
  | customAtCmd
deriving DecidableEq

inductive PelionRequest
  | toRestart
  | toDeregister (disconnectType : BitVec 2)
deriving DecidableEq

structure State where
  config : Config
  configBackup : Config
  lightDim : LightDim
  lightDimBackup : LightDim
  schedule : ScheduleGroup
  threshold : Threshold → BitVec 32
  status : Status
  firstUploadDone : Byte
  fwUpdating : Bool
  launchTimer : Option Millis
  launchUpload : Bool
  terminateUpload : OneShot Millis
  nodeRegister : OneShot Millis
  uploadStatus : OneShot Millis
  uploadData : OneShot Millis
  lightSensor : Periodic
  systemWatchdog : Periodic
  threadWatchdog : Periodic
  uploadDim : Bool
  fwUpdate : Bool
  fwUpdateTerminated : Bool
  uploadCustomAtCmd : Bool
  appState : AppState
  devRegState : DevRegState
  disconnectWaitcnt : ℕ
  rebooting : Bool
  files : Files
  uploads : List Upload
  requests : List PelionRequest
  /-- the arguments of the last `SlcCtrl_SetDimLevel` -/
  dimLevel : Option LightDim
  /-- the argument of the last `SlcCtrl_SetMcuMode` -/
  mcuMode : Option Byte

/-- What one pass of the loop reads from outside: the main thread, the clock at each check of a
schedule entry, the measurements, and `rand()` at each of its call sites. -/
structure Inputs where
  netState : NetState
  registered : Bool
  paused : Bool
  allSubscribed : Bool
  timestamp : ℕ
  clock : Fin lightScheduleCountMax → DateTime
  voltage : Binary32
  current : Binary32
  freq : Binary32
  pf : Binary32
  watt : Binary32
  rand : ℕ → ℕ

end SlcNode
