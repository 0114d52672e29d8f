import SlcNode.Timers

namespace SlcNode

def uint32 (value : ℤ) : BitVec 32 := BitVec.ofInt 32 value

def lightDimStructLen : ℕ := lightAddrMax + 1

/-- The arguments of `SlcApp_Update_LightDim`. A payload shorter than one byte leaves the tested
byte of the local `dimstruct` uninitialised: `uninit`. -/
structure DimPayload where
  bytes : List Byte
  fits : bytes.length ≤ lightDimStructLen
  uninit : Byte

def slcappDimSpecificdim : Byte := 2

namespace LightDim

def overwrite (d : LightDim) (payload : List Byte) : LightDim where
  broadcast := payload.getD 0 d.broadcast
  dimarray := Vector.ofFn fun k => payload.getD (k + 1) d.dimarray[k]

/-- The loop over `(index, level)` pairs; a payload that fits in the structure has room for none
that the array would not. -/
def applyPairs : List Byte → Vector Byte lightAddrMax → Vector Byte lightAddrMax
  | idx :: level :: rest, a => applyPairs rest (a.setIfInBounds idx.toNat level)
  | _, a => a

def update (d : LightDim) (p : DimPayload) : LightDim :=
  if p.bytes.getD 0 p.uninit = slcappDimSpecificdim then
    { broadcast := 0, dimarray := applyPairs p.bytes.tail d.dimarray }
  else d.overwrite p.bytes

end LightDim

namespace State

def storeConfig (s : State) : State :=
  { s with files := DataStore.writeFile s.files DataStore.sysconfigFileName s.config.buff }

theorem storeConfig_file (s : State) :
    s.storeConfig.files DataStore.sysconfigFileName = some s.storeConfig.config.buff := by
  simp only [storeConfig, DataStore.writeFile_self]

def updateNodeRegister (value : ℤ) (s : State) : State :=
  let s := { s with
    configBackup := { s.configBackup with nodeRegistered := s.config.nodeRegistered }
    config := { s.config with nodeRegistered := if value > 0 then 1 else 0 } }
  if s.config.nodeRegistered ≠ s.configBackup.nodeRegistered then s.storeConfig else s

@[simp] theorem updateNodeRegister_config (value : ℤ) (s : State) :
    (s.updateNodeRegister value).config =
      { s.config with nodeRegistered := if value > 0 then 1 else 0 } := by
  unfold updateNodeRegister
  generalize (if value > 0 then 1 else 0 : Byte) = b
  dsimp only
  split <;> rfl

@[simp] theorem updateNodeRegister_configBackup (value : ℤ) (s : State) :
    (s.updateNodeRegister value).configBackup =
      { s.configBackup with nodeRegistered := s.config.nodeRegistered } := by
  unfold updateNodeRegister
  generalize (if value > 0 then 1 else 0 : Byte) = b
  dsimp only
  split <;> rfl

/-- `SlcApp_Update_Config`, the size being that of the list. The image is stored when `memcmp`
finds no difference. -/
def updateConfig (buff : List Byte) (s : State) : State :=
  if buff.length = configBuffLen then
    let s := { s with configBackup := s.config, config := (Config.ofBuff buff).limit }
    if s.config.buff = s.configBackup.buff then s.storeConfig else s
  else s

theorem updateConfig_of_length {buff : List Byte} (h : buff.length = configBuffLen) (s : State) :
    (s.updateConfig buff).config = (Config.ofBuff buff).limit ∧
      (s.updateConfig buff).configBackup = s.config := by
  rw [updateConfig, if_pos h]
  dsimp only
  split <;> exact ⟨rfl, rfl⟩

/-- The body that the single-field config updates share: `get` and `set` reach the field. -/
def updateField {w : ℕ} (get : Config → BitVec w) (set : BitVec w → Config → Config) (value : ℤ)
    (s : State) : State :=
  if uint32 value ≠ (get s.config).setWidth 32 then
    { s with config := set ((uint32 value).setWidth w) s.config }.storeConfig
  else s

def updateConfigWatchdogSysSec : ℤ → State → State :=
  updateField Config.sysWatchdogTimeoutSec fun v c => { c with sysWatchdogTimeoutSec := v }

def updateConfigWatchdogRegSec : ℤ → State → State :=
  updateField Config.regWatchdogTimeoutSec fun v c => { c with regWatchdogTimeoutSec := v }

def updateConfigWatchdogLightSensorSec : ℤ → State → State :=
  updateField Config.lightSensorTimeoutSec fun v c => { c with lightSensorTimeoutSec := v }

/-- The body of the five `SlcApp_Update_Config_Period*Sec`: it limits the period in force, not the
one asked for. -/
def updateConfigPeriodSec (p : Period) (value : ℤ) (s : State) : State :=
  updateField (fun c => (c.cycle p).cycleTime)
    (fun v c => c.withCycle { c.cycle p with cycleTime := v } p) value
    { s with config := s.config.withCycle (s.config.cycle p).limit p }

def updateConfigPeriodFirstUploadSec : ℤ → State → State := updateConfigPeriodSec .firstUpload

def updateConfigPeriodCycleUploadSec : ℤ → State → State := updateConfigPeriodSec .cycleUpload

def updateConfigPeriodNodeRegisterSec : ℤ → State → State := updateConfigPeriodSec .nodeRegister

def updateConfigPeriodStatusSec : ℤ → State → State := updateConfigPeriodSec .status

def updateConfigPeriodDataSec : ℤ → State → State := updateConfigPeriodSec .data

def updateConfigDeregKeepOnline (value : Bool) (s : State) : State :=
  if value ≠ s.config.deregister.keepOnline then
    { s with config.deregister.keepOnline := value }.storeConfig
  else s

def updateConfigDeregKeepOnlineTimeSec : ℤ → State → State :=
  updateField (fun c => c.deregister.keepOnlineTime)
    fun v c => { c with deregister.keepOnlineTime := v }

def updateLightDim (p : DimPayload) (s : State) : State :=
  { s with lightDimBackup := s.lightDim, lightDim := s.lightDim.update p }

def updateLightSchedule (buff : List Byte) (s : State) : State :=
  if buff.length = ScheduleGroup.buffLen then
    let s := { s with schedule := ScheduleGroup.ofBuff buff }
    { s with
      files := DataStore.writeFile s.files DataStore.lightscheduleFileName
        (ScheduleGroup.buff s.schedule) }
  else s

end State

end SlcNode
