import SlcNode.Threshold
import SlcNode.Update

namespace SlcNode

/-- Static memory at start-up. The thread's locals are written before they are read. -/
def zeroed (files : Files) : State where
  config := Config.ofBuff (List.replicate configBuffLen 0)
  configBackup := Config.ofBuff (List.replicate configBuffLen 0)
  lightDim := ⟨0, Vector.replicate lightAddrMax 0⟩
  lightDimBackup := ⟨0, Vector.replicate lightAddrMax 0⟩
  schedule := ScheduleGroup.empty
  threshold := fun _ => 0
  status := ⟨false, false, false, false, false⟩
  firstUploadDone := 0
  fwUpdating := false
  launchTimer := none
  launchUpload := false
  terminateUpload := .idle
  nodeRegister := .idle
  uploadStatus := .idle
  uploadData := .idle
  lightSensor := ⟨none, false⟩
  systemWatchdog := ⟨none, false⟩
  threadWatchdog := ⟨none, false⟩
  uploadDim := false
  fwUpdate := false
  fwUpdateTerminated := false
  uploadCustomAtCmd := false
  appState := .readyToIdle
  devRegState := .init
  disconnectWaitcnt := 0
  rebooting := false
  files := files
  uploads := []
  requests := []
  dimLevel := none
  mcuMode := none

namespace State

def resetConfig (s : State) : State :=
  { s with config := s.config.reset, configBackup := s.config.reset }.storeConfig

def restorable (files : Files) : Bool :=
  let r := DataStore.readFile files DataStore.sysconfigFileName configBuffLen
  r.ret == configBuffLen && r.remain == 0 &&
    (Config.ofBuff r.buff).version == Config.defaultConfigVersion

/-- `SlcApp_RestoreConfig`: the backup is taken before the registration is cleared. -/
def restoreConfig (s : State) : State :=
  let r := DataStore.readFile s.files DataStore.sysconfigFileName configBuffLen
  if restorable s.files then
    { s with config := (Config.ofBuff r.buff).clearOnBoot, configBackup := Config.ofBuff r.buff }
  else s.resetConfig

def ConfigFile (files : Files) (c : Config) : Prop :=
  files DataStore.sysconfigFileName = some c.buff ∧ c.version = Config.defaultConfigVersion

theorem ConfigFile.read {files : Files} {c : Config} (h : ConfigFile files c) :
    DataStore.readFile files DataStore.sysconfigFileName configBuffLen =
      { ret := configBuffLen, buff := c.buff, remain := 0 } :=
  DataStore.readFile_of_length h.1 c.buff_length

theorem restorable_iff {files : Files} : restorable files = true ↔ ∃ c, ConfigFile files c := by
  constructor
  · intro h
    simp only [restorable, Bool.and_eq_true, beq_iff_eq] at h
    obtain ⟨⟨hret, hremain⟩, hversion⟩ := h
    obtain ⟨hfile, hlen⟩ := DataStore.readFile_whole (by decide) hret hremain
    exact ⟨_, by rwa [Config.buff_ofBuff hlen], hversion⟩
  · rintro ⟨c, h⟩
    simp [restorable, h.read, Config.ofBuff_buff, h.2]

theorem restoreConfig_of_file {s : State} {c : Config} (h : ConfigFile s.files c) :
    s.restoreConfig = { s with config := c.clearOnBoot, configBackup := c } := by
  rw [restoreConfig, if_pos (restorable_iff.mpr ⟨c, h⟩)]
  simp only [h.read, Config.ofBuff_buff]

theorem restoreConfig_of_not_restorable {s : State} (h : restorable s.files = false) :
    s.restoreConfig = s.resetConfig := by
  rw [restoreConfig, h, if_neg Bool.false_ne_true]

theorem resetConfig_file (s : State) : ConfigFile s.resetConfig.files s.resetConfig.config :=
  ⟨storeConfig_file _, rfl⟩

/-- `SlcApp_RestoreLightSchedule`: a file of zeros is removed. -/
def restoreLightSchedule (s : State) : State :=
  let r := DataStore.readFile s.files DataStore.lightscheduleFileName ScheduleGroup.buffLen
  if r.ret = ScheduleGroup.buffLen ∧ r.remain = 0 then
    let s := { s with schedule := ScheduleGroup.ofBuff r.buff }
    if ∀ b ∈ r.buff, b = 0 then
      { s with files := DataStore.removeFile s.files DataStore.lightscheduleFileName }
    else s
  else { s with schedule := ScheduleGroup.empty }

/-- `SlcApp_Init` on zeroed memory, up to the start of the thread. -/
def boot (files : Files) : State :=
  zeroed files |> restoreConfig |> restoreLightSchedule |> restoreThreshold
    |> relaunchTimerLightSensorMode |> relaunchTimerSystemWatchdog |> relaunchTimerThreadWatchdog

end State

end SlcNode
