import SlcNode.Event

namespace SlcNode

structure Link where
  deregister : Deregister
  deregisterBackup : Deregister
  terminateUpload : OneShot Millis
  fwUpdating : Bool
  fwUpdate : Bool
  fwUpdateTerminated : Bool
  appState : AppState
  devRegState : DevRegState
  rebooting : Bool

structure Registration where
  nodeRegistered : Byte
  nodeRegisteredBackup : Byte
  firstUploadDone : Byte
  nodeRegister : OneShot Millis

structure Lamp where
  lightDim : LightDim
  lightDimBackup : LightDim
  dimLevel : Option LightDim

structure Store where
  config : Config
  schedule : ScheduleGroup
  files : Files

namespace State

def link (s : State) : Link where
  deregister := s.config.deregister
  deregisterBackup := s.configBackup.deregister
  terminateUpload := s.terminateUpload
  fwUpdating := s.fwUpdating
  fwUpdate := s.fwUpdate
  fwUpdateTerminated := s.fwUpdateTerminated
  appState := s.appState
  devRegState := s.devRegState
  rebooting := s.rebooting

@[simp] theorem link_fields (s : State) :
    s.link.deregister = s.config.deregister ∧ s.link.deregisterBackup = s.configBackup.deregister ∧
      s.link.terminateUpload = s.terminateUpload ∧ s.link.fwUpdating = s.fwUpdating ∧
      s.link.fwUpdate = s.fwUpdate ∧ s.link.fwUpdateTerminated = s.fwUpdateTerminated ∧
      s.link.appState = s.appState ∧ s.link.devRegState = s.devRegState ∧
      s.link.rebooting = s.rebooting := ⟨rfl, rfl, rfl, rfl, rfl, rfl, rfl, rfl, rfl⟩

def registration (s : State) : Registration where
  nodeRegistered := s.config.nodeRegistered
  nodeRegisteredBackup := s.configBackup.nodeRegistered
  firstUploadDone := s.firstUploadDone
  nodeRegister := s.nodeRegister

@[simp] theorem registration_fields (s : State) :
    s.registration.nodeRegistered = s.config.nodeRegistered ∧
      s.registration.nodeRegisteredBackup = s.configBackup.nodeRegistered ∧
      s.registration.firstUploadDone = s.firstUploadDone ∧
      s.registration.nodeRegister = s.nodeRegister := ⟨rfl, rfl, rfl, rfl⟩

def lamp (s : State) : Lamp := ⟨s.lightDim, s.lightDimBackup, s.dimLevel⟩

def store (s : State) : Store := ⟨s.config, s.schedule, s.files⟩

structure SameViews (s t : State) : Prop where
  link : t.link = s.link
  registration : t.registration = s.registration
  lamp : t.lamp = s.lamp
  store : t.store = s.store

theorem SameViews.refl (s : State) : SameViews s s := ⟨rfl, rfl, rfl, rfl⟩

theorem SameViews.trans {s t u : State} (h : SameViews s t) (k : SameViews t u) : SameViews s u :=
  ⟨k.link.trans h.link, k.registration.trans h.registration, k.lamp.trans h.lamp,
    k.store.trans h.store⟩

theorem SameViews.config {s t : State} (h : SameViews s t) : t.config = s.config :=
  congrArg Store.config h.store

theorem SameViews.schedule {s t : State} (h : SameViews s t) : t.schedule = s.schedule :=
  congrArg Store.schedule h.store

theorem SameViews.files {s t : State} (h : SameViews s t) : t.files = s.files :=
  congrArg Store.files h.store

structure SameBesideLink (s t : State) : Prop where
  registration : t.registration = s.registration
  lamp : t.lamp = s.lamp
  store : t.store = s.store

theorem upload_same (u : Upload) (s : State) : SameViews s (s.upload u) := ⟨rfl, rfl, rfl, rfl⟩

theorem stopTimerStatus_same (s : State) : SameViews s s.stopTimerStatus := ⟨rfl, rfl, rfl, rfl⟩

theorem launchTimerStatus_same (r : ℕ) (s : State) : SameViews s (s.launchTimerStatus r) :=
  ⟨rfl, rfl, rfl, rfl⟩

theorem stopTimerData_same (s : State) : SameViews s s.stopTimerData := ⟨rfl, rfl, rfl, rfl⟩

theorem relaunchTimerData_same (r : ℕ) (s : State) : SameViews s (s.relaunchTimerData r) :=
  ⟨rfl, rfl, rfl, rfl⟩

theorem uploads_same (us : List Upload) (s : State) :
    SameViews s (us.foldl (fun s u => s.upload u) s) := by
  induction us generalizing s with
  | nil => exact .refl s
  | cons u us ih => exact (upload_same u s).trans (ih _)

theorem backupPeriod_same (p : Period) (s : State) : SameViews s (s.backupPeriod p) := by
  cases p <;> exact ⟨rfl, rfl, rfl, rfl⟩

theorem updateSystemWatchdogTimer_same (s : State) : SameViews s s.updateSystemWatchdogTimer := by
  unfold updateSystemWatchdogTimer
  split <;> exact ⟨rfl, rfl, rfl, rfl⟩

theorem updateRegisterWatchdogTimer_same (s : State) :
    SameViews s s.updateRegisterWatchdogTimer := by
  unfold updateRegisterWatchdogTimer
  split <;> exact ⟨rfl, rfl, rfl, rfl⟩

theorem updateLightSensorModeTimer_same (s : State) :
    SameViews s s.updateLightSensorModeTimer := by
  unfold updateLightSensorModeTimer
  split <;> exact ⟨rfl, rfl, rfl, rfl⟩

theorem updatePeriodTimer_same (p : Period) (s : State) : SameViews s (s.updatePeriodTimer p) := by
  unfold updatePeriodTimer
  split
  · exact backupPeriod_same p s
  · exact .refl s

theorem updateStatusTimer_same (i : Inputs) (s : State) : SameViews s (s.updateStatusTimer i) := by
  unfold updateStatusTimer
  split
  · exact (stopTimerStatus_same s).trans <| (upload_same _ _).trans <|
      (launchTimerStatus_same _ _).trans (backupPeriod_same .status _)
  · exact .refl s

theorem updateDataTimer_same (i : Inputs) (s : State) : SameViews s (s.updateDataTimer i) := by
  unfold updateDataTimer
  split
  · have hb (t : State) : SameViews t
        { t with configBackup.cycleUploadDataEnable := t.config.cycleUploadDataEnable } :=
      ⟨rfl, rfl, rfl, rfl⟩
    dsimp only
    split
    · exact (relaunchTimerData_same _ s).trans <| (hb _).trans (backupPeriod_same .data _)
    · exact (stopTimerData_same s).trans <| (hb _).trans (backupPeriod_same .data _)
  · exact .refl s

theorem updateTimers_same (i : Inputs) (s : State) : SameViews s (s.updateTimers i) :=
  (updateSystemWatchdogTimer_same s).trans <| (updateRegisterWatchdogTimer_same _).trans <|
    (updateLightSensorModeTimer_same _).trans <| (updatePeriodTimer_same _ _).trans <|
    (updatePeriodTimer_same _ _).trans <| (updatePeriodTimer_same _ _).trans <|
    (updateStatusTimer_same i _).trans (updateDataTimer_same i _)

theorem toUploadStatus_same (i : Inputs) (s : State) : SameViews s (s.toUploadStatus i) := by
  have hk (t : State) : SameViews t { t with uploadStatus := t.uploadStatus.consume } :=
    ⟨rfl, rfl, rfl, rfl⟩
  unfold toUploadStatus
  split
  · exact (upload_same _ s).trans <| (launchTimerStatus_same _ _).trans (hk _)
  · exact .refl s

theorem toUploadData_same (i : Inputs) (s : State) : SameViews s (s.toUploadData i) := by
  have hk (t : State) : SameViews t { t with uploadData := t.uploadData.consume } :=
    ⟨rfl, rfl, rfl, rfl⟩
  unfold toUploadData
  split
  · exact (upload_same _ s).trans <| (relaunchTimerData_same _ _).trans (hk _)
  · exact .refl s

theorem toUploadDim_same (s : State) : SameViews s s.toUploadDim := by
  unfold toUploadDim
  split <;> exact ⟨rfl, rfl, rfl, rfl⟩

theorem toUploadCustomAtCmd_same (s : State) : SameViews s s.toUploadCustomAtCmd := by
  unfold toUploadCustomAtCmd
  split <;> exact ⟨rfl, rfl, rfl, rfl⟩

theorem toUpload_same (i : Inputs) (s : State) : SameViews s (s.toUpload i) :=
  (toUploadStatus_same i s).trans <| (toUploadData_same i _).trans <|
    (toUploadDim_same _).trans (toUploadCustomAtCmd_same _)

end State

end SlcNode
