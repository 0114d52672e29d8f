import SlcNode.Views

namespace SlcNode.State

theorem updateDeregister_beside (s : State) : SameBesideLink s s.updateDeregister := by
  unfold updateDeregister
  dsimp only
  split_ifs <;> exact ⟨rfl, rfl, rfl⟩

theorem toTerminateUpload_beside (s : State) : SameBesideLink s s.toTerminateUpload := by
  unfold toTerminateUpload
  split <;> exact ⟨rfl, rfl, rfl⟩

theorem toFwUpdate_beside (s : State) : SameBesideLink s s.toFwUpdate := by
  unfold toFwUpdate
  split <;> exact ⟨rfl, rfl, rfl⟩

theorem toFwUpdateTerminated_beside (s : State) : SameBesideLink s s.toFwUpdateTerminated := by
  unfold toFwUpdateTerminated
  split <;> exact ⟨rfl, rfl, rfl⟩

theorem updateDim_views (s : State) :
    s.updateDim.link = s.link ∧ s.updateDim.registration = s.registration ∧
      s.updateDim.store = s.store := by
  unfold updateDim
  split <;> exact ⟨rfl, rfl, rfl⟩

theorem undoDevRegister_views (s : State) :
    s.undoDevRegister.lamp = s.lamp ∧ s.undoDevRegister.store = s.store := by
  unfold undoDevRegister
  split <;> exact ⟨rfl, rfl⟩

def OnlyLink (a : AppState) : Prop :=
  a ≠ .init ∧ a ≠ .waitDevReg ∧ a ≠ .readyToStandby ∧ a ≠ .standby ∧ a ≠ .toPelionDereg

instance (a : AppState) : Decidable (OnlyLink a) :=
  inferInstanceAs (Decidable (_ ∧ _ ∧ _ ∧ _ ∧ _))

section SwitchFrame

variable {α : Type*} (f : State → α)
  (hf : ∀ s lt lu tu fw fu ft a d w q r, f { s with
    launchTimer := lt
    launchUpload := lu
    terminateUpload := tu
    fwUpdating := fw
    fwUpdate := fu
    fwUpdateTerminated := ft
    appState := a
    devRegState := d
    disconnectWaitcnt := w
    requests := q
    rebooting := r } = f s)

include hf

theorem switch_frame {i : Inputs} {s : State} (h : OnlyLink s.appState) : f (s.switch i) = f s := by
  unfold switch
  cases hs : s.appState with
  | readyToIdle =>
    dsimp only [readyToIdle]
    split_ifs <;> exact hf s _ _ _ _ _ _ _ _ _ _ _
  | idle =>
    dsimp only [idle]
    split
    · exact hf s _ _ _ _ _ _ _ _ _ _ _
    · rfl
  | waitNetworkConnect =>
    dsimp only [waitNetworkConnect]
    cases i.netState with
    | connected | error | errorReboot => exact hf s _ _ _ _ _ _ _ _ _ _ _
    | connecting | disconnected | raiDisconnected | detachDisconnected =>
      dsimp only
      split
      · exact hf s _ _ _ _ _ _ _ _ _ _ _
      · rfl
  | waitPelionReg =>
    dsimp only [waitPelionReg]
    split_ifs
    · exact hf s _ _ _ _ _ _ _ _ _ _ _
    · exact hf s _ _ _ _ _ _ _ _ _ _ _
    · rfl
  | waitResourceSubscribed =>
    dsimp only [waitResourceSubscribed]
    split_ifs
    · exact hf s _ _ _ _ _ _ _ _ _ _ _
    · exact hf s _ _ _ _ _ _ _ _ _ _ _
    · exact hf s _ _ _ _ _ _ _ _ _ _ _
    · exact hf s _ _ _ _ _ _ _ _ _ _ _
    · rfl
  | waitPelionDereg =>
    dsimp only [waitPelionDereg]
    split
    · exact hf s _ _ _ _ _ _ _ _ _ _ _
    · rfl
  | waitNetworkDisconnected =>
    dsimp only [waitNetworkDisconnected]
    cases i.netState with
    | disconnected | raiDisconnected | detachDisconnected => exact hf s _ _ _ _ _ _ _ _ _ _ _
    | connecting | connected | error | errorReboot =>
      dsimp only
      split <;> exact hf s _ _ _ _ _ _ _ _ _ _ _
  | reset => rfl
  | init => exact absurd hs h.1
  | waitDevReg => exact absurd hs h.2.1
  | readyToStandby => exact absurd hs h.2.2.1
  | standby => exact absurd hs h.2.2.2.1
  | toPelionDereg => exact absurd hs h.2.2.2.2

end SwitchFrame

theorem switch_beside {i : Inputs} {s : State} (h : OnlyLink s.appState) :
    SameBesideLink s (s.switch i) where
  registration := switch_frame registration (fun _ _ _ _ _ _ _ _ _ _ _ _ => rfl) h
  lamp := switch_frame lamp (fun _ _ _ _ _ _ _ _ _ _ _ _ => rfl) h
  store := switch_frame store (fun _ _ _ _ _ _ _ _ _ _ _ _ => rfl) h

structure KeepsMemory (s t : State) : Prop where
  config : t.config = s.config
  schedule : t.schedule = s.schedule
  lamp : t.lamp = s.lamp
  files : ∀ name ≠ DataStore.uploadtimestampFileName, t.files name = s.files name

namespace KeepsMemory

variable {s t u : State}

theorem refl (s : State) : KeepsMemory s s := ⟨rfl, rfl, rfl, fun _ _ => rfl⟩

theorem trans (h : KeepsMemory s t) (k : KeepsMemory t u) : KeepsMemory s u :=
  ⟨k.config.trans h.config, k.schedule.trans h.schedule, k.lamp.trans h.lamp,
    fun name hn => (k.files name hn).trans (h.files name hn)⟩

theorem of_views (hs : t.store = s.store) (hl : t.lamp = s.lamp) : KeepsMemory s t :=
  ⟨congrArg Store.config hs, congrArg Store.schedule hs, hl,
    fun name _ => congrFun (congrArg Store.files hs) name⟩

theorem of_same (h : SameViews s t) : KeepsMemory s t := of_views h.store h.lamp

theorem of_beside (h : SameBesideLink s t) : KeepsMemory s t := of_views h.store h.lamp

end KeepsMemory

theorem uploadAll_keeps (i : Inputs) (s : State) : KeepsMemory s (s.uploadAll i) := by
  have h1 : KeepsMemory s s.stopTimerNodeRegister := .of_views rfl rfl
  have h2 (t : State) (us : List Upload) := KeepsMemory.of_same (uploads_same us t)
  have h3 (t : State) := KeepsMemory.of_same (launchTimerStatus_same (i.rand 5) t)
  have h4 (t : State) := KeepsMemory.of_same (relaunchTimerData_same (i.rand 6) t)
  have h5 (t : State) :
      KeepsMemory t { t with configBackup.nodeRegistered := t.config.nodeRegistered } :=
    .of_views rfl rfl
  have h6 (t : State) : KeepsMemory t (t.updateUploadTimeStamp i.timestamp) :=
    ⟨rfl, rfl, rfl, fun _ hn => DataStore.writeFile_of_ne _ _ hn⟩
  unfold uploadAll
  dsimp only
  split
  · exact h1.trans <| (h2 _ _).trans <| (h3 _).trans <| (h4 _).trans <| (h5 _).trans (h6 _)
  · exact h1.trans <| (h2 _ _).trans <| (h3 _).trans <| (h5 _).trans (h6 _)

theorem readyToStandby_keeps (i : Inputs) (s : State) : KeepsMemory s (s.readyToStandby i) := by
  have hu : KeepsMemory s (if s.configBackup.nodeRegistered = 0 ∨ s.firstUploadDone = 0 then
      s.uploadAll i else s) := by
    split
    · exact uploadAll_keeps i s
    · exact .refl s
  unfold readyToStandby
  refine hu.trans ?_
  generalize (if s.configBackup.nodeRegistered = 0 ∨ s.firstUploadDone = 0 then
    s.uploadAll i else s) = t
  dsimp only
  split <;> exact .of_views rfl rfl

theorem standby_store (i : Inputs) (s : State) : (s.standby i).store = s.store := by
  rw [standby, (toFwUpdateTerminated_beside _).store, (toFwUpdate_beside _).store,
    (toTerminateUpload_beside _).store, (toUpload_same i _).store, (undoDevRegister_views _).2,
    (updateDim_views _).2.2, (updateDeregister_beside _).store, (updateTimers_same i _).store]

theorem uploadNodeRegister_keeps (r : ℕ) (s : State) : KeepsMemory s (s.uploadNodeRegister r) := by
  have hlaunch (t : State) : KeepsMemory t (t.launchTimerNodeRegister r) := .of_views rfl rfl
  exact (KeepsMemory.of_same (upload_same _ s)).trans (hlaunch _)

theorem waitDevReg_keeps (i : Inputs) (s : State) : KeepsMemory s (s.waitDevReg i) := by
  have hinit : KeepsMemory s { s with devRegState := .waitReg } := .of_views rfl rfl
  have hconsume (t : State) : KeepsMemory t { t with nodeRegister := t.nodeRegister.consume } :=
    .of_views rfl rfl
  unfold waitDevReg
  cases s.devRegState with
  | init =>
    dsimp only
    split
    · exact hinit.trans (uploadNodeRegister_keeps _ _)
    · exact hinit
  | waitReg =>
    dsimp only
    split_ifs
    · exact .of_views rfl rfl
    · exact (uploadNodeRegister_keeps _ s).trans (hconsume _)
    · exact .of_views rfl rfl
    · exact .of_views rfl rfl
    · exact .of_views rfl rfl
    · exact .refl s
  | done => exact .of_views rfl rfl

theorem switch_keeps_of_ne {i : Inputs} {s : State} (h : s.appState ≠ .standby) :
    KeepsMemory s (s.switch i) := by
  by_cases hl : OnlyLink s.appState
  · exact .of_beside (switch_beside hl)
  · unfold switch
    cases hs : s.appState with
    | init => exact .of_views rfl rfl
    | waitDevReg => exact waitDevReg_keeps i s
    | readyToStandby => exact readyToStandby_keeps i s
    | standby => exact absurd hs h
    | toPelionDereg => exact .of_views rfl rfl
    | _ => exact absurd (show OnlyLink s.appState by rw [hs]; decide) hl

theorem switch_keeps (i : Inputs) (s : State) :
    (s.switch i).config = s.config ∧ (s.switch i).schedule = s.schedule ∧
      ∀ name ≠ DataStore.uploadtimestampFileName, (s.switch i).files name = s.files name := by
  by_cases h : s.appState = .standby
  · have hst : (s.switch i).store = s.store := by
      rw [switch, h]
      exact standby_store i s
    exact ⟨congrArg Store.config hst, congrArg Store.schedule hst,
      fun name _ => congrFun (congrArg Store.files hst) name⟩
  · have hk := switch_keeps_of_ne (i := i) h
    exact ⟨hk.config, hk.schedule, hk.files⟩

section IterateFrame

variable {α : Type*} (f : State → α)
  (hf : ∀ s d b l u g st w, f { s with
    lightDim := d
    lightDimBackup := b
    dimLevel := l
    uploadDim := u
    schedule := g
    status := st
    threadWatchdog := w } = f s)

include hf

theorem processLightSchedule_keeps (i : Inputs) (s : State) :
    f (s.processLightSchedule i) = f s := by
  unfold processLightSchedule
  induction List.finRange lightScheduleCountMax generalizing s with
  | nil => rfl
  | cons k ks ih =>
    rw [List.foldl_cons, ih, checkSchedule]
    split
    · exact hf s _ _ _ _ _ _ _
    · rfl

theorem iterate_frame {i : Inputs} {s : State} (h : (s.switch i).rebooting = false) :
    f (s.iterate i) = f (s.switch i) := by
  have hcheck (t : State) : f (t.checkThresholds i).kickThreadTimer = f t := hf t _ _ _ _ _ _ _
  rw [iterate, if_neg (by rw [h]; exact Bool.false_ne_true), hcheck]
  exact processLightSchedule_keeps f hf i _

end IterateFrame

theorem iterate_of_rebooting {i : Inputs} {s : State} (h : (s.switch i).rebooting = true) :
    s.iterate i = boot (s.switch i).files := by
  simp only [iterate, h, if_true]

theorem checkThresholds_same (i : Inputs) (s : State) : SameViews s (s.checkThresholds i) :=
  ⟨rfl, rfl, rfl, rfl⟩

theorem kickThreadTimer_same (s : State) : SameViews s s.kickThreadTimer := ⟨rfl, rfl, rfl, rfl⟩

theorem iterate_of_running {i : Inputs} {s : State} (h : (s.switch i).rebooting = false) :
    SameViews ((s.switch i).processLightSchedule i) (s.iterate i) := by
  simp only [iterate, h, Bool.false_eq_true, if_false]
  exact (checkThresholds_same i _).trans (kickThreadTimer_same _)

theorem iterate_link {i : Inputs} {s : State} (h : (s.switch i).rebooting = false) :
    (s.iterate i).link = (s.switch i).link := iterate_frame link (fun _ _ _ _ _ _ _ _ => rfl) h

theorem iterate_registration {i : Inputs} {s : State} (h : (s.switch i).rebooting = false) :
    (s.iterate i).registration = (s.switch i).registration :=
  iterate_frame registration (fun _ _ _ _ _ _ _ _ => rfl) h

theorem iterate_config {i : Inputs} {s : State} (h : (s.switch i).rebooting = false) :
    (s.iterate i).config = s.config := by
  rw [iterate_frame State.config (fun _ _ _ _ _ _ _ _ => rfl) h, (switch_keeps i s).1]

theorem iterate_files {i : Inputs} {s : State} (h : (s.switch i).rebooting = false)
    {name : String} (hn : name ≠ DataStore.uploadtimestampFileName) :
    (s.iterate i).files name = s.files name := by
  rw [iterate_frame State.files (fun _ _ _ _ _ _ _ _ => rfl) h, (switch_keeps i s).2.2 name hn]

end SlcNode.State
