import SlcNode.Views

namespace SlcNode.State

theorem restoreConfig_files {s : State} {name : String} (hn : name ≠ DataStore.sysconfigFileName) :
    s.restoreConfig.files name = s.files name := by
  unfold restoreConfig
  dsimp only
  split
  · rfl
  · exact DataStore.writeFile_of_ne _ _ hn

theorem restoreOne_same (t : Threshold) (file : String) (default : BitVec 32) (s : State) :
    SameViews s (s.restoreOne t file default) := ⟨rfl, rfl, rfl, rfl⟩

theorem restoreThreshold_same (s : State) : SameViews s s.restoreThreshold := by
  unfold restoreThreshold
  iterate 11 refine .trans ?_ (restoreOne_same _ _ _ _)
  exact restoreOne_same _ _ _ s

theorem boot_same (files : Files) :
    SameViews (zeroed files).restoreConfig.restoreLightSchedule (boot files) := by
  have h1 (s : State) : SameViews s s.relaunchTimerLightSensorMode := ⟨rfl, rfl, rfl, rfl⟩
  have h2 (s : State) : SameViews s s.relaunchTimerSystemWatchdog := ⟨rfl, rfl, rfl, rfl⟩
  have h3 (s : State) : SameViews s s.relaunchTimerThreadWatchdog := ⟨rfl, rfl, rfl, rfl⟩
  unfold boot
  refine .trans ?_ (h3 _)
  refine .trans ?_ (h2 _)
  refine .trans ?_ (h1 _)
  exact restoreThreshold_same _

theorem restoreLightSchedule_keeps {α : Type*} (f : State → α)
    (hf : ∀ s g (c : Option (List Byte)), f { s with
      schedule := g
      files := Function.update s.files DataStore.lightscheduleFileName c } = f s) (s : State) :
    f s.restoreLightSchedule = f s := by
  have hs (t : State) (g : ScheduleGroup) : f { t with schedule := g } = f t := by
    simpa only [Function.update_eq_self] using hf t g (t.files DataStore.lightscheduleFileName)
  unfold restoreLightSchedule
  dsimp only
  split_ifs
  · exact hf s _ none
  · exact hs s _
  · exact hs s _

theorem boot_frame {α : Type*} (f : State → α)
    (hf : ∀ s th ls sw tw, f { s with
      threshold := th
      lightSensor := ls
      systemWatchdog := sw
      threadWatchdog := tw } = f s)
    (hs : ∀ s g (c : Option (List Byte)), f { s with
      schedule := g
      files := Function.update s.files DataStore.lightscheduleFileName c } = f s) (files : Files) :
    f (boot files) = f (zeroed files).restoreConfig := by
  have hone (t : Threshold) (file : String) (default : BitVec 32) (s : State) :
      f (s.restoreOne t file default) = f s := hf s _ _ _ _
  have hthreshold (s : State) : f s.restoreThreshold = f s := by
    simp only [restoreThreshold, hone]
  have hlight (s : State) : f s.relaunchTimerLightSensorMode = f s := hf s _ _ _ _
  have hsystem (s : State) : f s.relaunchTimerSystemWatchdog = f s := hf s _ _ _ _
  have hthread (s : State) : f s.relaunchTimerThreadWatchdog = f s := hf s _ _ _ _
  rw [boot, hthread, hsystem, hlight, hthreshold]
  exact restoreLightSchedule_keeps f hs _

theorem boot_config (files : Files) :
    (boot files).config = (zeroed files).restoreConfig.config :=
  boot_frame State.config (fun _ _ _ _ _ => rfl) (fun _ _ _ => rfl) files

theorem boot_files (files : Files) {name : String} (hn : name ≠ DataStore.lightscheduleFileName) :
    (boot files).files name = (zeroed files).restoreConfig.files name :=
  boot_frame (fun s => s.files name) (fun _ _ _ _ _ => rfl)
    (fun _ _ _ => Function.update_of_ne hn ..) files

theorem boot_link (files : Files) :
    ∃ d b, (boot files).link = ⟨d, b, .idle, false, false, false, .readyToIdle, .init, false⟩ := by
  rw [boot_frame link (fun _ _ _ _ _ => rfl) (fun _ _ _ => rfl), restoreConfig]
  split <;> exact ⟨_, _, rfl⟩

theorem boot_appState (files : Files) : (boot files).appState = .readyToIdle := by
  obtain ⟨d, b, hboot⟩ := boot_link files
  exact congrArg Link.appState hboot

theorem boot_rebooting (files : Files) : (boot files).rebooting = false := by
  obtain ⟨d, b, hboot⟩ := boot_link files
  exact congrArg Link.rebooting hboot

theorem boot_terminateUpload (files : Files) : (boot files).terminateUpload = .idle := by
  obtain ⟨d, b, hboot⟩ := boot_link files
  exact congrArg Link.terminateUpload hboot

theorem boot_lamp (files : Files) : (boot files).lamp = (zeroed files).lamp := by
  rw [boot_frame lamp (fun _ _ _ _ _ => rfl) (fun _ _ _ => rfl), restoreConfig]
  split <;> rfl

theorem boot_registration (files : Files) :
    (boot files).registration = (zeroed files).restoreConfig.registration :=
  boot_frame registration (fun _ _ _ _ _ => rfl) (fun _ _ _ => rfl) files

end SlcNode.State
