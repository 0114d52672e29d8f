import SlcNode.Frame
import SlcNode.Library.EventRun

namespace SlcNode.ScheduleStore

open EventRun State

def loaded (files : Files) : ScheduleGroup := (zeroed files).restoreLightSchedule.schedule

def Fires (i : Inputs) (s : State) (k : Fin lightScheduleCountMax) : Prop :=
  (s.switch i).rebooting = false ∧ (s.schedule k).due (i.clock k) = true

def Survives (s : State) : Event → Prop
  | .iterate i => (∃ k, Fires i s k) → loaded (s.iterate i).files = (s.iterate i).schedule
  | _ => True

def FiresForeverOnly (s : State) : Event → Prop
  | .iterate i => ∀ k, Fires i s k → (s.schedule k).repeatCount = 0xFF
  | _ => True

def Synced (s : State) : Prop := loaded s.files = s.schedule

theorem restoreLightSchedule_schedule (s : State) :
    s.restoreLightSchedule.schedule = loaded s.files := by
  unfold loaded restoreLightSchedule
  dsimp only [zeroed]
  split_ifs <;> rfl

theorem loaded_congr {files files' : Files}
    (h : files DataStore.lightscheduleFileName = files' DataStore.lightscheduleFileName) :
    loaded files = loaded files' := by
  have hread := DataStore.readFile_congr h ScheduleGroup.buffLen
  unfold loaded restoreLightSchedule
  dsimp only [zeroed]
  rw [hread]
  split_ifs <;> rfl

theorem loaded_of_file {files : Files} {b : List Byte} (hb : b.length = ScheduleGroup.buffLen)
    (h : files DataStore.lightscheduleFileName = some b) :
    loaded files = ScheduleGroup.ofBuff b := by
  have hread := DataStore.readFile_of_length h hb
  unfold loaded restoreLightSchedule
  dsimp only [zeroed]
  rw [hread]
  split_ifs with h1
  · rfl
  · rfl
  · exact absurd ⟨rfl, rfl⟩ h1

theorem loaded_of_none {files : Files} (h : files DataStore.lightscheduleFileName = none) :
    loaded files = ScheduleGroup.empty := by
  unfold loaded restoreLightSchedule
  dsimp only [zeroed]
  rw [DataStore.readFile, h]
  rfl

theorem synced_restoreLightSchedule (s : State) : Synced s.restoreLightSchedule := by
  unfold Synced
  rw [restoreLightSchedule_schedule]
  by_cases hw : (DataStore.readFile s.files DataStore.lightscheduleFileName
      ScheduleGroup.buffLen).ret = ScheduleGroup.buffLen ∧
    (DataStore.readFile s.files DataStore.lightscheduleFileName ScheduleGroup.buffLen).remain = 0
  · obtain ⟨hfile, hlen⟩ := DataStore.readFile_whole (by decide) hw.1 hw.2
    by_cases hz : ∀ b ∈ (DataStore.readFile s.files DataStore.lightscheduleFileName
        ScheduleGroup.buffLen).buff, b = 0
    · have hfiles : s.restoreLightSchedule.files =
          DataStore.removeFile s.files DataStore.lightscheduleFileName := by
        rw [restoreLightSchedule, if_pos hw, if_pos hz]
      rw [hfiles, loaded_of_none (DataStore.removeFile_self ..), loaded_of_file hlen hfile,
        ScheduleGroup.ofBuff_zero hz]
    · rw [restoreLightSchedule, if_pos hw, if_neg hz]
  · rw [restoreLightSchedule, if_neg hw]

theorem synced_boot (files : Files) : Synced (boot files) := by
  have h := synced_restoreLightSchedule (zeroed files).restoreConfig
  rw [Synced, (boot_same files).files, (boot_same files).schedule]
  exact h

theorem synced_updateLightSchedule {buff : List Byte} {s : State} (h : Synced s) :
    Synced (s.updateLightSchedule buff) := by
  unfold updateLightSchedule
  split
  · rw [Synced, loaded_of_file (ScheduleGroup.buff_length _) (DataStore.writeFile_self ..),
      ScheduleGroup.ofBuff_buff]
  · exact h

theorem checkSchedule_schedule (now : DateTime) (k : Fin lightScheduleCountMax) (s : State) :
    (s.checkSchedule now k).schedule =
      Function.update s.schedule k
        (if (s.schedule k).due now then (s.schedule k).fired else s.schedule k) := by
  unfold checkSchedule
  split
  · rfl
  · exact (Function.update_eq_self k s.schedule).symm

theorem processLightSchedule_schedule (i : Inputs) (s : State) :
    (s.processLightSchedule i).schedule = fun k =>
      if (s.schedule k).due (i.clock k) then (s.schedule k).fired else s.schedule k := by
  have hfold (ks : List (Fin lightScheduleCountMax)) (hn : ks.Nodup) (t : State) :
      (ks.foldl (fun s k => s.checkSchedule (i.clock k) k) t).schedule = fun k =>
        if k ∈ ks ∧ (t.schedule k).due (i.clock k) = true then (t.schedule k).fired
        else t.schedule k := by
    induction ks generalizing t with
    | nil => simp
    | cons j ks ih =>
      obtain ⟨hj, hks⟩ := List.nodup_cons.mp hn
      rw [List.foldl_cons, ih hks, checkSchedule_schedule]
      funext k
      by_cases hk : k = j
      · subst hk
        simp [hj]
      · simp [hk]
  rw [processLightSchedule, hfold _ (List.nodup_finRange _)]
  funext k
  simp

theorem iterate_schedule {i : Inputs} {s : State} (h : (s.switch i).rebooting = false) :
    (s.iterate i).schedule = fun k =>
      if (s.schedule k).due (i.clock k) then (s.schedule k).fired else s.schedule k := by
  rw [(iterate_of_running h).schedule, processLightSchedule_schedule, (switch_keeps i s).2.1]

theorem iterate_schedule_eq_iff {i : Inputs} {s : State} (h : (s.switch i).rebooting = false) :
    (s.iterate i).schedule = s.schedule ↔ FiresForeverOnly s (.iterate i) := by
  rw [iterate_schedule h, funext_iff]
  constructor
  · intro heq k hk
    have hfired := heq k
    rw [if_pos hk.2] at hfired
    exact (ScheduleEntry.fired_eq_self_iff (ScheduleEntry.enable_of_due hk.2)).mp hfired
  · intro hff k
    split
    case isTrue hdue =>
      exact (ScheduleEntry.fired_eq_self_iff (ScheduleEntry.enable_of_due hdue)).mpr
        (hff k ⟨h, hdue⟩)
    case isFalse => rfl

theorem iterate_loaded {i : Inputs} {s : State} (h : (s.switch i).rebooting = false)
    (hs : Synced s) : loaded (s.iterate i).files = s.schedule :=
  (loaded_congr (iterate_files h (by decide))).trans hs

theorem survives_iff (s : State) (e : Event) (hs : Synced s) :
    Survives s e ↔ FiresForeverOnly s e := by
  cases e with
  | iterate i =>
    cases h : (s.switch i).rebooting with
    | true => exact ⟨fun _ k hk => absurd hk.1 (by simp [h]), fun _ ⟨k, hk⟩ => absurd hk.1 (by simp [h])⟩
    | false =>
      rw [← iterate_schedule_eq_iff h, Survives, iterate_loaded h hs]
      constructor
      · intro hsur
        by_cases hex : ∃ k, Fires i s k
        · exact (hsur hex).symm
        · exact (iterate_schedule_eq_iff h).mpr fun k hk => absurd ⟨k, hk⟩ hex
      · exact fun heq _ => heq.symm
  | _ => exact Iff.rfl

theorem synced_of_eq {s t : State} (hs : t.schedule = s.schedule)
    (hf : t.files DataStore.lightscheduleFileName = s.files DataStore.lightscheduleFileName)
    (h : Synced s) : Synced t := by
  rw [Synced, loaded_congr hf, hs]
  exact h

theorem synced_step (s : State) (e : Event) (h : Synced s) (hg : FiresForeverOnly s e) :
    Synced (s.step e) := by
  have hne : DataStore.lightscheduleFileName ≠ DataStore.sysconfigFileName := by decide
  cases hr : restarts s e with
  | true =>
    obtain ⟨files, he, -⟩ := step_of_restarts hr
    rw [he]
    exact synced_boot files
  | false =>
    cases e with
    | config put =>
      have hs : (put.apply s).schedule = s.schedule :=
        config_keeps State.schedule (fun _ _ _ _ => rfl) put s
      have hf : (put.apply s).files DataStore.lightscheduleFileName =
          s.files DataStore.lightscheduleFileName :=
        config_keeps (fun s => s.files DataStore.lightscheduleFileName)
          (fun t _ _ content => Function.update_of_ne hne content t.files) put s
      exact synced_of_eq hs hf h
    | threshold put =>
      have hs := threshold_keeps State.schedule (fun _ _ _ _ _ _ => rfl) put s
      have hf := threshold_keeps (fun s => s.files DataStore.lightscheduleFileName)
        (fun t _ _ content _ hn => Function.update_of_ne hn.symm content t.files) put s
      exact synced_of_eq hs hf h
    | lightSchedule buff => exact synced_updateLightSchedule h
    | timer t =>
      have hs := expire_keeps State.schedule (fun _ _ _ _ _ _ _ _ => rfl) t s (fun _ => rfl) hr
      have hf := expire_keeps State.files (fun _ _ _ _ _ _ _ _ => rfl) t s (fun _ => rfl) hr
      exact synced_of_eq hs (congrFun hf _) h
    | iterate i =>
      exact synced_of_eq ((iterate_schedule_eq_iff hr).mpr hg) (iterate_files hr (by decide)) h
    | reboot => exact absurd hr Bool.noConfusion
    | lightDim | customAtCmd | fwUpdateTriggered | fwUpdateTerminated | kickAppTimer => exact h

theorem survives_run_iff (files : Files) (es : List Event) :
    Throughout step Survives (boot files) es ↔
      Throughout step FiresForeverOnly (boot files) es :=
  throughout_iff_guard synced_step survives_iff (synced_boot files)

def twiceAtMinute34 : List Byte :=
  [255, 255, 255, 255, 255, 34, 0, 1, 50, 1] ++ List.replicate 50 0

def atMinute34 : Inputs := { quiet with clock := fun _ => realTime 1560407648 }

theorem twice_not_survives :
    ¬Throughout step Survives (boot fun _ => none)
      [.lightSchedule twiceAtMinute34, .iterate atMinute34] := by
  rintro ⟨-, h, -⟩
  have hloaded := congrFun (h ⟨0, by decide, by decide⟩) 0
  exact absurd (congrArg ScheduleEntry.repeatCount hloaded) (by decide)

end SlcNode.ScheduleStore
