import SlcNode.PassFrame
import SlcNode.CallFrame
import SlcNode.BootFrame

namespace SlcNode.State

theorem step_of_restarts {s : State} {e : Event} (h : restarts s e = true) :
    ∃ files, s.step e = boot files ∧
      ∀ name ≠ DataStore.uploadtimestampFileName, files name = s.files name := by
  cases e with
  | timer t =>
    cases t with
    | systemWatchdog | threadWatchdog => exact ⟨s.files, if_pos h, fun _ _ => rfl⟩
    | _ => exact absurd h Bool.false_ne_true
  | iterate i => exact ⟨(s.switch i).files, iterate_of_rebooting h, (switch_keeps i s).2.2⟩
  | reboot => exact ⟨s.files, rfl, fun _ _ => rfl⟩
  | _ => exact absurd h Bool.false_ne_true

theorem expire_keeps {α : Type*} (f : State → α)
    (hf : ∀ s lt lu nr us ud ls m, f { s with
      launchTimer := lt
      launchUpload := lu
      nodeRegister := nr
      uploadStatus := us
      uploadData := ud
      lightSensor := ls
      mcuMode := m } = f s)
    (t : Timer) (s : State)
    (ht : t = .terminateUpload → f { s with terminateUpload := s.terminateUpload.expire } = f s)
    (h : restarts s (.timer t) = false) : f (s.expire t) = f s := by
  cases t with
  | launchUpload =>
    rw [expire]
    split
    · exact hf s _ _ _ _ _ _ _
    · rfl
  | terminateUpload => exact ht rfl
  | nodeRegister => exact hf s _ _ _ _ _ _ _
  | status => exact hf s _ _ _ _ _ _ _
  | data => exact hf s _ _ _ _ _ _ _
  | lightSensorMode =>
    rw [expire]
    split
    · exact hf s _ _ _ _ _ _ _
    · rfl
  | systemWatchdog => exact congrArg f (if_neg (by simpa [restarts] using h))
  | threadWatchdog => exact congrArg f (if_neg (by simpa [restarts] using h))

theorem step_config_cases (s : State) (e : Event) :
    (∃ put, e = .config put) ∨
      ((s.step e).config = s.config ∧
        (s.step e).files DataStore.sysconfigFileName = s.files DataStore.sysconfigFileName) ∨
      ∃ files, s.step e = boot files ∧
        files DataStore.sysconfigFileName = s.files DataStore.sysconfigFileName := by
  cases hr : restarts s e with
  | true =>
    obtain ⟨files, he, hf⟩ := step_of_restarts hr
    exact Or.inr (Or.inr ⟨files, he, hf _ (by decide)⟩)
  | false =>
    cases e with
    | config put => exact Or.inl ⟨put, rfl⟩
    | threshold put =>
      have hc := threshold_keeps State.config (fun _ _ _ _ _ _ => rfl) put s
      have hf := threshold_keeps (fun s => s.files DataStore.sysconfigFileName)
        (fun t _ _ content hn _ => Function.update_of_ne hn.symm content t.files) put s
      exact Or.inr (Or.inl ⟨hc, hf⟩)
    | lightSchedule buff =>
      refine Or.inr (Or.inl ?_)
      rw [step, updateLightSchedule]
      split
      · have hn : DataStore.sysconfigFileName ≠ DataStore.lightscheduleFileName := by decide
        exact ⟨rfl, DataStore.writeFile_of_ne s.files (ScheduleGroup.buff (.ofBuff buff)) hn⟩
      · exact ⟨rfl, rfl⟩
    | timer t =>
      have hc := expire_keeps State.config (fun _ _ _ _ _ _ _ _ => rfl) t s (fun _ => rfl) hr
      have hf := expire_keeps State.files (fun _ _ _ _ _ _ _ _ => rfl) t s (fun _ => rfl) hr
      exact Or.inr (Or.inl ⟨hc, congrFun hf _⟩)
    | iterate i => exact Or.inr (Or.inl ⟨iterate_config hr, iterate_files hr (by decide)⟩)
    | reboot => exact absurd hr Bool.noConfusion
    | lightDim | customAtCmd | fwUpdateTriggered | fwUpdateTerminated | kickAppTimer =>
      exact Or.inr (Or.inl ⟨rfl, rfl⟩)

end SlcNode.State
