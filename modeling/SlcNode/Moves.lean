import SlcNode.Link

namespace SlcNode

def NetState.isDown : NetState → Bool
  | .disconnected | .raiDisconnected | .detachDisconnected => true
  | .connecting | .connected | .error | .errorReboot => false

inductive Moves (i : Inputs) (s : State) : AppState → List PelionRequest → Prop
  | stay : Moves i s s.appState []
  | toIdle : s.appState = .readyToIdle → Moves i s .idle []
  | toRestart : s.appState = .idle → Moves i s .waitNetworkConnect [.toRestart]
  | connected : s.appState = .waitNetworkConnect → i.netState = .connected → Moves i s .init []
  | failed : s.appState = .waitNetworkConnect → i.netState = .error ∨ i.netState = .errorReboot →
      Moves i s .toPelionDereg []
  | gaveUp : s.appState = .waitNetworkConnect → s.terminateUpload.trigger = true →
      Moves i s .toPelionDereg []
  | toRegister : s.appState = .init → Moves i s .waitPelionReg []
  | registered : s.appState = .waitPelionReg → i.registered = true → i.paused = false →
      Moves i s .waitResourceSubscribed []
  | subscribed : s.appState = .waitResourceSubscribed → Moves i s .waitDevReg []
  | devRegistered : s.appState = .waitDevReg → Moves i s .readyToStandby []
  | toStandby : s.appState = .readyToStandby → Moves i s .standby []
  | undone : s.appState = .standby → Moves i s .waitNetworkConnect []
  | terminated : s.appState = .waitPelionReg ∨ s.appState = .waitResourceSubscribed ∨
      s.appState = .waitDevReg ∨ s.appState = .standby → Moves i s .toPelionDereg []
  | toDeregister : s.appState = .toPelionDereg →
      Moves i s .waitPelionDereg [.toDeregister s.config.deregister.disconnectType]
  | deregistered : s.appState = .waitPelionDereg → i.registered = false ∨ i.paused = true →
      Moves i s .waitNetworkDisconnected []
  | disconnected : s.appState = .waitNetworkDisconnected → i.netState.isDown = true →
      Moves i s .readyToIdle []

namespace State

theorem ite_requests {c : Prop} [Decidable c] {s t : State} (h : t.requests = s.requests) :
    (if c then t else s).requests = s.requests := by
  split
  · exact h
  · rfl

theorem updatePeriodTimer_requests (p : Period) (s : State) :
    (s.updatePeriodTimer p).requests = s.requests := by
  cases p <;> exact ite_requests rfl

theorem updateStatusTimer_requests (i : Inputs) (s : State) :
    (s.updateStatusTimer i).requests = s.requests := ite_requests rfl

theorem updateDataTimer_requests (i : Inputs) (s : State) :
    (s.updateDataTimer i).requests = s.requests := by
  refine ite_requests ?_
  dsimp only
  split <;> rfl

theorem updateTimers_requests (i : Inputs) (s : State) :
    (s.updateTimers i).requests = s.requests := by
  have hsystem (t : State) : t.updateSystemWatchdogTimer.requests = t.requests := ite_requests rfl
  have hregister (t : State) : t.updateRegisterWatchdogTimer.requests = t.requests :=
    ite_requests rfl
  have hlight (t : State) : t.updateLightSensorModeTimer.requests = t.requests := ite_requests rfl
  rw [updateTimers, updateDataTimer_requests, updateStatusTimer_requests, updateNodeRegisterTimer,
    updatePeriodTimer_requests, updateCycleUploadProcedureTimer, updatePeriodTimer_requests,
    updateFirstUploadProcedureTimer, updatePeriodTimer_requests, hlight, hregister, hsystem]

theorem toUpload_requests (i : Inputs) (s : State) : (s.toUpload i).requests = s.requests := by
  have hstatus (t : State) : (t.toUploadStatus i).requests = t.requests := ite_requests rfl
  have hdata (t : State) : (t.toUploadData i).requests = t.requests := ite_requests rfl
  have hdim (t : State) : t.toUploadDim.requests = t.requests := ite_requests rfl
  have hcmd (t : State) : t.toUploadCustomAtCmd.requests = t.requests := ite_requests rfl
  rw [toUpload, hcmd, hdim, hdata, hstatus]

theorem standby_requests (i : Inputs) (s : State) : (s.standby i).requests = s.requests := by
  have hdereg (t : State) : t.updateDeregister.requests = t.requests := by
    refine ite_requests ?_
    dsimp only
    split <;> rfl
  have hdim (t : State) : t.updateDim.requests = t.requests := ite_requests rfl
  have hundo (t : State) : t.undoDevRegister.requests = t.requests := ite_requests rfl
  have hterm (t : State) : t.toTerminateUpload.requests = t.requests := ite_requests rfl
  have hfw (t : State) : t.toFwUpdate.requests = t.requests := ite_requests rfl
  have hend (t : State) : t.toFwUpdateTerminated.requests = t.requests := ite_requests rfl
  rw [standby, hend, hfw, hterm, toUpload_requests, hundo, hdim, hdereg, updateTimers_requests]

theorem uploads_requests (us : List Upload) (s : State) :
    (us.foldl (fun s u => s.upload u) s).requests = s.requests := by
  induction us generalizing s with
  | nil => rfl
  | cons u us ih => exact ih (s.upload u)

theorem uploadAll_requests (i : Inputs) (s : State) : (s.uploadAll i).requests = s.requests := by
  have hdata (t : State) : (if t.config.cycleUploadDataEnable ≠ 0 then t.relaunchTimerData (i.rand 6)
      else t).requests = t.requests := ite_requests rfl
  have hstatus (t : State) : (t.launchTimerStatus (i.rand 5)).requests = t.requests := rfl
  have hend (t : State) :
      ({ t with configBackup.nodeRegistered := t.config.nodeRegistered }.updateUploadTimeStamp
        i.timestamp).requests = t.requests := rfl
  have hstop : s.stopTimerNodeRegister.requests = s.requests := rfl
  rw [uploadAll, hend, hdata, hstatus, uploads_requests, hstop]

theorem readyToStandby_requests (i : Inputs) (s : State) :
    (s.readyToStandby i).requests = s.requests := by
  have hall : (if s.configBackup.nodeRegistered = 0 ∨ s.firstUploadDone = 0 then s.uploadAll i
      else s).requests = s.requests := ite_requests (uploadAll_requests i s)
  unfold readyToStandby
  generalize (if s.configBackup.nodeRegistered = 0 ∨ s.firstUploadDone = 0 then s.uploadAll i
    else s) = t at hall ⊢
  rw [← hall]
  dsimp only
  split <;> rfl

theorem waitNetworkConnect_moves (i : Inputs) {s : State} (hs : s.appState = .waitNetworkConnect) :
    Moves i s (s.waitNetworkConnect i).appState [] := by
  unfold waitNetworkConnect
  cases hn : i.netState with
  | connected => exact .connected hs hn
  | error => exact .failed hs (.inl hn)
  | errorReboot => exact .failed hs (.inr hn)
  | connecting | disconnected | raiDisconnected | detachDisconnected =>
    dsimp only
    split
    · next ht => exact .gaveUp hs ht
    · exact .stay

theorem waitPelionReg_moves (i : Inputs) {s : State} (hs : s.appState = .waitPelionReg) :
    Moves i s (s.waitPelionReg i).appState [] := by
  unfold waitPelionReg
  split_ifs with hreg
  · have hreg : i.registered = true ∧ i.paused = false := by simpa using hreg
    exact .registered hs hreg.1 hreg.2
  · exact .terminated (.inl hs)
  · exact .stay

theorem waitResourceSubscribed_moves (i : Inputs) {s : State}
    (hs : s.appState = .waitResourceSubscribed) :
    Moves i s (s.waitResourceSubscribed i).appState [] := by
  unfold waitResourceSubscribed
  split_ifs
  · exact .subscribed hs
  · exact .terminated (.inr (.inl hs))
  · exact .stay
  · exact .stay
  · exact .stay

theorem waitDevReg_moves (i : Inputs) {s : State} (hs : s.appState = .waitDevReg) :
    Moves i s (s.waitDevReg i).appState [] := by
  unfold waitDevReg
  cases s.devRegState with
  | done => exact .devRegistered hs
  | init =>
    dsimp only
    split <;> exact .stay
  | waitReg =>
    dsimp only
    split_ifs
    · exact .stay
    · exact .stay
    · exact .terminated (.inr (.inr (.inl hs)))
    · exact .stay
    · exact .stay
    · exact .stay

theorem standby_moves (i : Inputs) {s : State} (hs : s.appState = .standby) :
    Moves i s (s.standby i).appState [] := by
  rw [standby_appState]
  rcases Link.standby_next s.config.nodeRegistered (l := s.link) hs with h | h | h
  · rw [h, ← hs]
    exact .stay
  · rw [h]
    exact .undone hs
  · rw [h]
    exact .terminated (.inr (.inr (.inr hs)))

theorem waitNetworkDisconnected_moves (i : Inputs) {s : State}
    (hs : s.appState = .waitNetworkDisconnected) :
    Moves i s (s.waitNetworkDisconnected i).appState [] := by
  unfold waitNetworkDisconnected
  cases hn : i.netState with
  | disconnected | raiDisconnected | detachDisconnected =>
    exact .disconnected hs (by rw [hn]; rfl)
  | connecting | connected | error | errorReboot =>
    dsimp only
    split <;> exact .stay

theorem waitDevReg_requests (i : Inputs) (s : State) : (s.waitDevReg i).requests = s.requests := by
  unfold waitDevReg
  cases s.devRegState with
  | init =>
    dsimp only
    split <;> rfl
  | waitReg =>
    dsimp only
    split_ifs <;> rfl
  | done => rfl

theorem switch_moves (i : Inputs) (s : State) :
    ∃ asked, (s.switch i).requests = s.requests ++ asked ∧ Moves i s (s.switch i).appState asked := by
  unfold switch
  cases hs : s.appState with
  | readyToIdle =>
    refine ⟨[], ?_, ?_⟩
    · dsimp only [readyToIdle]
      rw [List.append_nil]
      split_ifs <;> rfl
    · exact .toIdle hs
  | idle =>
    dsimp only [idle]
    split
    · exact ⟨_, rfl, .toRestart hs⟩
    · exact ⟨[], (List.append_nil _).symm, .stay⟩
  | waitNetworkConnect =>
    refine ⟨[], ?_, waitNetworkConnect_moves i hs⟩
    dsimp only [waitNetworkConnect]
    rw [List.append_nil]
    cases i.netState <;> first | rfl | exact ite_requests rfl
  | init => exact ⟨[], (List.append_nil _).symm, .toRegister hs⟩
  | waitPelionReg =>
    refine ⟨[], ?_, waitPelionReg_moves i hs⟩
    dsimp only [waitPelionReg]
    rw [List.append_nil]
    split_ifs <;> rfl
  | waitResourceSubscribed =>
    refine ⟨[], ?_, waitResourceSubscribed_moves i hs⟩
    dsimp only [waitResourceSubscribed]
    rw [List.append_nil]
    split_ifs <;> rfl
  | waitDevReg =>
    exact ⟨[], by rw [waitDevReg_requests, List.append_nil], waitDevReg_moves i hs⟩
  | readyToStandby =>
    refine ⟨[], by rw [readyToStandby_requests, List.append_nil], ?_⟩
    rw [readyToStandby_appState]
    exact .toStandby hs
  | standby => exact ⟨[], by rw [standby_requests, List.append_nil], standby_moves i hs⟩
  | toPelionDereg => exact ⟨_, rfl, .toDeregister hs⟩
  | waitPelionDereg =>
    dsimp only [waitPelionDereg]
    split
    · next h =>
      have h : i.registered = false ∨ i.paused = true := by simpa using h
      exact ⟨[], (List.append_nil _).symm, .deregistered hs h⟩
    · exact ⟨[], (List.append_nil _).symm, .stay⟩
  | waitNetworkDisconnected =>
    refine ⟨[], ?_, waitNetworkDisconnected_moves i hs⟩
    dsimp only [waitNetworkDisconnected]
    rw [List.append_nil]
    cases i.netState <;> first | rfl | (dsimp only; split <;> rfl)
  | reset => exact ⟨[], (List.append_nil _).symm, .stay⟩

theorem iterate_moves {i : Inputs} {s : State} (h : (s.switch i).rebooting = false) :
    ∃ asked, (s.iterate i).requests = s.requests ++ asked ∧
      Moves i s (s.iterate i).appState asked := by
  rw [iterate_frame State.requests (fun _ _ _ _ _ _ _ _ => rfl) h,
    iterate_frame State.appState (fun _ _ _ _ _ _ _ _ => rfl) h]
  exact switch_moves i s

def Publishes (a : AppState) : Prop := a = .waitDevReg ∨ a = .readyToStandby ∨ a = .standby

theorem iterate_unpublished {i : Inputs} {s : State} (h : (s.switch i).rebooting = false)
    (hs : ¬Publishes s.appState) : (s.iterate i).uploads = s.uploads := by
  rw [iterate_frame State.uploads (fun _ _ _ _ _ _ _ _ => rfl) h]
  by_cases hl : OnlyLink s.appState
  · exact switch_frame State.uploads (fun _ _ _ _ _ _ _ _ _ _ _ _ => rfl) hl
  · unfold switch
    cases ha : s.appState with
    | init | toPelionDereg => rfl
    | waitDevReg => exact absurd (.inl ha) hs
    | readyToStandby => exact absurd (.inr (.inl ha)) hs
    | standby => exact absurd (.inr (.inr ha)) hs
    | _ => exact absurd (show OnlyLink s.appState by rw [ha]; decide) hl

theorem step_still {s : State} {e : Event} (hr : restarts s e = false)
    (hi : ∀ i, e ≠ .iterate i) :
    (s.step e).appState = s.appState ∧ (s.step e).uploads = s.uploads ∧
      (s.step e).requests = s.requests := by
  refine ⟨congrArg (fun m => m.2.1) (step_mode hr hi), ?_⟩
  have hkeeps : ((s.step e).uploads, (s.step e).requests) = (s.uploads, s.requests) := by
    cases e with
    | config put => exact config_keeps (fun s => (s.uploads, s.requests)) (fun _ _ _ _ => rfl) put s
    | threshold put =>
      exact threshold_keeps (fun s => (s.uploads, s.requests)) (fun _ _ _ _ _ _ => rfl) put s
    | lightSchedule buff =>
      rw [step, updateLightSchedule]
      split <;> rfl
    | timer t =>
      exact expire_keeps (fun s => (s.uploads, s.requests)) (fun _ _ _ _ _ _ _ _ => rfl) t s
        (fun _ => rfl) hr
    | iterate i => exact absurd rfl (hi i)
    | reboot => exact absurd hr Bool.noConfusion
    | lightDim | customAtCmd | fwUpdateTriggered | fwUpdateTerminated | kickAppTimer => rfl
  exact ⟨congrArg Prod.fst hkeeps, congrArg Prod.snd hkeeps⟩

end State

end SlcNode
