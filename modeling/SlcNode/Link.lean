import SlcNode.Frame

namespace SlcNode

namespace Link

def DeregisterChanged (l : Link) : Prop :=
  l.deregister.keepOnline ≠ l.deregisterBackup.keepOnline ∨
    l.deregister.keepOnlineTime ≠ l.deregisterBackup.keepOnlineTime

instance (l : Link) : Decidable l.DeregisterChanged :=
  inferInstanceAs (Decidable (_ ∨ _))

def keepOnlineMillis (l : Link) : Millis := l.deregister.keepOnlineTime.setWidth 32 * 1000

def updateDeregister (l : Link) : Link :=
  if l.DeregisterChanged then
    { l with
      terminateUpload := if l.deregister.keepOnline then l.terminateUpload.stop
        else l.terminateUpload.launch l.keepOnlineMillis
      deregisterBackup :=
        { l.deregisterBackup with
          keepOnline := l.deregister.keepOnline
          keepOnlineTime := l.deregister.keepOnlineTime } }
  else l

def undoDevRegister (nodeRegistered : Byte) (l : Link) : Link :=
  if nodeRegistered = 0 then { l with appState := .waitNetworkConnect } else l

def toTerminateUpload (l : Link) : Link :=
  if l.terminateUpload.trigger then
    { l with appState := .toPelionDereg, terminateUpload := l.terminateUpload.consume }
  else l

def toFwUpdate (l : Link) : Link :=
  if l.fwUpdate then
    { l with terminateUpload := l.terminateUpload.stop, fwUpdating := true, fwUpdate := false }
  else l

def toFwUpdateTerminated (l : Link) : Link :=
  if l.fwUpdateTerminated then
    { l with
      terminateUpload := l.terminateUpload.launch l.keepOnlineMillis
      fwUpdating := false
      fwUpdateTerminated := false }
  else l

def readyToStandby (l : Link) : Link :=
  { l with
    terminateUpload :=
      if !l.deregister.keepOnline && !l.fwUpdating then l.terminateUpload.launch l.keepOnlineMillis
      else l.terminateUpload
    appState := .standby }

def standby (nodeRegistered : Byte) (l : Link) : Link :=
  l.updateDeregister |> undoDevRegister nodeRegistered |> toTerminateUpload |> toFwUpdate
    |> toFwUpdateTerminated

@[simp] theorem updateDeregister_rest (l : Link) :
    l.updateDeregister.deregister = l.deregister ∧
      l.updateDeregister.fwUpdating = l.fwUpdating ∧
      l.updateDeregister.fwUpdate = l.fwUpdate ∧
      l.updateDeregister.fwUpdateTerminated = l.fwUpdateTerminated ∧
      l.updateDeregister.appState = l.appState ∧
      l.updateDeregister.rebooting = l.rebooting := by
  unfold updateDeregister
  split <;> exact ⟨rfl, rfl, rfl, rfl, rfl, rfl⟩

@[simp] theorem undoDevRegister_rest (nodeRegistered : Byte) (l : Link) :
    (l.undoDevRegister nodeRegistered).deregister = l.deregister ∧
      (l.undoDevRegister nodeRegistered).terminateUpload = l.terminateUpload ∧
      (l.undoDevRegister nodeRegistered).fwUpdating = l.fwUpdating ∧
      (l.undoDevRegister nodeRegistered).fwUpdate = l.fwUpdate ∧
      (l.undoDevRegister nodeRegistered).fwUpdateTerminated = l.fwUpdateTerminated ∧
      (l.undoDevRegister nodeRegistered).rebooting = l.rebooting := by
  unfold undoDevRegister
  split <;> exact ⟨rfl, rfl, rfl, rfl, rfl, rfl⟩

@[simp] theorem toTerminateUpload_rest (l : Link) :
    l.toTerminateUpload.deregister = l.deregister ∧
      l.toTerminateUpload.fwUpdating = l.fwUpdating ∧
      l.toTerminateUpload.fwUpdate = l.fwUpdate ∧
      l.toTerminateUpload.fwUpdateTerminated = l.fwUpdateTerminated ∧
      l.toTerminateUpload.rebooting = l.rebooting := by
  unfold toTerminateUpload
  split <;> exact ⟨rfl, rfl, rfl, rfl, rfl⟩

@[simp] theorem toFwUpdate_rest (l : Link) :
    l.toFwUpdate.deregister = l.deregister ∧
      l.toFwUpdate.fwUpdateTerminated = l.fwUpdateTerminated ∧
      l.toFwUpdate.appState = l.appState ∧ l.toFwUpdate.rebooting = l.rebooting := by
  unfold toFwUpdate
  split <;> exact ⟨rfl, rfl, rfl, rfl⟩

@[simp] theorem toFwUpdateTerminated_rest (l : Link) :
    l.toFwUpdateTerminated.deregister = l.deregister ∧
      l.toFwUpdateTerminated.appState = l.appState ∧
      l.toFwUpdateTerminated.rebooting = l.rebooting := by
  unfold toFwUpdateTerminated
  split <;> exact ⟨rfl, rfl, rfl⟩

theorem updateDeregister_trigger (l : Link) :
    l.updateDeregister.terminateUpload.trigger = true ↔
      l.terminateUpload.trigger = true ∧
        ¬(l.DeregisterChanged ∧ l.deregister.keepOnline = true) := by
  unfold updateDeregister
  by_cases h : l.DeregisterChanged
  · cases hk : l.deregister.keepOnline <;> simp [h]
  · simp [h]

theorem standby_appState {nodeRegistered : Byte} {l : Link} (h : l.appState = .standby) :
    (l.standby nodeRegistered).appState = .toPelionDereg ↔
      l.updateDeregister.terminateUpload.trigger = true := by
  simp only [standby, toFwUpdateTerminated_rest, toFwUpdate_rest]
  unfold toTerminateUpload
  simp only [undoDevRegister_rest]
  split
  case isTrue ht => simp [ht]
  case isFalse ht =>
    unfold undoDevRegister
    split <;> simp [h, ht]

theorem standby_next (nodeRegistered : Byte) {l : Link} (h : l.appState = .standby) :
    (l.standby nodeRegistered).appState = .standby ∨
      (l.standby nodeRegistered).appState = .waitNetworkConnect ∨
      (l.standby nodeRegistered).appState = .toPelionDereg := by
  simp only [standby, toFwUpdateTerminated_rest, toFwUpdate_rest]
  unfold toTerminateUpload undoDevRegister
  split_ifs <;> simp [h]

theorem standby_fwUpdating (nodeRegistered : Byte) (l : Link) :
    (l.standby nodeRegistered).fwUpdating = true ↔
      (l.fwUpdating = true ∨ l.fwUpdate = true) ∧ l.fwUpdateTerminated = false := by
  simp only [standby]
  unfold toFwUpdateTerminated toFwUpdate
  cases ht : l.fwUpdateTerminated <;> cases hu : l.fwUpdate <;> simp [ht, hu]

end Link

namespace State

theorem updateDeregister_link (s : State) : s.updateDeregister.link = s.link.updateDeregister := by
  have ht : (if s.config.deregister.keepOnline then s.stopTimerTerminateUpload
      else s.relaunchTimerTerminateUpload) =
      { s with
        terminateUpload := if s.config.deregister.keepOnline then s.terminateUpload.stop
          else s.terminateUpload.launch s.link.keepOnlineMillis } := by
    split <;> rfl
  unfold updateDeregister
  simp only [ht]
  exact apply_ite link s.link.DeregisterChanged _ _

theorem undoDevRegister_link (s : State) :
    s.undoDevRegister.link = s.link.undoDevRegister s.config.nodeRegistered := by
  unfold undoDevRegister Link.undoDevRegister
  split <;> rfl

theorem toTerminateUpload_link (s : State) :
    s.toTerminateUpload.link = s.link.toTerminateUpload :=
  apply_ite link (s.terminateUpload.trigger = true) _ _

theorem toFwUpdate_link (s : State) : s.toFwUpdate.link = s.link.toFwUpdate :=
  apply_ite link (s.fwUpdate = true) _ _

theorem toFwUpdateTerminated_link (s : State) :
    s.toFwUpdateTerminated.link = s.link.toFwUpdateTerminated :=
  apply_ite link (s.fwUpdateTerminated = true) _ _

theorem standby_link (i : Inputs) (s : State) :
    (s.standby i).link = s.link.standby s.config.nodeRegistered := by
  have hstore : ((s.updateTimers i).updateDeregister.updateDim).store = s.store := by
    rw [(updateDim_views _).2.2, (updateDeregister_beside _).store, (updateTimers_same i s).store]
  have hconfig := congrArg Store.config hstore
  simp only [store] at hconfig
  rw [standby, toFwUpdateTerminated_link, toFwUpdate_link, toTerminateUpload_link,
    (toUpload_same i _).link, undoDevRegister_link, (updateDim_views _).1, updateDeregister_link,
    (updateTimers_same i s).link, hconfig, Link.standby]

theorem standby_appState (i : Inputs) (s : State) :
    (s.standby i).appState = (s.link.standby s.config.nodeRegistered).appState := by
  simp only [← standby_link i s, link_fields]

theorem uploadAll_link (i : Inputs) (s : State) : (s.uploadAll i).link = s.link := by
  have h1 (t : State) : t.stopTimerNodeRegister.link = t.link := rfl
  have h5 (t : State) :
      { t with configBackup.nodeRegistered := t.config.nodeRegistered }.link = t.link := rfl
  have h6 (t : State) : (t.updateUploadTimeStamp i.timestamp).link = t.link := rfl
  unfold uploadAll
  dsimp only
  split
  · rw [h6, h5, (relaunchTimerData_same _ _).link, (launchTimerStatus_same _ _).link,
      (uploads_same _ _).link, h1]
  · rw [h6, h5, (launchTimerStatus_same _ _).link, (uploads_same _ _).link, h1]

theorem readyToStandby_link (i : Inputs) (s : State) :
    (s.readyToStandby i).link = s.link.readyToStandby := by
  have hu : (if s.configBackup.nodeRegistered = 0 ∨ s.firstUploadDone = 0 then s.uploadAll i
      else s).link = s.link := by
    split
    · exact uploadAll_link i s
    · rfl
  unfold readyToStandby
  rw [← hu]
  generalize (if s.configBackup.nodeRegistered = 0 ∨ s.firstUploadDone = 0 then s.uploadAll i
    else s) = t
  have ht : (if !t.config.deregister.keepOnline && !t.fwUpdating then t.relaunchTimerTerminateUpload
      else t) =
      { t with
        terminateUpload := if !t.config.deregister.keepOnline && !t.fwUpdating then
            t.terminateUpload.launch t.link.keepOnlineMillis
          else t.terminateUpload } := by
    split <;> rfl
  simp only [ht]
  rfl

theorem readyToStandby_appState (i : Inputs) (s : State) :
    (s.readyToStandby i).appState = .standby := by
  have hlink := congrArg Link.appState (readyToStandby_link i s)
  simpa only [link_fields, Link.readyToStandby] using hlink

theorem switch_rebooting {i : Inputs} {s : State} (hs : s.appState ≠ .waitNetworkDisconnected) :
    (s.switch i).rebooting = s.rebooting := by
  unfold switch
  cases h : s.appState with
  | readyToIdle =>
    dsimp only [readyToIdle]
    split_ifs <;> rfl
  | idle =>
    dsimp only [idle]
    split <;> rfl
  | waitNetworkConnect =>
    dsimp only [waitNetworkConnect]
    cases i.netState <;> first | rfl | (dsimp only; split <;> rfl)
  | init => rfl
  | waitPelionReg =>
    dsimp only [waitPelionReg]
    split_ifs <;> rfl
  | waitResourceSubscribed =>
    dsimp only [waitResourceSubscribed]
    split_ifs <;> rfl
  | waitDevReg =>
    dsimp only [waitDevReg]
    cases s.devRegState with
    | init =>
      dsimp only
      split <;> rfl
    | waitReg =>
      dsimp only
      split_ifs <;> rfl
    | done => rfl
  | readyToStandby =>
    have hl := congrArg Link.rebooting (readyToStandby_link i s)
    simpa only [Link.readyToStandby, link_fields] using hl
  | standby =>
    have hl := congrArg Link.rebooting (standby_link i s)
    simpa only [Link.standby, Link.toFwUpdateTerminated_rest, Link.toFwUpdate_rest,
      Link.toTerminateUpload_rest, Link.undoDevRegister_rest, Link.updateDeregister_rest,
      link_fields] using hl
  | toPelionDereg => rfl
  | waitPelionDereg =>
    dsimp only [waitPelionDereg]
    split <;> rfl
  | waitNetworkDisconnected => exact absurd h hs
  | reset => rfl

def mode (s : State) : Bool × AppState × Bool := (s.rebooting, s.appState, s.fwUpdating)

theorem step_mode {s : State} {e : Event} (hr : restarts s e = false)
    (hi : ∀ i, e ≠ .iterate i) : mode (s.step e) = mode s := by
  cases e with
  | config put => exact config_keeps mode (fun _ _ _ _ => rfl) put s
  | threshold put => exact threshold_keeps mode (fun _ _ _ _ _ _ => rfl) put s
  | lightSchedule buff =>
    rw [step, updateLightSchedule]
    split <;> rfl
  | timer t => exact expire_keeps mode (fun _ _ _ _ _ _ _ _ => rfl) t s (fun _ => rfl) hr
  | iterate i => exact absurd rfl (hi i)
  | reboot => exact absurd hr Bool.noConfusion
  | lightDim | customAtCmd | fwUpdateTriggered | fwUpdateTerminated | kickAppTimer => rfl

theorem step_running {s : State} {e : Event} (h : s.rebooting = false) :
    (s.step e).rebooting = false := by
  cases hr : restarts s e with
  | true =>
    obtain ⟨files, he, -⟩ := step_of_restarts hr
    rw [he, boot_rebooting]
  | false =>
    by_cases hi : ∃ i, e = .iterate i
    · obtain ⟨i, rfl⟩ := hi
      have hlink := congrArg Link.rebooting (iterate_link hr)
      simp only [link_fields] at hlink
      exact hlink.trans hr
    · exact (congrArg Prod.fst (step_mode hr (not_exists.mp hi))).trans h

end State

end SlcNode
