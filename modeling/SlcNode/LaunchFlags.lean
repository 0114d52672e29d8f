import SlcNode.Frame
import SlcNode.Registration
import SlcNode.TerminateTrace

namespace SlcNode

open EventRun OneShot

inductive LaunchFlag
  | terminateUpload
  | nodeRegister
  | status
  | data
deriving DecidableEq

def LaunchFlag.timer : LaunchFlag → Timer
  | .terminateUpload => .terminateUpload
  | .nodeRegister => .nodeRegister
  | .status => .status
  | .data => .data

namespace State

def oneShot : LaunchFlag → State → OneShot Millis
  | .terminateUpload, s => s.terminateUpload
  | .nodeRegister, s => s.nodeRegister
  | .status, s => s.uploadStatus
  | .data, s => s.uploadData

def nodeRegisterLaunch (r : ℕ) (s : State) : TimerOp :=
  .launch (s.config.cycleUploadNoderegister.millis r)

def statusLaunch (r : ℕ) (s : State) : TimerOp := .launch (s.config.cycleUploadStatus.millis r)

def dataLaunch (r : ℕ) (s : State) : TimerOp := .launch (s.config.cycleUploadData.millis r)

def nodeRegisterOps (i : Inputs) (s : State) : List TimerOp :=
  match s.appState with
  | .init => [.clear]
  | .waitDevReg =>
    if s.config.nodeRegistered ≠ 0 then []
    else
      match s.devRegState with
      | .init => [s.nodeRegisterLaunch (i.rand 3)]
      | .waitReg =>
        if s.nodeRegister.trigger then [s.nodeRegisterLaunch (i.rand 4), .act] else []
      | .done => []
  | .readyToStandby => if s.registration.ToPublish then [.stop] else []
  | .toPelionDereg => [.stop]
  | .reset | .readyToIdle | .idle | .waitNetworkConnect | .waitPelionReg | .waitResourceSubscribed
  | .standby | .waitPelionDereg | .waitNetworkDisconnected => []

def updateStatusTimerOps (i : Inputs) (s : State) : List TimerOp :=
  if (s.config.cycle .status).cycleTime ≠ (s.configBackup.cycle .status).cycleTime then
    [.stop, s.statusLaunch (i.rand 7)]
  else []

def updateDataTimerOps (i : Inputs) (s : State) : List TimerOp :=
  if s.config.cycleUploadDataEnable ≠ s.configBackup.cycleUploadDataEnable ∨
      s.config.cycleUploadData.random ≠ s.configBackup.cycleUploadData.random ∨
      s.config.cycleUploadData.cycleTime ≠ s.configBackup.cycleUploadData.cycleTime ∨
      s.config.cycleUploadData.diffTime ≠ s.configBackup.cycleUploadData.diffTime then
    if s.config.cycleUploadDataEnable ≠ 0 then [s.dataLaunch (i.rand 8)] else [.stop]
  else []

def toUploadStatusOps (i : Inputs) (s : State) : List TimerOp :=
  if s.uploadStatus.trigger then [s.statusLaunch (i.rand 9), .act] else []

def toUploadDataOps (i : Inputs) (s : State) : List TimerOp :=
  if s.uploadData.trigger then [s.dataLaunch (i.rand 10), .act] else []

def updateOtherTimers (s : State) : State :=
  s |> updateSystemWatchdogTimer |> updateRegisterWatchdogTimer |> updateLightSensorModeTimer
    |> updateFirstUploadProcedureTimer |> updateCycleUploadProcedureTimer
    |> updateNodeRegisterTimer

def updateRest (s : State) : State := s |> updateDeregister |> updateDim |> undoDevRegister

def uploadStatusOps (i : Inputs) (s : State) : List TimerOp :=
  match s.appState with
  | .readyToStandby => if s.registration.ToPublish then [s.statusLaunch (i.rand 5)] else []
  | .standby =>
    s.updateOtherTimers.updateStatusTimerOps i ++ (s.updateTimers i).updateRest.toUploadStatusOps i
  | .reset | .readyToIdle | .idle | .waitNetworkConnect | .init | .waitPelionReg
  | .waitResourceSubscribed | .waitDevReg | .toPelionDereg | .waitPelionDereg
  | .waitNetworkDisconnected => []

def uploadDataOps (i : Inputs) (s : State) : List TimerOp :=
  match s.appState with
  | .readyToStandby =>
    if s.registration.ToPublish then
      if s.config.cycleUploadDataEnable ≠ 0 then [s.dataLaunch (i.rand 6)] else []
    else []
  | .standby =>
    (s.updateOtherTimers.updateStatusTimer i).updateDataTimerOps i ++
      ((s.updateTimers i).updateRest.toUploadStatus i).toUploadDataOps i
  | .reset | .readyToIdle | .idle | .waitNetworkConnect | .init | .waitPelionReg
  | .waitResourceSubscribed | .waitDevReg | .toPelionDereg | .waitPelionDereg
  | .waitNetworkDisconnected => []

def flagOps (i : Inputs) : LaunchFlag → State → List TimerOp
  | .terminateUpload => passOps i
  | .nodeRegister => nodeRegisterOps i
  | .status => uploadStatusOps i
  | .data => uploadDataOps i

def timerOps (n : LaunchFlag) (s : State) : Event → List TimerOp
  | .timer t => if t = n.timer then if (s.oneShot n).armed then [.expire] else [] else []
  | .iterate i => flagOps i n s
  | _ => []

def uploadTimers (s : State) : OneShot Millis × OneShot Millis := (s.uploadStatus, s.uploadData)

theorem updatePeriodTimer_uploadTimers (p : Period) (s : State) :
    (s.updatePeriodTimer p).uploadTimers = s.uploadTimers := by
  unfold updatePeriodTimer
  split <;> rfl

theorem updateOtherTimers_uploadTimers (s : State) :
    s.updateOtherTimers.uploadTimers = s.uploadTimers := by
  have hsystem (t : State) : t.updateSystemWatchdogTimer.uploadTimers = t.uploadTimers := by
    unfold updateSystemWatchdogTimer
    split <;> rfl
  have hregister (t : State) : t.updateRegisterWatchdogTimer.uploadTimers = t.uploadTimers := by
    unfold updateRegisterWatchdogTimer
    split <;> rfl
  have hlight (t : State) : t.updateLightSensorModeTimer.uploadTimers = t.uploadTimers := by
    unfold updateLightSensorModeTimer
    split <;> rfl
  rw [updateOtherTimers, updateNodeRegisterTimer, updatePeriodTimer_uploadTimers,
    updateCycleUploadProcedureTimer, updatePeriodTimer_uploadTimers, updateFirstUploadProcedureTimer,
    updatePeriodTimer_uploadTimers, hlight, hregister, hsystem]

theorem updateRest_uploadTimers (s : State) : s.updateRest.uploadTimers = s.uploadTimers := by
  have hdereg (t : State) : t.updateDeregister.uploadTimers = t.uploadTimers := by
    unfold updateDeregister
    dsimp only
    split_ifs <;> rfl
  have hdim (t : State) : t.updateDim.uploadTimers = t.uploadTimers := by
    unfold updateDim
    split <;> rfl
  have hundo (t : State) : t.undoDevRegister.uploadTimers = t.uploadTimers := by
    unfold undoDevRegister
    split <;> rfl
  rw [updateRest, hundo, hdim, hdereg]

def standbyEnd (s : State) : State :=
  s |> toUploadDim |> toUploadCustomAtCmd |> toTerminateUpload |> toFwUpdate |> toFwUpdateTerminated

theorem standbyEnd_uploadTimers (s : State) : s.standbyEnd.uploadTimers = s.uploadTimers := by
  have hdim (t : State) : t.toUploadDim.uploadTimers = t.uploadTimers := by
    unfold toUploadDim
    split <;> rfl
  have hcustom (t : State) : t.toUploadCustomAtCmd.uploadTimers = t.uploadTimers := by
    unfold toUploadCustomAtCmd
    split <;> rfl
  have hterminate (t : State) : t.toTerminateUpload.uploadTimers = t.uploadTimers := by
    unfold toTerminateUpload
    split <;> rfl
  have hupdate (t : State) : t.toFwUpdate.uploadTimers = t.uploadTimers := by
    unfold toFwUpdate
    split <;> rfl
  have hterminated (t : State) : t.toFwUpdateTerminated.uploadTimers = t.uploadTimers := by
    unfold toFwUpdateTerminated
    split <;> rfl
  rw [standbyEnd, hterminated, hupdate, hterminate, hcustom, hdim]

theorem standby_blocks (i : Inputs) (s : State) :
    s.standby i = (((s.updateOtherTimers.updateStatusTimer i).updateDataTimer i).updateRest
      |> toUploadStatus i |> toUploadData i).standbyEnd := rfl

theorem updateTimers_blocks (i : Inputs) (s : State) :
    s.updateTimers i = (s.updateOtherTimers.updateStatusTimer i).updateDataTimer i := rfl

theorem updateStatusTimer_ops (i : Inputs) (s : State) :
    (s.updateStatusTimer i).uploadStatus =
        run Op.apply s.uploadStatus (s.updateStatusTimerOps i) ∧
      (s.updateStatusTimer i).uploadData = s.uploadData := by
  unfold updateStatusTimer updateStatusTimerOps
  split <;> exact ⟨rfl, rfl⟩

theorem updateDataTimer_ops (i : Inputs) (s : State) :
    (s.updateDataTimer i).uploadData = run Op.apply s.uploadData (s.updateDataTimerOps i) ∧
      (s.updateDataTimer i).uploadStatus = s.uploadStatus := by
  unfold updateDataTimer updateDataTimerOps
  dsimp only
  split_ifs <;> exact ⟨rfl, rfl⟩

theorem toUploadStatus_ops (i : Inputs) (s : State) :
    (s.toUploadStatus i).uploadStatus = run Op.apply s.uploadStatus (s.toUploadStatusOps i) ∧
      (s.toUploadStatus i).uploadData = s.uploadData := by
  unfold toUploadStatus toUploadStatusOps
  split <;> exact ⟨rfl, rfl⟩

theorem toUploadData_ops (i : Inputs) (s : State) :
    (s.toUploadData i).uploadData = run Op.apply s.uploadData (s.toUploadDataOps i) ∧
      (s.toUploadData i).uploadStatus = s.uploadStatus := by
  unfold toUploadData toUploadDataOps
  split <;> exact ⟨rfl, rfl⟩

theorem standby_upload_ops (i : Inputs) {s : State} (h : s.appState = .standby) :
    (s.standby i).uploadStatus = run Op.apply s.uploadStatus (s.uploadStatusOps i) ∧
      (s.standby i).uploadData = run Op.apply s.uploadData (s.uploadDataOps i) := by
  obtain ⟨hstatus, hdata⟩ := Prod.mk.inj (updateOtherTimers_uploadTimers s)
  obtain ⟨hstatusRest, hdataRest⟩ := Prod.mk.inj (updateRest_uploadTimers (s.updateTimers i))
  obtain ⟨hstatusEnd, hdataEnd⟩ := Prod.mk.inj (standbyEnd_uploadTimers
    (((s.updateTimers i).updateRest.toUploadStatus i).toUploadData i))
  rw [standby_blocks, ← updateTimers_blocks, uploadStatusOps, uploadDataOps, h]
  constructor
  · rw [hstatusEnd, (toUploadData_ops i _).2, (toUploadStatus_ops i _).1, hstatusRest,
      updateTimers_blocks, (updateDataTimer_ops i _).2, (updateStatusTimer_ops i _).1, hstatus,
      run_append]
  · rw [hdataEnd, (toUploadData_ops i _).1, (toUploadStatus_ops i _).2, hdataRest,
      updateTimers_blocks, (updateDataTimer_ops i _).1, (updateStatusTimer_ops i _).2, hdata,
      run_append]

theorem uploads_uploadTimers (us : List Upload) (s : State) :
    (us.foldl (fun s u => s.upload u) s).uploadTimers = s.uploadTimers := by
  induction us generalizing s with
  | nil => rfl
  | cons u us ih => exact ih (s.upload u)

theorem uploadAll_ops (i : Inputs) (s : State) :
    (s.uploadAll i).uploadStatus = run Op.apply s.uploadStatus [s.statusLaunch (i.rand 5)] ∧
      (s.uploadAll i).uploadData = run Op.apply s.uploadData
        (if s.config.cycleUploadDataEnable ≠ 0 then [s.dataLaunch (i.rand 6)] else []) := by
  have hconfig := (uploads_same s.fullUploadList s.stopTimerNodeRegister).config
  obtain ⟨hstatus, hdata⟩ := Prod.mk.inj (uploads_uploadTimers s.fullUploadList s.stopTimerNodeRegister)
  unfold uploadAll
  generalize s.fullUploadList.foldl (fun s u => s.upload u) s.stopTimerNodeRegister = t at *
  have hconf : t.config = s.config := hconfig
  have hs : t.uploadStatus = s.uploadStatus := hstatus
  have hd : t.uploadData = s.uploadData := hdata
  rw [← hconf, ← hs, ← hd, statusLaunch, dataLaunch, ← hconf]
  dsimp only [launchTimerStatus]
  split <;> exact ⟨rfl, rfl⟩

theorem readyToStandby_upload_ops (i : Inputs) {s : State} (h : s.appState = .readyToStandby) :
    (s.readyToStandby i).uploadStatus = run Op.apply s.uploadStatus (s.uploadStatusOps i) ∧
      (s.readyToStandby i).uploadData = run Op.apply s.uploadData (s.uploadDataOps i) := by
  obtain ⟨hstatus, hdata⟩ := uploadAll_ops i s
  unfold readyToStandby
  rw [uploadStatusOps, uploadDataOps, h]
  dsimp only
  by_cases hpub : s.registration.ToPublish
  · have hc : s.configBackup.nodeRegistered = 0 ∨ s.firstUploadDone = 0 := hpub
    rw [if_pos hc, if_pos hpub, if_pos hpub, ← hstatus, ← hdata]
    split <;> exact ⟨rfl, rfl⟩
  · have hc : ¬(s.configBackup.nodeRegistered = 0 ∨ s.firstUploadDone = 0) := hpub
    rw [if_neg hc, if_neg hpub, if_neg hpub]
    split <;> exact ⟨rfl, rfl⟩

theorem switch_uploadTimers {i : Inputs} {s : State} (hready : s.appState ≠ .readyToStandby)
    (hstandby : s.appState ≠ .standby) : (s.switch i).uploadTimers = s.uploadTimers := by
  by_cases hl : OnlyLink s.appState
  · exact switch_frame uploadTimers (fun _ _ _ _ _ _ _ _ _ _ _ _ => rfl) hl
  unfold switch
  cases h : s.appState with
  | init | toPelionDereg => rfl
  | waitDevReg =>
    dsimp only [waitDevReg]
    cases s.devRegState with
    | init =>
      dsimp only
      split <;> rfl
    | waitReg =>
      dsimp only
      split_ifs <;> rfl
    | done => rfl
  | readyToStandby => exact absurd h hready
  | standby => exact absurd h hstandby
  | _ => exact absurd (show OnlyLink s.appState by rw [h]; decide) hl

theorem uploadOps_of_ne (i : Inputs) {s : State} (hready : s.appState ≠ .readyToStandby)
    (hstandby : s.appState ≠ .standby) : s.uploadStatusOps i = [] ∧ s.uploadDataOps i = [] := by
  unfold uploadStatusOps uploadDataOps
  cases h : s.appState with
  | readyToStandby => exact absurd h hready
  | standby => exact absurd h hstandby
  | _ => exact ⟨rfl, rfl⟩

theorem switch_upload_ops (i : Inputs) (s : State) :
    (s.switch i).uploadStatus = run Op.apply s.uploadStatus (s.uploadStatusOps i) ∧
      (s.switch i).uploadData = run Op.apply s.uploadData (s.uploadDataOps i) := by
  by_cases hready : s.appState = .readyToStandby
  · have hs : s.switch i = s.readyToStandby i := by rw [switch, hready]
    rw [hs]
    exact readyToStandby_upload_ops i hready
  by_cases hstandby : s.appState = .standby
  · have hs : s.switch i = s.standby i := by rw [switch, hstandby]
    rw [hs]
    exact standby_upload_ops i hstandby
  · obtain ⟨hstatus, hdata⟩ := uploadOps_of_ne i hready hstandby
    rw [hstatus, hdata]
    exact Prod.mk.inj (switch_uploadTimers hready hstandby)

theorem waitDevReg_nodeRegister_ops (i : Inputs) {s : State} (h : s.appState = .waitDevReg) :
    (s.waitDevReg i).nodeRegister = run Op.apply s.nodeRegister (s.nodeRegisterOps i) := by
  rw [nodeRegisterOps, h]
  unfold waitDevReg
  cases s.devRegState with
  | init =>
    dsimp only
    split_ifs <;> first | rfl | contradiction
  | waitReg =>
    dsimp only
    split_ifs <;> rfl
  | done =>
    dsimp only
    split <;> rfl

theorem switch_nodeRegister_ops (i : Inputs) (s : State) :
    (s.switch i).nodeRegister = run Op.apply s.nodeRegister (s.nodeRegisterOps i) := by
  by_cases hl : OnlyLink s.appState
  · have hkept := congrArg Registration.nodeRegister (switch_beside (i := i) hl).registration
    have hnone : s.nodeRegisterOps i = [] := by
      unfold nodeRegisterOps
      obtain ⟨hinit, hreg, hready, hstandby, hdereg⟩ := hl
      split <;> first | rfl | contradiction
    rw [hnone]
    exact hkept
  unfold switch
  cases h : s.appState with
  | init =>
    rw [nodeRegisterOps, h]
    rfl
  | waitDevReg => exact waitDevReg_nodeRegister_ops i h
  | readyToStandby =>
    have hready := congrArg Registration.nodeRegister (readyToStandby_registration i s).1
    simp only [registration_fields, Registration.readyToStandby_nodeRegister] at hready
    rw [nodeRegisterOps, h]
    dsimp only
    rw [hready]
    split <;> rfl
  | standby =>
    have hstandby := congrArg Registration.nodeRegister (standby_registration i s)
    simp only [registration_fields, Registration.undoDevRegister_nodeRegister] at hstandby
    rw [nodeRegisterOps, h]
    exact hstandby
  | toPelionDereg =>
    rw [nodeRegisterOps, h]
    rfl
  | _ => exact absurd (show OnlyLink s.appState by rw [h]; decide) hl

theorem switch_flagOps (i : Inputs) (n : LaunchFlag) (s : State) :
    (s.switch i).oneShot n = run Op.apply (s.oneShot n) (flagOps i n s) := by
  cases n with
  | terminateUpload => exact switch_ops i s
  | nodeRegister => exact switch_nodeRegister_ops i s
  | status => exact (switch_upload_ops i s).1
  | data => exact (switch_upload_ops i s).2

theorem iterate_oneShot {i : Inputs} (n : LaunchFlag) {s : State}
    (h : (s.switch i).rebooting = false) : (s.iterate i).oneShot n = (s.switch i).oneShot n :=
  iterate_frame (oneShot n) (fun _ _ _ _ _ _ _ _ => by cases n <;> rfl) h

theorem expire_oneShot (n : LaunchFlag) {t : Timer} {s : State}
    (h : restarts s (.timer t) = false) :
    (s.expire t).oneShot n = if t = n.timer then (s.oneShot n).expire else s.oneShot n := by
  cases t with
  | terminateUpload | nodeRegister | status | data => cases n <;> rfl
  | launchUpload | lightSensorMode =>
    rw [expire]
    split <;> cases n <;> rfl
  | systemWatchdog | threadWatchdog =>
    rw [expire, if_neg (by simpa [restarts] using h)]
    cases n <;> rfl

theorem step_timerOps {s : State} {e : Event} (n : LaunchFlag) (h : restarts s e = false) :
    (s.step e).oneShot n = run Op.apply (s.oneShot n) (timerOps n s e) := by
  cases e with
  | config put => exact config_keeps (oneShot n) (fun _ _ _ _ => by cases n <;> rfl) put s
  | threshold put =>
    exact threshold_keeps (oneShot n) (fun _ _ _ _ _ _ => by cases n <;> rfl) put s
  | lightSchedule buff =>
    rw [step, updateLightSchedule]
    split <;> cases n <;> rfl
  | timer t =>
    rw [step, expire_oneShot n h, timerOps]
    by_cases ht : t = n.timer
    · rw [if_pos ht, if_pos ht]
      split
      case isTrue => rfl
      case isFalse hoff => exact if_neg hoff
    · rw [if_neg ht, if_neg ht]
      rfl
  | iterate i => exact (iterate_oneShot n h).trans (switch_flagOps i n s)
  | reboot => exact absurd h Bool.noConfusion
  | lightDim | customAtCmd | fwUpdateTriggered | fwUpdateTerminated | kickAppTimer =>
    cases n <;> rfl

theorem terminateOps_eq (s : State) (e : Event) :
    s.terminateOps e = timerOps .terminateUpload s e := by
  cases e with
  | timer t => cases t <;> rfl
  | _ => rfl

theorem boot_oneShot (n : LaunchFlag) (files : Files) : (boot files).oneShot n = .idle := by
  have hboot := boot_frame (oneShot n) (fun _ _ _ _ _ => by cases n <;> rfl)
    (fun _ _ _ => by cases n <;> rfl) files
  rw [hboot, restoreConfig]
  split <;> cases n <;> rfl

end State

namespace LaunchFlags

open State

def history (s : State) (e : Event) (ops : LaunchFlag → List TimerOp) :
    LaunchFlag → List TimerOp :=
  if restarts s e then fun _ => [] else fun n => ops n ++ timerOps n s e

def Traced (p : State × (LaunchFlag → List TimerOp)) : Prop :=
  ∀ n, p.1.oneShot n = run Op.apply .idle (p.2 n)

theorem traced_step (p : State × (LaunchFlag → List TimerOp)) (e : Event) (h : Traced p) :
    Traced (withHistory step history p e) := by
  intro n
  unfold withHistory history
  cases hr : restarts p.1 e with
  | true =>
    obtain ⟨files, he, -⟩ := step_of_restarts hr
    simp only [he, if_true]
    exact boot_oneShot n files
  | false =>
    simp only [Bool.false_eq_true, if_false]
    rw [step_timerOps n hr, h n, ← run_append]

theorem traced_run (files : Files) (es : List Event) :
    Traced (run (withHistory step history) (boot files, fun _ => []) es) := by
  have hboot : Traced (boot files, fun _ => []) := fun n => boot_oneShot n files
  exact inv_every_run traced_step hboot es

theorem flags_exact (files : Files) (es : List Event) (n : LaunchFlag) :
    let p := run (withHistory step history) (boot files, fun _ => []) es
    Follows (p.1.oneShot n) (p.2 n) := by
  intro p
  have htraced : p.1.oneShot n = run Op.apply .idle (p.2 n) := traced_run files es n
  rw [htraced]
  exact follows_run (p.2 n)

end LaunchFlags

end SlcNode
