import SlcNode.Library.OneShotTrace
import SlcNode.Link

namespace SlcNode

open EventRun OneShot

abbrev TimerOp := OneShot.Op Millis

namespace Link

def keepOnlineLaunch (l : Link) : TimerOp := .launch l.keepOnlineMillis

def updateDeregisterOps (l : Link) : List TimerOp :=
  if l.DeregisterChanged then
    if l.deregister.keepOnline then [.stop] else [l.keepOnlineLaunch]
  else []

def toTerminateUploadOps (l : Link) : List TimerOp :=
  if l.terminateUpload.trigger then [.act] else []

def toFwUpdateOps (l : Link) : List TimerOp := if l.fwUpdate then [.stop] else []

def toFwUpdateTerminatedOps (l : Link) : List TimerOp :=
  if l.fwUpdateTerminated then [l.keepOnlineLaunch] else []

def standbyOps (l : Link) : List TimerOp :=
  l.updateDeregisterOps ++ (l.updateDeregister.toTerminateUploadOps ++
    (l.toFwUpdateOps ++ l.toFwUpdateTerminatedOps))

theorem updateDeregister_ops (l : Link) :
    l.updateDeregister.terminateUpload = run Op.apply l.terminateUpload l.updateDeregisterOps := by
  unfold updateDeregister updateDeregisterOps
  split_ifs
  · rfl
  · rfl
  · rfl

theorem toTerminateUpload_ops (l : Link) :
    l.toTerminateUpload.terminateUpload =
      run Op.apply l.terminateUpload l.toTerminateUploadOps := by
  unfold toTerminateUpload toTerminateUploadOps
  split <;> rfl

theorem toFwUpdate_ops (l : Link) :
    l.toFwUpdate.terminateUpload = run Op.apply l.terminateUpload l.toFwUpdateOps := by
  unfold toFwUpdate toFwUpdateOps
  split <;> rfl

theorem toFwUpdateTerminated_ops (l : Link) :
    l.toFwUpdateTerminated.terminateUpload =
      run Op.apply l.terminateUpload l.toFwUpdateTerminatedOps := by
  unfold toFwUpdateTerminated toFwUpdateTerminatedOps
  split <;> rfl

theorem standby_ops (nodeRegistered : Byte) (l : Link) :
    (l.standby nodeRegistered).terminateUpload = run Op.apply l.terminateUpload l.standbyOps := by
  have hterm : (l.updateDeregister.undoDevRegister nodeRegistered).toTerminateUploadOps =
      l.updateDeregister.toTerminateUploadOps := by
    simp only [toTerminateUploadOps, undoDevRegister_rest]
  have hfw : (l.updateDeregister.undoDevRegister nodeRegistered).toTerminateUpload.toFwUpdateOps =
      l.toFwUpdateOps := by
    simp only [toFwUpdateOps, toTerminateUpload_rest, undoDevRegister_rest, updateDeregister_rest]
  have hend : (l.updateDeregister.undoDevRegister nodeRegistered
      ).toTerminateUpload.toFwUpdate.toFwUpdateTerminatedOps = l.toFwUpdateTerminatedOps := by
    simp only [toFwUpdateTerminatedOps, keepOnlineLaunch, keepOnlineMillis, toFwUpdate_rest,
      toTerminateUpload_rest, undoDevRegister_rest, updateDeregister_rest]
  rw [standby, toFwUpdateTerminated_ops, hend, toFwUpdate_ops, hfw, toTerminateUpload_ops, hterm,
    (undoDevRegister_rest _ _).2.1, updateDeregister_ops, standbyOps, run_append, run_append,
    run_append]

theorem toTerminateUploadOps_possible (l : Link) :
    Throughout Op.apply Op.Possible l.terminateUpload l.toTerminateUploadOps := by
  unfold toTerminateUploadOps
  split
  case isTrue ht => exact ⟨ht, trivial⟩
  case isFalse => trivial

theorem standbyOps_possible (l : Link) :
    Throughout Op.apply Op.Possible l.terminateUpload l.standbyOps := by
  have hdereg : ∀ op ∈ l.updateDeregisterOps, op.plain = true := by
    unfold updateDeregisterOps
    split_ifs <;> simp [Op.plain, keepOnlineLaunch]
  have hfw : ∀ op ∈ l.toFwUpdateOps ++ l.toFwUpdateTerminatedOps, op.plain = true := by
    unfold toFwUpdateOps toFwUpdateTerminatedOps
    split_ifs <;> simp [Op.plain, keepOnlineLaunch]
  rw [standbyOps, throughout_append, throughout_append, ← updateDeregister_ops]
  exact ⟨possible_of_plain hdereg _, toTerminateUploadOps_possible _, possible_of_plain hfw _⟩

end Link

namespace State

def regWatchdogLaunch (s : State) : TimerOp :=
  .launch (s.config.regWatchdogTimeoutSec.setWidth 32 * 1000)

def noderegWatchdogLaunch : TimerOp := .launch (10 * 60 * 1000)

/-- What a pass does to the terminate timer, state by state. The error states of the network clear
the trigger without looking at it. -/
def passOps (i : Inputs) (s : State) : List TimerOp :=
  let onTrigger (otherwise : List TimerOp) : List TimerOp :=
    if s.terminateUpload.trigger then [.act] else otherwise
  match s.appState with
  | .idle => if s.launchUpload then [s.regWatchdogLaunch] else []
  | .waitNetworkConnect =>
    match i.netState with
    | .connected => []
    | .error | .errorReboot => [.clear]
    | .connecting | .disconnected | .raiDisconnected | .detachDisconnected => onTrigger []
  | .init => [s.regWatchdogLaunch]
  | .waitPelionReg => if i.registered && !i.paused then [s.regWatchdogLaunch] else onTrigger []
  | .waitResourceSubscribed =>
    if i.allSubscribed then [noderegWatchdogLaunch]
    else onTrigger (if s.fwUpdate then [.stop]
      else if s.fwUpdateTerminated then [s.regWatchdogLaunch] else [])
  | .waitDevReg =>
    match s.devRegState with
    | .waitReg =>
      if s.config.nodeRegistered ≠ 0 then [.stop]
      else if s.nodeRegister.trigger then []
      else onTrigger (if s.fwUpdate then [.stop]
        else if s.fwUpdateTerminated then [noderegWatchdogLaunch] else [])
    | .init | .done => []
  | .readyToStandby =>
    if !s.config.deregister.keepOnline && !s.fwUpdating then [s.link.keepOnlineLaunch] else []
  | .standby => s.link.standbyOps
  | .reset | .readyToIdle | .toPelionDereg | .waitPelionDereg | .waitNetworkDisconnected => []

def terminateOps (s : State) : Event → List TimerOp
  | .timer .terminateUpload => if s.terminateUpload.armed then [.expire] else []
  | .iterate i => s.passOps i
  | _ => []

theorem switch_ops (i : Inputs) (s : State) :
    (s.switch i).terminateUpload = run Op.apply s.terminateUpload (s.passOps i) := by
  unfold switch passOps
  cases h : s.appState with
  | readyToIdle =>
    dsimp only [readyToIdle]
    split_ifs <;> rfl
  | idle =>
    dsimp only [idle]
    split <;> rfl
  | waitNetworkConnect =>
    dsimp only [waitNetworkConnect]
    cases i.netState <;> first | rfl | (dsimp only; split <;> rfl)
  | init => rfl
  | waitPelionReg =>
    dsimp only [waitPelionReg]
    split_ifs <;> rfl
  | waitResourceSubscribed =>
    dsimp only [waitResourceSubscribed]
    split_ifs <;> rfl
  | waitDevReg =>
    dsimp only [waitDevReg]
    cases s.devRegState with
    | init =>
      dsimp only
      split <;> rfl
    | waitReg =>
      dsimp only
      split_ifs <;> rfl
    | done => rfl
  | readyToStandby =>
    have hl := congrArg Link.terminateUpload (readyToStandby_link i s)
    simp only [link_fields] at hl
    dsimp only
    rw [hl, Link.readyToStandby]
    simp only [link_fields]
    split <;> rfl
  | standby =>
    have hl := congrArg Link.terminateUpload (standby_link i s)
    simp only [link_fields] at hl
    exact hl.trans (Link.standby_ops _ _)
  | toPelionDereg => rfl
  | waitPelionDereg =>
    dsimp only [waitPelionDereg]
    split <;> rfl
  | waitNetworkDisconnected =>
    dsimp only [waitNetworkDisconnected]
    cases i.netState <;> first | rfl | (dsimp only; split <;> rfl)
  | reset => rfl

theorem passOps_possible (i : Inputs) (s : State) :
    Throughout Op.apply Op.Possible s.terminateUpload (s.passOps i) := by
  have hact (ops : List TimerOp) (h : ∀ op ∈ ops, op.plain = true) :
      Throughout Op.apply Op.Possible s.terminateUpload
        (if s.terminateUpload.trigger then [.act] else ops) := by
    split
    case isTrue ht => exact ⟨ht, trivial⟩
    case isFalse => exact possible_of_plain h _
  unfold passOps
  cases s.appState with
  | idle =>
    dsimp only
    split <;> simp [Op.Possible, regWatchdogLaunch]
  | waitNetworkConnect =>
    cases i.netState with
    | connected => trivial
    | error | errorReboot => exact ⟨trivial, trivial⟩
    | connecting | disconnected | raiDisconnected | detachDisconnected => exact hact [] (by simp)
  | init => exact ⟨trivial, trivial⟩
  | waitPelionReg =>
    dsimp only
    split
    · exact ⟨trivial, trivial⟩
    · exact hact [] (by simp)
  | waitResourceSubscribed =>
    dsimp only
    split
    · exact ⟨trivial, trivial⟩
    · refine hact _ ?_
      split_ifs <;> simp [Op.plain, regWatchdogLaunch]
  | waitDevReg =>
    cases s.devRegState with
    | init | done => trivial
    | waitReg =>
      dsimp only
      split
      · exact ⟨trivial, trivial⟩
      · split
        · trivial
        · refine hact _ ?_
          split_ifs <;> simp [Op.plain, noderegWatchdogLaunch]
  | readyToStandby =>
    dsimp only
    split
    · exact ⟨trivial, trivial⟩
    · trivial
  | standby => exact Link.standbyOps_possible s.link
  | reset | readyToIdle | toPelionDereg | waitPelionDereg | waitNetworkDisconnected => trivial

end State

end SlcNode
