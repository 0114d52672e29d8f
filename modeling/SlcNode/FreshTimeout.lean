import SlcNode.LaunchFlags

namespace SlcNode

open EventRun OneShot

theorem Link.act_mem_standbyOps (l : Link) :
    .act ∈ l.standbyOps ↔ l.updateDeregister.terminateUpload.trigger = true := by
  unfold standbyOps updateDeregisterOps toTerminateUploadOps toFwUpdateOps toFwUpdateTerminatedOps
  split_ifs <;> simp_all [keepOnlineLaunch]

namespace State

def NetworkError (i : Inputs) (s : State) : Prop :=
  s.appState = .waitNetworkConnect ∧ (i.netState = .error ∨ i.netState = .errorReboot)

instance (i : Inputs) (s : State) : Decidable (s.NetworkError i) :=
  inferInstanceAs (Decidable (_ ∧ _))

theorem uploadNodeRegister_appState (r : ℕ) (s : State) :
    (s.uploadNodeRegister r).appState = s.appState := rfl

theorem act_iff (i : Inputs) (s : State) :
    .act ∈ s.passOps i ↔
      (s.switch i).appState = .toPelionDereg ∧ ¬s.NetworkError i := by
  unfold switch passOps NetworkError
  cases h : s.appState with
  | readyToIdle =>
    simp [readyToIdle]
  | idle =>
    dsimp only [idle]
    split <;> simp [h, regWatchdogLaunch]
  | waitNetworkConnect =>
    dsimp only [waitNetworkConnect]
    cases i.netState with
    | connected => simp
    | error | errorReboot => simp
    | connecting | disconnected | raiDisconnected | detachDisconnected =>
      dsimp only
      split <;> simp [h, toPelionDeregOnTerminate]
  | init => simp [init, regWatchdogLaunch, relaunchTimerRegWatchdog]
  | waitPelionReg =>
    dsimp only [waitPelionReg]
    split_ifs <;> simp [h, regWatchdogLaunch, toPelionDeregOnTerminate]
  | waitResourceSubscribed =>
    dsimp only [waitResourceSubscribed]
    split_ifs <;> simp [h, regWatchdogLaunch, noderegWatchdogLaunch, relaunchTimerRegWatchdog,
      startFwUpdating, stopTimerTerminateUpload, endFwUpdating, toPelionDeregOnTerminate]
  | waitDevReg =>
    dsimp only [waitDevReg]
    cases s.devRegState with
    | init =>
      dsimp only
      split <;> simp [h, uploadNodeRegister_appState]
    | waitReg =>
      dsimp only
      split_ifs <;> simp [h, noderegWatchdogLaunch, uploadNodeRegister_appState,
        relaunchTimerNoderegWatchdog, startFwUpdating, stopTimerTerminateUpload, endFwUpdating,
        toPelionDeregOnTerminate]
    | done => simp
  | readyToStandby =>
    dsimp only
    rw [readyToStandby_appState]
    split <;> simp [Link.keepOnlineLaunch]
  | standby =>
    simp only [Link.act_mem_standbyOps, standby_appState, Link.standby_appState (l := s.link) h]
    simp
  | toPelionDereg => simp [toPelionDereg]
  | waitPelionDereg =>
    dsimp only [waitPelionDereg]
    split <;> simp [h]
  | waitNetworkDisconnected =>
    dsimp only [waitNetworkDisconnected]
    cases i.netState <;> simp [h] <;> split <;> simp [osReboot]
  | reset => simp [h]

theorem step_ops {s : State} {e : Event} (h : restarts s e = false) :
    (s.step e).terminateUpload = run Op.apply s.terminateUpload (s.terminateOps e) := by
  rw [terminateOps_eq]
  exact step_timerOps .terminateUpload h

theorem terminateOps_possible (s : State) (e : Event) :
    Throughout Op.apply Op.Possible s.terminateUpload (s.terminateOps e) := by
  cases e with
  | iterate i => exact passOps_possible i s
  | timer t =>
    cases t with
    | terminateUpload =>
      change Throughout Op.apply Op.Possible s.terminateUpload
        (if s.terminateUpload.armed then [.expire] else [])
      split
      case isTrue harmed => exact ⟨harmed, trivial⟩
      case isFalse => trivial
    | _ => trivial
  | _ => trivial

end State

namespace FreshTimeout

open State

def history (s : State) (e : Event) (ops : List TimerOp) : List TimerOp :=
  if restarts s e then [] else ops ++ s.terminateOps e

/-- A step that acts on the trigger follows an expiry later than every launch and stop. -/
def Fresh (p : State × List TimerOp) (e : Event) : Prop := Timely p.2 (p.1.terminateOps e)

/-- No launch of the terminate timer finds the trigger of an earlier expiry pending. -/
def LaunchesClear (p : State × List TimerOp) (e : Event) : Prop :=
  Throughout Op.apply Op.FindsNoTrigger p.1.terminateUpload (p.1.terminateOps e)

instance (p : State × List TimerOp) (e : Event) : Decidable (LaunchesClear p e) :=
  inferInstanceAs (Decidable (Throughout Op.apply Op.FindsNoTrigger _ _))

def Inv (p : State × List TimerOp) : Prop := Known p.1.terminateUpload p.2

theorem inv_boot (files : Files) : Inv (boot files, []) := by
  intro ht
  rw [boot_terminateUpload] at ht
  exact absurd ht Bool.false_ne_true

theorem inv_step (p : State × List TimerOp) (e : Event) (hi : Inv p) (hg : LaunchesClear p e) :
    Inv (withHistory step history p e) := by
  obtain ⟨s, ops⟩ := p
  unfold withHistory history
  cases hr : restarts s e with
  | true =>
    obtain ⟨files, he, -⟩ := step_of_restarts hr
    simp only [he, if_true]
    exact inv_boot files
  | false =>
    unfold Inv
    simp only [step_ops hr, Bool.false_eq_true, if_false]
    exact Known.run hi hg

theorem fresh_of_inv (p : State × List TimerOp) (e : Event) (hi : Inv p)
    (hg : LaunchesClear p e) : Fresh p e :=
  Known.timely hi (terminateOps_possible p.1 e) hg

theorem fresh_run (files : Files) (es : List Event)
    (h : Throughout (withHistory step history) LaunchesClear (boot files, []) es) :
    Throughout (withHistory step history) Fresh (boot files, []) es :=
  throughout_of_guard inv_step fresh_of_inv (inv_boot files) h

def unregistered : Inputs := { quiet with registered := false }

def toWaitPelionReg : List Event :=
  [.iterate quiet, .timer .launchUpload, .iterate quiet, .iterate quiet, .iterate quiet]

theorem fresh_timeout :
    Throughout (withHistory step history) Fresh (boot fun _ => none, [])
      (toWaitPelionReg ++ [.timer .terminateUpload, .iterate unregistered]) :=
  fresh_run _ _ (by decide)

def lateTimeout : List Event :=
  [.iterate quiet, .timer .launchUpload, .iterate quiet, .timer .terminateUpload, .iterate quiet,
    .iterate quiet]

theorem late_timeout_not_fresh :
    ¬Throughout (withHistory step history) Fresh (boot fun _ => none, [])
      (lateTimeout ++ [.iterate unregistered]) := by
  intro h
  have hfresh := (throughout_append.mp h).2.1
  have hexpired := hfresh [] [] (by decide)
  exact absurd hexpired (by decide)

end FreshTimeout

end SlcNode
