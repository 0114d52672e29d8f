import SlcNode.TerminateTimer
import SlcNode.Library.EventRun

namespace SlcNode.KeepOnline

open EventRun State

theorem inv_switch_waitDevReg {i : Inputs} {s : State} (hl : s.link.Inv)
    (hs : s.appState = .waitDevReg) : (s.waitDevReg i).link.Inv := by
  have hx : s.terminateUpload.Exact := hl.exact
  unfold waitDevReg
  cases hd : s.devRegState with
  | init =>
    dsimp only
    split <;> exact Link.inv_waitDevReg_early (d := .waitReg) hx hs rfl (by decide)
  | waitReg =>
    have hne : s.devRegState ≠ .done := by rw [hd]; decide
    dsimp only
    split_ifs
    · exact Link.inv_waitDevReg (OneShot.exact_stop hx) hs fun _ => OneShot.live_stop hx
    · exact Link.inv_waitDevReg hx hs fun h => absurd h hne
    · exact Link.inv_elsewhere (a := .toPelionDereg) (OneShot.exact_consume hx) rfl (by decide)
    · exact Link.inv_waitDevReg (OneShot.exact_stop hx) hs fun h => absurd h hne
    · exact Link.inv_waitDevReg (OneShot.exact_launch _ _) hs fun h => absurd h hne
    · exact Link.inv_waitDevReg hx hs fun h => absurd h hne
  | done =>
    have hoff : s.terminateUpload.live = false := hl.registered hs hd
    exact Link.inv_readyToStandby_of_off hx rfl hoff

theorem inv_switch {i : Inputs} {s : State} (hl : s.link.Inv)
    (hg : s.appState = .standby → (s.switch i).appState = .standby → s.fwUpdateTerminated = true →
      s.config.deregister.keepOnline = false) : (s.switch i).link.Inv := by
  have hx : s.terminateUpload.Exact := hl.exact
  unfold switch
  cases hs : s.appState with
  | readyToIdle =>
    dsimp only [readyToIdle]
    split_ifs <;> exact Link.inv_elsewhere (a := .idle) hx rfl (by decide)
  | idle =>
    dsimp only [idle]
    split
    · exact Link.inv_elsewhere (a := .waitNetworkConnect) (OneShot.exact_launch _ _) rfl (by decide)
    · exact hl
  | waitNetworkConnect =>
    have hgive : s.toPelionDeregOnTerminate.link.Inv :=
      Link.inv_elsewhere (a := .toPelionDereg) (OneShot.exact_consume hx) rfl (by decide)
    dsimp only [waitNetworkConnect]
    cases i.netState with
    | connected => exact Link.inv_elsewhere (a := .init) hx rfl (by decide)
    | error | errorReboot => exact hgive
    | connecting | disconnected | raiDisconnected | detachDisconnected =>
      dsimp only
      split
      · exact hgive
      · exact hl
  | init => exact Link.inv_elsewhere (a := .waitPelionReg) (OneShot.exact_launch _ _) rfl (by decide)
  | waitPelionReg =>
    dsimp only [waitPelionReg]
    split_ifs
    · exact Link.inv_elsewhere (a := .waitResourceSubscribed) (OneShot.exact_launch _ _) rfl (by decide)
    · exact Link.inv_elsewhere (a := .toPelionDereg) (OneShot.exact_consume hx) rfl (by decide)
    · exact hl
  | waitResourceSubscribed =>
    have helse (l : Link) (h : l.appState = .waitResourceSubscribed)
        (hlx : l.terminateUpload.Exact) : l.Inv := Link.inv_elsewhere hlx h (by decide)
    dsimp only [waitResourceSubscribed]
    split_ifs
    · exact Link.inv_waitDevReg_early (d := .init) (OneShot.exact_launch _ _) rfl rfl (by decide)
    · exact Link.inv_elsewhere (a := .toPelionDereg) (OneShot.exact_consume hx) rfl (by decide)
    · exact helse _ hs (OneShot.exact_stop hx)
    · exact helse _ hs (OneShot.exact_launch _ _)
    · exact hl
  | waitDevReg => exact inv_switch_waitDevReg hl hs
  | readyToStandby =>
    dsimp only
    rw [readyToStandby_link]
    exact Link.inv_readyToStandby hl hs
  | standby =>
    dsimp only
    rw [standby_link]
    refine Link.inv_standby hl hs fun hstay => hg hs ?_
    rw [switch, hs]
    exact (standby_appState i s).trans hstay
  | toPelionDereg => exact Link.inv_elsewhere (a := .waitPelionDereg) hx rfl (by decide)
  | waitPelionDereg =>
    dsimp only [waitPelionDereg]
    split
    · exact Link.inv_elsewhere (a := .waitNetworkDisconnected) hx rfl (by decide)
    · exact hl
  | waitNetworkDisconnected =>
    have helse (l : Link) (h : l.appState = .waitNetworkDisconnected)
        (hlx : l.terminateUpload.Exact) : l.Inv := Link.inv_elsewhere hlx h (by decide)
    dsimp only [waitNetworkDisconnected]
    cases i.netState with
    | disconnected | raiDisconnected | detachDisconnected =>
      exact Link.inv_elsewhere (a := .readyToIdle) hx rfl (by decide)
    | connecting | connected | error | errorReboot =>
      dsimp only
      split <;> exact helse _ hs hx
  | reset => exact hl

def Seen (asked backup : Deregister) (live : Bool) : Prop :=
  asked.keepOnline ≠ backup.keepOnline ∨ asked.keepOnlineTime ≠ backup.keepOnlineTime ∨
    live = !asked.keepOnline

instance (asked backup : Deregister) (live : Bool) : Decidable (Seen asked backup live) :=
  inferInstanceAs (Decidable (asked.keepOnline ≠ backup.keepOnline ∨
    asked.keepOnlineTime ≠ backup.keepOnlineTime ∨ live = !asked.keepOnline))

def AtRest (s : State) : Prop := s.appState = .standby ∧ s.fwUpdating = false

instance (s : State) : Decidable (AtRest s) :=
  inferInstanceAs (Decidable (s.appState = .standby ∧ s.fwUpdating = false))

/-- In standby without an update a change is seen, and an update ends there only with keep-online
off or in a pass that leaves standby. -/
def SeenInStandby (s : State) : Event → Prop
  | .config (.config buff) =>
    AtRest s → buff.length = configBuffLen →
      Seen (Config.ofBuff buff).deregister s.config.deregister s.terminateUpload.live
  | .config (.deregKeepOnline value) =>
    AtRest s → Seen { s.config.deregister with keepOnline := value } s.configBackup.deregister
      s.terminateUpload.live
  | .config (.deregKeepOnlineTimeSec value) =>
    AtRest s → Seen { s.config.deregister with keepOnlineTime := (uint32 value).setWidth 13 }
      s.configBackup.deregister s.terminateUpload.live
  | .config .resetConfig => AtRest s → s.terminateUpload.live = true
  | .iterate _ =>
    s.appState = .standby → s.fwUpdateTerminated = true →
      s.config.deregister.keepOnline = false ∨ s.config.nodeRegistered = 0 ∨
        s.terminateUpload.trigger = true ∧ ¬s.link.DeregisterChanged
  | _ => True

def Enforced (s : State) : Event → Prop
  | .iterate i =>
    s.appState = .standby → (s.iterate i).appState = .standby → (s.iterate i).fwUpdating = false →
      ((s.iterate i).terminateUpload.live = true ↔
        (s.iterate i).config.deregister.keepOnline = false)
  | _ => True

instance : ∀ s e, Decidable (SeenInStandby s e)
  | s, .config (.config buff) =>
    inferInstanceAs (Decidable (AtRest s → buff.length = configBuffLen →
      Seen (Config.ofBuff buff).deregister s.config.deregister s.terminateUpload.live))
  | s, .config (.deregKeepOnline value) =>
    inferInstanceAs (Decidable (AtRest s →
      Seen { s.config.deregister with keepOnline := value } s.configBackup.deregister
        s.terminateUpload.live))
  | s, .config (.deregKeepOnlineTimeSec value) =>
    inferInstanceAs (Decidable (AtRest s →
      Seen { s.config.deregister with keepOnlineTime := (uint32 value).setWidth 13 }
        s.configBackup.deregister s.terminateUpload.live))
  | s, .config .resetConfig =>
    inferInstanceAs (Decidable (AtRest s → s.terminateUpload.live = true))
  | s, .iterate _ =>
    inferInstanceAs (Decidable (s.appState = .standby → s.fwUpdateTerminated = true →
      s.config.deregister.keepOnline = false ∨ s.config.nodeRegistered = 0 ∨
        s.terminateUpload.trigger = true ∧ ¬s.link.DeregisterChanged))
  | _, .config (.nodeRegister _) | _, .config (.watchdogSysSec _) | _, .config (.watchdogRegSec _)
  | _, .config (.watchdogLightSensorSec _) | _, .config (.periodSec _ _) | _, .threshold _
  | _, .lightDim _ | _, .lightSchedule _ | _, .customAtCmd | _, .fwUpdateTriggered
  | _, .fwUpdateTerminated | _, .kickAppTimer | _, .timer _ | _, .reboot => .isTrue trivial

instance : ∀ s e, Decidable (Enforced s e)
  | s, .iterate i =>
    inferInstanceAs (Decidable (s.appState = .standby → (s.iterate i).appState = .standby →
      (s.iterate i).fwUpdating = false → ((s.iterate i).terminateUpload.live = true ↔
        (s.iterate i).config.deregister.keepOnline = false)))
  | _, .config _ | _, .threshold _ | _, .lightDim _ | _, .lightSchedule _ | _, .customAtCmd
  | _, .fwUpdateTriggered | _, .fwUpdateTerminated | _, .kickAppTimer | _, .timer _
  | _, .reboot => .isTrue trivial

theorem updateField_deregister {w : ℕ} (get : Config → BitVec w)
    {set : BitVec w → Config → Config} (hset : ∀ v c, (set v c).deregister = c.deregister) (v : ℤ)
    (s : State) :
    (updateField get set v s).config.deregister = s.config.deregister ∧
      (updateField get set v s).configBackup = s.configBackup := by
  unfold updateField
  split
  · exact ⟨hset _ _, rfl⟩
  · exact ⟨rfl, rfl⟩

theorem put_link (put : ConfigPut) (s : State) :
    (put.apply s).link = { s.link with
      deregister := (put.apply s).config.deregister
      deregisterBackup := (put.apply s).configBackup.deregister } :=
  config_keeps (fun t => { t.link with
    deregister := (put.apply s).config.deregister
    deregisterBackup := (put.apply s).configBackup.deregister }) (fun _ _ _ _ => rfl) put s

theorem inv_put {put : ConfigPut} {s : State} (hl : s.link.Inv)
    (hn : AtRest s → Seen (put.apply s).config.deregister (put.apply s).configBackup.deregister
      s.terminateUpload.live) : (put.apply s).link.Inv := by
  rw [put_link]
  refine ⟨hl.exact, hl.registered, hl.ready, fun hs hf => ?_⟩
  rcases hn ⟨hs, hf⟩ with hko | htime | hlive
  · exact Or.inl (Or.inl hko)
  · exact Or.inl (Or.inr htime)
  · exact Or.inr hlive

theorem seen_of_inv {s : State} (hl : s.link.Inv) (h : AtRest s) :
    Seen s.config.deregister s.configBackup.deregister s.terminateUpload.live := by
  rcases hl.standby h.1 h.2 with (hko | htime) | hlive
  · exact Or.inl hko
  · exact Or.inr (Or.inl htime)
  · exact Or.inr (Or.inr hlive)

theorem put_seen {put : ConfigPut} {s : State} (hl : s.link.Inv)
    (hg : SeenInStandby s (.config put)) (h : AtRest s) :
    Seen (put.apply s).config.deregister (put.apply s).configBackup.deregister
      s.terminateUpload.live := by
  have hold := seen_of_inv hl h
  have hfield {w : ℕ} {get : Config → BitVec w} {set : BitVec w → Config → Config}
      (hset : ∀ v c, (set v c).deregister = c.deregister) (v : ℤ) (t : State)
      (hc : t.config.deregister = s.config.deregister) (hb : t.configBackup = s.configBackup) :
      Seen (updateField get set v t).config.deregister
        (updateField get set v t).configBackup.deregister s.terminateUpload.live := by
    obtain ⟨hd, hk⟩ := updateField_deregister get hset v t
    rw [hd, hk, hc, hb]
    exact hold
  cases put with
  | nodeRegister v =>
    rw [ConfigPut.apply, updateNodeRegister_config, updateNodeRegister_configBackup]
    exact hold
  | config buff =>
    rw [ConfigPut.apply]
    by_cases hlen : buff.length = configBuffLen
    · obtain ⟨hc, hb⟩ := updateConfig_of_length hlen s
      rw [hc, hb]
      exact hg h hlen
    · rw [updateConfig, if_neg hlen]
      exact hold
  | watchdogSysSec v =>
    rw [ConfigPut.apply, updateConfigWatchdogSysSec]
    refine hfield ?_ v s rfl rfl
    exact fun _ _ => rfl
  | watchdogRegSec v =>
    rw [ConfigPut.apply, updateConfigWatchdogRegSec]
    refine hfield ?_ v s rfl rfl
    exact fun _ _ => rfl
  | watchdogLightSensorSec v =>
    rw [ConfigPut.apply, updateConfigWatchdogLightSensorSec]
    refine hfield ?_ v s rfl rfl
    exact fun _ _ => rfl
  | periodSec p v =>
    rw [ConfigPut.apply, updateConfigPeriodSec]
    exact hfield (fun _ _ => Config.deregister_withCycle ..) v _
      (Config.deregister_withCycle ..) rfl
  | deregKeepOnline v =>
    have hseen := hg h
    rw [ConfigPut.apply, updateConfigDeregKeepOnline]
    split
    case isTrue => exact hseen
    case isFalse hv => exact hold
  | deregKeepOnlineTimeSec v =>
    have hseen := hg h
    rw [ConfigPut.apply, updateConfigDeregKeepOnlineTimeSec, updateField]
    split
    case isTrue => exact hseen
    case isFalse hv => exact hold
  | resetConfig => exact Or.inr (Or.inr (hg h))

theorem standby_ends_update {i : Inputs} {s : State} (hg : SeenInStandby s (.iterate i))
    (hs : s.appState = .standby) (hstay : (s.switch i).appState = .standby)
    (hterm : s.fwUpdateTerminated = true) : s.config.deregister.keepOnline = false := by
  have happ := standby_appState i s
  rw [switch, hs] at hstay
  obtain ⟨hreg, htrigger⟩ := Link.standby_stays (happ.symm.trans hstay)
  rcases hg hs hterm with hoff | hzero | ⟨ht, hchanged⟩
  · exact hoff
  · exact absurd hzero hreg
  · have hstill := (Link.updateDeregister_trigger s.link).mpr ⟨ht, fun h => hchanged h.1⟩
    rw [htrigger] at hstill
    exact absurd hstill Bool.false_ne_true

theorem inv_boot (files : Files) : (boot files).link.Inv := by
  obtain ⟨d, b, hboot⟩ := boot_link files
  rw [hboot]
  exact Link.inv_elsewhere (a := .readyToIdle) OneShot.exact_idle rfl (by decide)

theorem inv_step (s : State) (e : Event) (hl : s.link.Inv) (hg : SeenInStandby s e) :
    (s.step e).link.Inv := by
  cases hr : restarts s e with
  | true =>
    obtain ⟨files, he, -⟩ := step_of_restarts hr
    rw [he]
    exact inv_boot files
  | false =>
    cases e with
    | config put => exact inv_put hl (put_seen hl hg)
    | threshold put =>
      have hlink := threshold_keeps link (fun _ _ _ _ _ _ => rfl) put s
      rw [step, hlink]
      exact hl
    | lightSchedule buff =>
      rw [step, updateLightSchedule]
      split <;> exact hl
    | timer t =>
      by_cases ht : t = .terminateUpload
      · subst ht
        refine ⟨OneShot.exact_expire hl.exact, ?_, ?_, ?_⟩
        · intro hd hdone
          exact (OneShot.live_expire _).trans (hl.registered hd hdone)
        · intro hready
          exact (OneShot.live_expire _).trans (hl.ready hready)
        · intro hs hf
          rcases hl.standby hs hf with hc | hlive
          · exact Or.inl hc
          · exact Or.inr ((OneShot.live_expire _).trans hlive)
      · have hlink := expire_keeps link (fun _ _ _ _ _ _ _ _ => rfl) t s (fun h => absurd h ht) hr
        rw [step, hlink]
        exact hl
    | iterate i =>
      have hlink := iterate_link hr
      rw [step, hlink]
      exact inv_switch hl fun hs hstay hterm => standby_ends_update hg hs hstay hterm
    | reboot => exact absurd hr Bool.noConfusion
    | fwUpdateTriggered | fwUpdateTerminated =>
      exact ⟨hl.exact, hl.registered, hl.ready, hl.standby⟩
    | lightDim | customAtCmd | kickAppTimer => exact hl

theorem standby_enforced {i : Inputs} {s : State} (hl : s.link.Inv)
    (hg : SeenInStandby s (.iterate i)) (hs : s.appState = .standby)
    (hstay : (s.switch i).appState = .standby) (hidle : (s.switch i).fwUpdating = false) :
    (s.switch i).terminateUpload.live = !s.config.deregister.keepOnline := by
  have hlink := standby_link i s
  have happ := congrArg Link.appState hlink
  have hfw := congrArg Link.fwUpdating hlink
  have hterm := congrArg Link.terminateUpload hlink
  simp only [link_fields] at happ hfw hterm
  have hends := standby_ends_update hg hs hstay
  rw [switch, hs] at hstay hidle ⊢
  rw [hterm]
  exact Link.standby_live hl hs (happ.symm.trans hstay) (hfw.symm.trans hidle) hends

theorem enforced_of_inv (s : State) (e : Event) (hl : s.link.Inv) (hg : SeenInStandby s e) :
    Enforced s e := by
  cases e with
  | iterate i =>
    intro hs hstay hidle
    cases hr : (s.switch i).rebooting with
    | true =>
      have happ : (s.iterate i).appState = .readyToIdle := by
        rw [iterate_of_rebooting hr, boot_appState]
      exact absurd (happ.symm.trans hstay) (by decide)
    | false =>
      have hlink := iterate_link hr
      have happ := congrArg Link.appState hlink
      have hfw := congrArg Link.fwUpdating hlink
      have hterm := congrArg Link.terminateUpload hlink
      simp only [link_fields] at happ hfw hterm
      rw [hterm, iterate_config hr,
        standby_enforced hl hg hs (happ.symm.trans hstay) (hfw.symm.trans hidle)]
      cases s.config.deregister.keepOnline <;> simp
  | _ => trivial

theorem enforced_run (files : Files) (es : List Event)
    (h : Throughout step SeenInStandby (boot files) es) :
    Throughout step Enforced (boot files) es :=
  throughout_of_guard inv_step enforced_of_inv (inv_boot files) h

theorem enforced_once :
    Throughout step Enforced (boot fun _ => none)
      (toStandby ++ [.config (.deregKeepOnline true), .iterate quiet]) :=
  enforced_run _ _ (by decide)

def onlineImage : List Byte :=
  { (zeroed fun _ => none).config.reset with deregister.keepOnline := true }.buff

theorem repeated_not_enforced :
    ¬Throughout step Enforced (boot fun _ => none)
      (toStandby ++ [.config (.config onlineImage), .config (.config onlineImage),
        .iterate quiet]) := by
  decide

end SlcNode.KeepOnline
