import SlcNode.Library.EventRun
import SlcNode.Link

namespace SlcNode

structure Wait where
  appState : AppState
  devRegState : DevRegState
  launchTimer : Option Millis
  launchUpload : Bool
  terminateUpload : OneShot Millis
  fwUpdating : Bool

def State.wait (s : State) : Wait where
  appState := s.appState
  devRegState := s.devRegState
  launchTimer := s.launchTimer
  launchUpload := s.launchUpload
  terminateUpload := s.terminateUpload
  fwUpdating := s.fwUpdating

namespace Wait

def AwaitsTimeout (w : Wait) : Prop :=
  w.appState = .waitPelionReg ∨ w.appState = .waitResourceSubscribed ∨
    w.appState = .waitDevReg ∧ w.devRegState ≠ .done

/-- Something will wake the node: a timer that runs or a trigger that it left, or the end of an
update. -/
structure Awake (w : Wait) : Prop where
  idle : w.appState = .idle → w.launchTimer.isSome = true ∨ w.launchUpload = true
  waiting : w.AwaitsTimeout → w.terminateUpload.live = true ∨ w.fwUpdating = true
  not_reset : w.appState ≠ .reset

def Passing (a : AppState) : Prop :=
  a ≠ .idle ∧ a ≠ .waitPelionReg ∧ a ≠ .waitResourceSubscribed ∧ a ≠ .waitDevReg ∧ a ≠ .reset

instance (a : AppState) : Decidable (Passing a) :=
  inferInstanceAs (Decidable (_ ∧ _ ∧ _ ∧ _ ∧ _))

theorem awake_passing {w : Wait} {a : AppState} (h : w.appState = a) (ha : Passing a) :
    w.Awake := by
  obtain ⟨hi, hp, hr, hd, ho⟩ := ha
  rw [← h] at hi hp hr hd ho
  refine ⟨fun he => absurd he hi, ?_, ho⟩
  rintro (he | he | ⟨he, -⟩)
  · exact absurd he hp
  · exact absurd he hr
  · exact absurd he hd

theorem awake_idle {w : Wait} (h : w.appState = .idle)
    (hw : w.launchTimer.isSome = true ∨ w.launchUpload = true) : w.Awake := by
  refine ⟨fun _ => hw, ?_, by rw [h]; decide⟩
  rintro (he | he | ⟨he, -⟩) <;> rw [h] at he <;> cases he

theorem awake_waiting {w : Wait} (hi : w.appState ≠ .idle) (ho : w.appState ≠ .reset)
    (h : w.terminateUpload.live = true ∨ w.fwUpdating = true) : w.Awake :=
  ⟨fun he => absurd he hi, fun _ => h, ho⟩

theorem awake_launched {w : Wait} {a : AppState} (h : w.appState = a) (hi : a ≠ .idle)
    (ho : a ≠ .reset) (hl : w.terminateUpload.live = true) : w.Awake :=
  awake_waiting (h ▸ hi) (h ▸ ho) (.inl hl)

end Wait

namespace State

open EventRun Wait

theorem awake_of_passing {s : State} {a : AppState} (h : s.appState = a) (ha : Passing a) :
    s.wait.Awake := awake_passing (w := s.wait) h ha

theorem waitDevReg_awake {i : Inputs} {s : State} (h : s.wait.Awake)
    (hs : s.appState = .waitDevReg) : (s.waitDevReg i).wait.Awake := by
  have hstay (t : State) (ha : t.appState = s.appState)
      (hl : t.terminateUpload.live = true ∨ t.fwUpdating = true) : t.wait.Awake := by
    refine awake_waiting ?_ ?_ hl
    · change t.appState ≠ .idle
      rw [ha, hs]
      decide
    · change t.appState ≠ .reset
      rw [ha, hs]
      decide
  unfold waitDevReg
  cases hd : s.devRegState with
  | done => exact awake_passing (a := .readyToStandby) rfl (by decide)
  | init =>
    have hlive := h.waiting (.inr (.inr ⟨hs, fun hdone => by cases hd.symm.trans hdone⟩))
    dsimp only
    split
    · exact hstay _ rfl hlive
    · exact hstay _ rfl hlive
  | waitReg =>
    have hlive := h.waiting (.inr (.inr ⟨hs, fun hdone => by cases hd.symm.trans hdone⟩))
    dsimp only
    split_ifs
    · refine ⟨fun hi => absurd (hs.symm.trans hi) (by decide), ?_, ?_⟩
      · rintro (hp | hr | ⟨-, hdone⟩)
        · exact absurd (hs.symm.trans hp) (by decide)
        · exact absurd (hs.symm.trans hr) (by decide)
        · exact absurd rfl hdone
      · exact fun ho => absurd (hs.symm.trans ho) (by decide)
    · exact hstay _ rfl hlive
    · exact awake_passing (a := .toPelionDereg) rfl (by decide)
    · exact hstay _ rfl (.inr rfl)
    · exact hstay _ rfl (.inl rfl)
    · exact hstay _ rfl hlive

theorem switch_awake {i : Inputs} {s : State} (h : s.wait.Awake) : (s.switch i).wait.Awake := by
  have hgive (t : State) : t.toPelionDeregOnTerminate.wait.Awake :=
    awake_passing (a := .toPelionDereg) rfl (by decide)
  have hfw (t : State) (hs : t.appState = s.appState) (hi : t.appState ≠ .idle)
      (ho : t.appState ≠ .reset) : t.startFwUpdating.wait.Awake := awake_waiting hi ho (.inr rfl)
  unfold switch
  cases hs : s.appState with
  | readyToIdle =>
    dsimp only [readyToIdle]
    split_ifs <;> exact awake_idle rfl (.inl rfl)
  | idle =>
    dsimp only [State.idle]
    split
    · exact awake_passing (a := .waitNetworkConnect) rfl (by decide)
    · exact h
  | waitNetworkConnect =>
    dsimp only [waitNetworkConnect]
    cases i.netState with
    | connected => exact awake_passing (a := .init) rfl (by decide)
    | error | errorReboot => exact hgive s
    | connecting | disconnected | raiDisconnected | detachDisconnected =>
      dsimp only
      split
      · exact hgive s
      · exact h
  | init => exact awake_launched (a := .waitPelionReg) rfl (by decide) (by decide) rfl
  | waitPelionReg =>
    dsimp only [waitPelionReg]
    split_ifs
    · exact awake_launched (a := .waitResourceSubscribed) rfl (by decide) (by decide) rfl
    · exact hgive s
    · exact h
  | waitResourceSubscribed =>
    dsimp only [waitResourceSubscribed]
    split_ifs
    · exact awake_launched (a := .waitDevReg) rfl (by decide) (by decide) rfl
    · exact hgive s
    · exact hfw s rfl (by rw [hs]; decide) (by rw [hs]; decide)
    · exact awake_launched (a := .waitResourceSubscribed) hs (by decide) (by decide) rfl
    · exact h
  | waitDevReg => exact waitDevReg_awake h hs
  | readyToStandby =>
    exact awake_of_passing (readyToStandby_appState i s) (by decide)
  | standby =>
    have happ := standby_appState i s
    change (s.standby i).wait.Awake
    rcases Link.standby_next s.config.nodeRegistered (l := s.link) hs with hn | hn | hn
    · exact awake_of_passing (happ.trans hn) (by decide)
    · exact awake_of_passing (happ.trans hn) (by decide)
    · exact awake_of_passing (happ.trans hn) (by decide)
  | toPelionDereg => exact awake_passing (a := .waitPelionDereg) rfl (by decide)
  | waitPelionDereg =>
    dsimp only [waitPelionDereg]
    split
    · exact awake_passing (a := .waitNetworkDisconnected) rfl (by decide)
    · exact h
  | waitNetworkDisconnected =>
    dsimp only [waitNetworkDisconnected]
    cases i.netState with
    | disconnected | raiDisconnected | detachDisconnected =>
      exact awake_passing (a := .readyToIdle) rfl (by decide)
    | connecting | connected | error | errorReboot =>
      dsimp only
      split <;> exact awake_passing (a := .waitNetworkDisconnected) hs (by decide)
  | reset => exact h

theorem iterate_wait {i : Inputs} {s : State} (h : (s.switch i).rebooting = false) :
    (s.iterate i).wait = (s.switch i).wait := iterate_frame wait (fun _ _ _ _ _ _ _ _ => rfl) h

theorem boot_awake (files : Files) : (boot files).wait.Awake :=
  awake_of_passing (boot_appState files) (by decide)

theorem expire_awake {t : Timer} {s : State} (h : s.wait.Awake)
    (hr : restarts s (.timer t) = false) : (s.expire t).wait.Awake := by
  cases t with
  | launchUpload =>
    rw [expire]
    split
    · exact ⟨fun _ => .inr rfl, h.waiting, h.not_reset⟩
    · exact h
  | terminateUpload =>
    refine ⟨h.idle, fun hw => ?_, h.not_reset⟩
    exact (h.waiting hw).imp_left fun hl => (OneShot.live_expire _).trans hl
  | lightSensorMode =>
    rw [expire]
    split <;> exact h
  | systemWatchdog | threadWatchdog =>
    rw [expire, if_neg (by simpa [restarts] using hr)]
    exact h
  | nodeRegister | status | data => exact h

theorem step_awake {s : State} {e : Event} (h : s.wait.Awake) : (s.step e).wait.Awake := by
  cases hr : restarts s e with
  | true =>
    obtain ⟨files, he, -⟩ := step_of_restarts hr
    rw [he]
    exact boot_awake files
  | false =>
    cases e with
    | config put => exact config_keeps wait (fun _ _ _ _ => rfl) put s ▸ h
    | threshold put => exact threshold_keeps wait (fun _ _ _ _ _ _ => rfl) put s ▸ h
    | lightSchedule buff =>
      rw [step, updateLightSchedule]
      split <;> exact h
    | timer t => exact expire_awake h hr
    | iterate i =>
      rw [step, iterate_wait hr]
      exact switch_awake h
    | reboot => exact absurd hr Bool.noConfusion
    | lightDim | customAtCmd | fwUpdateTriggered | fwUpdateTerminated | kickAppTimer => exact h

theorem awake_run (files : Files) (es : List Event) : (run step (boot files) es).wait.Awake := by
  have hstep : ∀ s e, (wait s).Awake → (wait (step s e)).Awake := fun _ _ h => step_awake h
  exact inv_every_run hstep (boot_awake files) es

end State

end SlcNode
