import SlcNode.Link
import SlcNode.Library.EventRun

namespace SlcNode.FwUpdate

open EventRun State

def Disconnects (s : State) : Prop := s.appState = .toPelionDereg ∧ s.fwUpdating = true

instance (s : State) : Decidable (Disconnects s) :=
  inferInstanceAs (Decidable (s.appState = .toPelionDereg ∧ s.fwUpdating = true))

def GivesUp (i : Inputs) (s : State) : Prop :=
  match s.appState with
  | .waitNetworkConnect =>
    i.netState = .error ∨ i.netState = .errorReboot ∨
      i.netState ≠ .connected ∧ s.terminateUpload.trigger = true
  | .waitPelionReg => (i.registered && !i.paused) = false ∧ s.terminateUpload.trigger = true
  | .waitResourceSubscribed => i.allSubscribed = false ∧ s.terminateUpload.trigger = true
  | .waitDevReg =>
    s.devRegState = .waitReg ∧ s.config.nodeRegistered = 0 ∧ s.nodeRegister.trigger = false ∧
      s.terminateUpload.trigger = true
  | .standby =>
    s.terminateUpload.trigger = true ∧
      ¬(s.link.DeregisterChanged ∧ s.config.deregister.keepOnline = true)
  | _ => False

def UpdateGoesOn (s : State) : Prop :=
  if s.appState = .standby then
    (s.fwUpdating = true ∨ s.fwUpdate = true) ∧ s.fwUpdateTerminated = false
  else s.fwUpdating = true

def GivesUpIdleOnly (s : State) : Event → Prop
  | .iterate i => GivesUp i s → ¬UpdateGoesOn s
  | _ => True

structure Inv (s : State) : Prop where
  running : s.rebooting = false
  connected : ¬Disconnects s

theorem standby_disconnects_iff {i : Inputs} {s : State} (h : s.appState = .standby) :
    Disconnects (s.standby i) ↔ GivesUp i s ∧ UpdateGoesOn s := by
  have happ : (s.standby i).appState = .toPelionDereg ↔ GivesUp i s := by
    have hl := @Link.standby_appState s.config.nodeRegistered s.link h
    rw [Link.updateDeregister_trigger] at hl
    simp only [link_fields] at hl
    rw [GivesUp, h, standby_appState, hl]
  have hfw : (s.standby i).fwUpdating = true ↔ UpdateGoesOn s := by
    have hl := Link.standby_fwUpdating s.config.nodeRegistered s.link
    rw [← standby_link i s] at hl
    simp only [link_fields] at hl
    rw [UpdateGoesOn, if_pos h, hl]
  rw [Disconnects, happ, hfw]

theorem disconnects_iff_of_ne {i : Inputs} {s t : State} (ht : t.appState ≠ .toPelionDereg)
    (hg : ¬GivesUp i s) : Disconnects t ↔ GivesUp i s ∧ UpdateGoesOn s :=
  ⟨fun h => absurd h.1 ht, fun h => absurd h.1 hg⟩

theorem disconnects_iff_of_moves {i : Inputs} {s t : State} {a : AppState} (ht : t.appState = a)
    (ha : a ≠ .toPelionDereg) (hg : ¬GivesUp i s) : Disconnects t ↔ GivesUp i s ∧ UpdateGoesOn s :=
  disconnects_iff_of_ne (ht ▸ ha) hg

theorem disconnects_iff_of_givesUp {i : Inputs} {s : State} (hs : s.appState ≠ .standby)
    (hg : GivesUp i s) :
    Disconnects s.toPelionDeregOnTerminate ↔ GivesUp i s ∧ UpdateGoesOn s := by
  have hfw : UpdateGoesOn s ↔ s.fwUpdating = true := by rw [UpdateGoesOn, if_neg hs]
  have happ : s.toPelionDeregOnTerminate.appState = .toPelionDereg := rfl
  have hup : s.toPelionDeregOnTerminate.fwUpdating = s.fwUpdating := rfl
  rw [hfw, Disconnects, happ, hup]
  exact ⟨fun h => ⟨hg, h.2⟩, fun h => ⟨rfl, h.2⟩⟩

theorem waitNetworkConnect_disconnects_iff {i : Inputs} {s : State}
    (h : s.appState = .waitNetworkConnect) :
    Disconnects (s.waitNetworkConnect i) ↔ GivesUp i s ∧ UpdateGoesOn s := by
  have hne : s.appState ≠ .standby := by rw [h]; decide
  have hg : GivesUp i s ↔ i.netState = .error ∨ i.netState = .errorReboot ∨
      i.netState ≠ .connected ∧ s.terminateUpload.trigger = true := by rw [GivesUp, h]
  unfold waitNetworkConnect
  cases hn : i.netState with
  | connected =>
    refine disconnects_iff_of_moves (a := .init) rfl (by decide) ?_
    rw [hg, hn]
    simp
  | error | errorReboot =>
    refine disconnects_iff_of_givesUp hne ?_
    rw [hg, hn]
    simp
  | connecting | disconnected | raiDisconnected | detachDisconnected =>
    dsimp only
    split
    case isTrue ht =>
      refine disconnects_iff_of_givesUp hne ?_
      rw [hg, hn]
      simp [ht]
    case isFalse ht =>
      refine disconnects_iff_of_ne (by rw [h]; decide) ?_
      rw [hg, hn]
      simp [ht]

theorem waitPelionReg_disconnects_iff {i : Inputs} {s : State} (h : s.appState = .waitPelionReg) :
    Disconnects (s.waitPelionReg i) ↔ GivesUp i s ∧ UpdateGoesOn s := by
  have hne : s.appState ≠ .standby := by rw [h]; decide
  have hg : GivesUp i s ↔ (i.registered && !i.paused) = false ∧
      s.terminateUpload.trigger = true := by rw [GivesUp, h]
  unfold waitPelionReg
  split_ifs with hr ht
  · refine disconnects_iff_of_moves (a := .waitResourceSubscribed) rfl (by decide) ?_
    rw [hg, hr]
    simp
  · exact disconnects_iff_of_givesUp hne (hg.mpr ⟨eq_false_of_ne_true hr, ht⟩)
  · exact disconnects_iff_of_ne (by rw [h]; decide) fun hgive => ht (hg.mp hgive).2

theorem waitResourceSubscribed_disconnects_iff {i : Inputs} {s : State}
    (h : s.appState = .waitResourceSubscribed) :
    Disconnects (s.waitResourceSubscribed i) ↔ GivesUp i s ∧ UpdateGoesOn s := by
  have hne : s.appState ≠ .standby := by rw [h]; decide
  have hg : GivesUp i s ↔ i.allSubscribed = false ∧ s.terminateUpload.trigger = true := by
    rw [GivesUp, h]
  have hstay : s.appState ≠ .toPelionDereg := by rw [h]; decide
  unfold waitResourceSubscribed
  split_ifs with hr ht
  · refine disconnects_iff_of_moves (a := .waitDevReg) rfl (by decide) ?_
    rw [hg, hr]
    simp
  · exact disconnects_iff_of_givesUp hne (hg.mpr ⟨eq_false_of_ne_true hr, ht⟩)
  all_goals exact disconnects_iff_of_ne hstay fun hgive => ht (hg.mp hgive).2

theorem waitDevReg_disconnects_iff {i : Inputs} {s : State} (h : s.appState = .waitDevReg) :
    Disconnects (s.waitDevReg i) ↔ GivesUp i s ∧ UpdateGoesOn s := by
  have hne : s.appState ≠ .standby := by rw [h]; decide
  have hg : GivesUp i s ↔ s.devRegState = .waitReg ∧ s.config.nodeRegistered = 0 ∧
      s.nodeRegister.trigger = false ∧ s.terminateUpload.trigger = true := by rw [GivesUp, h]
  have hstay : s.appState ≠ .toPelionDereg := by rw [h]; decide
  unfold waitDevReg
  cases hd : s.devRegState with
  | init =>
    have hinit : ¬GivesUp i s := fun hgive => absurd (hd.symm.trans (hg.mp hgive).1) (by decide)
    dsimp only
    split <;> exact disconnects_iff_of_ne hstay hinit
  | waitReg =>
    dsimp only
    split_ifs with hr hn ht
    · exact disconnects_iff_of_ne hstay fun hgive => hr (hg.mp hgive).2.1
    · exact disconnects_iff_of_ne hstay fun hgive =>
        absurd (hn.symm.trans (hg.mp hgive).2.2.1) (by decide)
    · exact disconnects_iff_of_givesUp hne
        (hg.mpr ⟨hd, not_not.mp hr, eq_false_of_ne_true hn, ht⟩)
    all_goals exact disconnects_iff_of_ne hstay fun hgive => ht (hg.mp hgive).2.2.2
  | done =>
    have hdone : ¬GivesUp i s := fun hgive => absurd (hd.symm.trans (hg.mp hgive).1) (by decide)
    exact disconnects_iff_of_moves (a := .readyToStandby) rfl (by decide) hdone

theorem switch_appState_ne {i : Inputs} {s : State} (hs : s.appState ≠ .waitNetworkConnect)
    (hp : s.appState ≠ .waitPelionReg) (hr : s.appState ≠ .waitResourceSubscribed)
    (hd : s.appState ≠ .waitDevReg) (hb : s.appState ≠ .standby) :
    (s.switch i).appState ≠ .toPelionDereg := by
  cases h : s.appState with
  | waitNetworkConnect => exact absurd h hs
  | waitPelionReg => exact absurd h hp
  | waitResourceSubscribed => exact absurd h hr
  | waitDevReg => exact absurd h hd
  | standby => exact absurd h hb
  | readyToIdle => simp [switch, h, readyToIdle]
  | idle =>
    simp only [switch, h, idle]
    split <;> simp [h]
  | init => simp [switch, h, init, relaunchTimerRegWatchdog]
  | readyToStandby => simp [switch, h, readyToStandby]
  | toPelionDereg => simp [switch, h, toPelionDereg]
  | waitPelionDereg =>
    simp only [switch, h, waitPelionDereg]
    split <;> simp [h]
  | waitNetworkDisconnected =>
    simp only [switch, h, waitNetworkDisconnected]
    cases i.netState <;> simp only <;> (try split) <;> simp [osReboot]
  | reset => simp [switch, h]

theorem switch_disconnects_iff (i : Inputs) (s : State) :
    Disconnects (s.switch i) ↔ GivesUp i s ∧ UpdateGoesOn s := by
  cases h : s.appState with
  | waitNetworkConnect =>
    rw [switch, h]
    exact waitNetworkConnect_disconnects_iff h
  | waitPelionReg =>
    rw [switch, h]
    exact waitPelionReg_disconnects_iff h
  | waitResourceSubscribed =>
    rw [switch, h]
    exact waitResourceSubscribed_disconnects_iff h
  | waitDevReg =>
    rw [switch, h]
    exact waitDevReg_disconnects_iff h
  | standby =>
    rw [switch, h]
    exact standby_disconnects_iff h
  | _ =>
    refine disconnects_iff_of_ne ?_ (by rw [GivesUp, h]; exact not_false)
    apply switch_appState_ne <;> rw [h] <;> decide

theorem inv_boot (files : Files) : Inv (boot files) := by
  refine ⟨boot_rebooting files, ?_⟩
  rintro ⟨hd, -⟩
  rw [boot_appState] at hd
  exact absurd hd (by decide)

theorem inv_of_mode {s t : State} (h : mode t = mode s) (hs : Inv s) : Inv t := by
  have happ : t.appState = s.appState := congrArg (fun m => m.2.1) h
  have hfw : t.fwUpdating = s.fwUpdating := congrArg (fun m => m.2.2) h
  refine ⟨(congrArg Prod.fst h).trans hs.running, ?_⟩
  rw [Disconnects, happ, hfw]
  exact hs.connected

theorem iterate_disconnects_iff {i : Inputs} {s : State} (h : (s.switch i).rebooting = false) :
    Disconnects (s.iterate i) ↔ GivesUp i s ∧ UpdateGoesOn s := by
  have hl := iterate_link h
  have happ : (s.iterate i).appState = (s.switch i).appState := congrArg Link.appState hl
  have hfw : (s.iterate i).fwUpdating = (s.switch i).fwUpdating := congrArg Link.fwUpdating hl
  rw [← switch_disconnects_iff, Disconnects, Disconnects, happ, hfw]

theorem not_givesUp_of_rebooting {i : Inputs} {s : State} (hs : s.rebooting = false)
    (h : (s.switch i).rebooting = true) : ¬GivesUp i s := by
  have hd : s.appState = .waitNetworkDisconnected := by
    by_contra hne
    rw [switch_rebooting hne, hs] at h
    exact absurd h Bool.false_ne_true
  rw [GivesUp, hd]
  exact not_false

theorem step_connected_iff (s : State) (e : Event) (hs : Inv s) :
    ¬Disconnects (s.step e) ↔ GivesUpIdleOnly s e := by
  cases hr : restarts s e with
  | true =>
    obtain ⟨files, he, -⟩ := step_of_restarts hr
    have hstep : ¬Disconnects (s.step e) := by
      rw [he]
      exact (inv_boot files).connected
    cases e with
    | iterate i =>
      have hg : ¬GivesUp i s := not_givesUp_of_rebooting hs.running hr
      exact ⟨fun _ hgive => absurd hgive hg, fun _ => hstep⟩
    | _ => exact ⟨fun _ => trivial, fun _ => hstep⟩
  | false =>
    by_cases hi : ∃ i, e = .iterate i
    · obtain ⟨i, rfl⟩ := hi
      change ¬Disconnects (s.iterate i) ↔ (GivesUp i s → ¬UpdateGoesOn s)
      rw [iterate_disconnects_iff hr, not_and]
    · have hmode := step_mode hr (not_exists.mp hi)
      have hstep := (inv_of_mode hmode hs).connected
      cases e with
      | iterate i => exact absurd ⟨i, rfl⟩ hi
      | _ => exact ⟨fun _ => trivial, fun _ => hstep⟩

theorem inv_step (s : State) (e : Event) (hs : Inv s) (hg : GivesUpIdleOnly s e) :
    Inv (s.step e) :=
  ⟨step_running hs.running, (step_connected_iff s e hs).mpr hg⟩

theorem connected_run_iff (files : Files) (es : List Event) :
    Throughout step (fun s e => ¬Disconnects (s.step e)) (boot files) es ↔
      Throughout step GivesUpIdleOnly (boot files) es :=
  throughout_iff_guard inv_step step_connected_iff (inv_boot files)

theorem new_time_disconnects :
    ¬Throughout step (fun s e => ¬Disconnects (s.step e)) (boot fun _ => none)
      (toStandby ++ [.fwUpdateTriggered, .iterate quiet, .config (.deregKeepOnlineTimeSec 60),
        .iterate quiet, .timer .terminateUpload, .iterate quiet]) := by
  decide

end SlcNode.FwUpdate
