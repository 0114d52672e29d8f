import SlcNode.MainTurns
import SlcNode.TwoThreads

namespace SlcNode

def AppState.isOnline : AppState → Bool
  | .init | .waitPelionReg | .waitResourceSubscribed | .waitDevReg | .readyToStandby | .standby =>
    true
  | .reset | .readyToIdle | .idle | .waitNetworkConnect | .toPelionDereg | .waitPelionDereg
  | .waitNetworkDisconnected => false

def AppState.isRegistered : AppState → Bool
  | .waitResourceSubscribed | .waitDevReg | .readyToStandby | .standby => true
  | _ => false

def AppState.isDeregistering : AppState → Bool
  | .waitPelionDereg | .waitNetworkDisconnected => true
  | _ => false

theorem AppState.isOnline_of_isRegistered {a : AppState} (h : a.isRegistered = true) :
    a.isOnline = true := by
  cases a <;> first | rfl | cases h

section Moves

variable {i : Inputs} {s : State} {a : AppState} {asked : List PelionRequest}

theorem moves_online (h : Moves i s a asked) (ha : a.isOnline = true) :
    s.appState.isOnline = true ∨ i.netState = .connected := by
  cases h with
  | stay => exact .inl ha
  | connected hs hup => exact .inr hup
  | toRegister hs | registered hs | subscribed hs | devRegistered hs | toStandby hs =>
    exact .inl (by rw [hs]; rfl)
  | _ => cases ha

theorem moves_registered (h : Moves i s a asked) (ha : a.isRegistered = true) :
    s.appState.isRegistered = true ∨
      s.appState = .waitPelionReg ∧ i.registered = true ∧ i.paused = false := by
  cases h with
  | stay => exact .inl ha
  | registered hs hr hp => exact .inr ⟨hs, hr, hp⟩
  | subscribed hs | devRegistered hs | toStandby hs => exact .inl (by rw [hs]; rfl)
  | _ => cases ha

theorem moves_deregistering (h : Moves i s a asked) (hs : s.appState.isDeregistering = true) :
    a.isDeregistering = true ∨ i.netState.isDown = true := by
  cases h with
  | stay => exact .inl hs
  | deregistered => exact .inl rfl
  | disconnected _ hd => exact .inr hd
  | terminated ht => rcases ht with ht | ht | ht | ht <;> rw [ht] at hs <;> cases hs
  | toIdle ht | toRestart ht | connected ht | failed ht | gaveUp ht | toRegister ht | registered ht
  | subscribed ht | devRegistered ht | toStandby ht | undone ht | toDeregister ht =>
    rw [ht] at hs
    cases hs

theorem moves_asked (h : Moves i s a asked) :
    (∀ m : MainLoop,
      (EventRun.run MainLoop.step m (asked.map PelionRequest.call)).toNetDisconnect = true →
        m.toNetDisconnect = true) ∨ a.isDeregistering = true := by
  cases h with
  | toDeregister => exact .inr rfl
  | toRestart => exact .inl fun _ h => h
  | _ => exact .inl fun _ h => h

end Moves

namespace TwoThreads

open EventRun MainLoop

structure Steady (m : MainLoop) : Prop where
  connecting : m.next = .initConnection → m.netState = .connecting
  leaving : Leaving m.next → m.toNetDisconnect = true

structure Coherent (s : TwoThreads) : Prop where
  steady : Steady s.main
  pending : s.main.toNetDisconnect = true → s.main.netState = .connected →
    s.app.appState.isDeregistering = true
  online : s.app.appState.isOnline = true → s.main.netState = .connected
  registered : s.app.appState.isRegistered = true →
    s.main.pelionRegistered = true ∧ s.main.paused = false
  looked : s.isRegistered = some true → s.app.appState.isOnline = true →
    s.main.pelionRegistered = true

variable {s : TwoThreads}

theorem Coherent.undisturbed (h : s.Coherent) (ho : s.app.appState.isOnline = true) :
    s.main.netState = .connected ∧ s.main.toNetDisconnect = false ∧ ¬Leaving s.main.next := by
  have hup := h.online ho
  have hflag : s.main.toNetDisconnect = false := by
    by_contra hf
    have hd := h.pending (by simpa using hf) hup
    revert ho hd
    cases s.app.appState <;> decide
  refine ⟨hup, hflag, fun hl => ?_⟩
  have ht := h.steady.leaving hl
  rw [hflag] at ht
  cases ht

theorem steady_turn {m m' : MainLoop} (h : Steady m) (ht : Turns m m') : Steady m' := by
  obtain ⟨hc, hl⟩ := h
  cases ht with
  | pause hn hd | close hn hd => exact ⟨by simp, fun _ => hd⟩
  | paused hn => exact ⟨by simp, fun _ => hl (by rw [hn]; decide)⟩
  | wait hn => exact ⟨by simp [hn], fun _ => hl (by rw [hn]; decide)⟩
  | closed w hn | unregistered hn => exact ⟨by simp, fun _ => hl (by rw [hn]; decide)⟩
  | again err errReboot hn => exact ⟨hc, hl⟩
  | connect => exact ⟨fun _ => rfl, by simp [Leaving]⟩
  | reboot => exact ⟨by decide, by decide⟩
  | _ => exact ⟨by simp, by simp [Leaving]⟩

theorem coherent_restart (files : Files) : (restart (State.boot files)).Coherent := by
  have hb : (restart (State.boot files)).app.appState = .readyToIdle := State.boot_appState files
  refine ⟨⟨fun h => ?_, fun h => ?_⟩, fun h => ?_, fun h => ?_, fun h => ?_, fun h => ?_⟩
  · cases h
  · simp [restart, MainLoop.start, Leaving] at h
  · cases h
  · rw [hb] at h
    cases h
  · rw [hb] at h
    cases h
  · cases h

theorem online_turn {m : MainLoop} (h : s.Coherent) (ho : s.app.appState.isOnline = true)
    (ht : Turns s.main m) :
    m.netState = .connected ∧ m.pelionRegistered = s.main.pelionRegistered ∧
      (m.paused = true → s.main.paused = true) := by
  obtain ⟨hup, hflag, hstay⟩ := h.undisturbed ho
  cases ht with
  | connect hn hc hne => exact absurd hup hne
  | failed err errReboot n hn =>
    rw [h.steady.connecting hn] at hup
    cases hup
  | paused hn | unregistered hn | reboot hn | down n hn =>
    exact absurd (by rw [hn]; decide) hstay
  | connected => exact ⟨rfl, rfl, id⟩
  | resume => exact ⟨hup, rfl, fun hp => by cases hp⟩
  | _ => exact ⟨hup, rfl, id⟩

theorem pending_turn {m : MainLoop} (ht : Turns s.main m) (hd : m.toNetDisconnect = true)
    (hup : m.netState = .connected) :
    s.main.toNetDisconnect = true ∧ s.main.netState = .connected := by
  cases ht with
  | connect => cases hup
  | failed err errReboot n hn he =>
    rcases he with rfl | rfl <;> cases hup
  | connected hn hf => exact absurd (hf.symm.trans hd) (by decide)
  | reboot => cases hd
  | down n hn hne hdown =>
    have hup : n = .connected := hup
    rw [hup] at hdown
    cases hdown
  | disconnectDone => cases hd
  | _ => exact ⟨hd, hup⟩

theorem coherent_turn {m : MainLoop} (h : s.Coherent) (ht : Turns s.main m) :
    Coherent { s with main := m } where
  steady := steady_turn h.steady ht
  pending hd hup :=
    have ⟨hd, hup⟩ := pending_turn ht hd hup
    h.pending hd hup
  online ho := (online_turn h ho ht).1
  registered hr := by
    obtain ⟨-, hreg, hpaused⟩ := online_turn h (AppState.isOnline_of_isRegistered hr) ht
    obtain ⟨hr, hp⟩ := h.registered hr
    refine ⟨hreg.trans hr, ?_⟩
    by_contra hm
    exact absurd (hp.symm.trans (hpaused (by simpa using hm))) (by decide)
  looked hl ho := (online_turn h ho ht).2.1.trans (h.looked hl ho)

theorem coherent_main {e : ThreadsEvent} {m : MainEvent} (h : s.Coherent)
    (he : e.main = some m) : Coherent { s with main := s.main.step m } := by
  cases e with
  | isRegistered | app => cases he
  | clientRegistered | clientUnregistered =>
    cases he
    exact ⟨⟨h.steady.connecting, h.steady.leaving⟩, h.pending, h.online, h.registered, h.looked⟩
  | registeredCallback =>
    cases he
    exact ⟨⟨h.steady.connecting, h.steady.leaving⟩, h.pending, h.online,
      fun hr => ⟨rfl, (h.registered hr).2⟩, fun _ _ => rfl⟩
  | loop ret =>
    cases he
    exact coherent_turn h (loop_turns ret s.main)

theorem look_registered {i i' : Inputs} (h : s.Coherent) (hl : s.look (.iterate i) = .iterate i')
    (ho : s.app.appState.isOnline = true) (hr : i'.registered = true) (hp : i'.paused = false) :
    s.main.pelionRegistered = true ∧ s.main.paused = false := by
  cases hl
  refine ⟨?_, hp⟩
  cases hs : s.isRegistered with
  | none => simpa [hs] using hr
  | some r =>
    have hr : r = true := by simpa [hs] using hr
    exact h.looked (hr ▸ hs) ho

theorem asked_keeps (m : MainLoop) (asked : List PelionRequest) :
    let m' := run MainLoop.step m (asked.map PelionRequest.call)
    m'.next = m.next ∧ m'.netState = m.netState ∧ m'.pelionRegistered = m.pelionRegistered ∧
      m'.paused = m.paused ∧ (m.toNetDisconnect = true → m'.toNetDisconnect = true) := by
  induction asked generalizing m with
  | nil => exact ⟨rfl, rfl, rfl, rfl, id⟩
  | cons r asked ih =>
    obtain ⟨hn, hs, hr, hp, hd⟩ := ih (m.step r.call)
    cases r with
    | toRestart => exact ⟨hn, hs, hr, hp, hd⟩
    | toDeregister t => exact ⟨hn, hs, hr, hp, fun _ => hd rfl⟩

theorem coherent_pass {i i' : Inputs} {app : State} {asked : List PelionRequest}
    (h : s.Coherent) (hl : s.look (.iterate i) = .iterate i')
    (hm : Moves i' s.app app.appState asked) :
    Coherent ⟨app, run MainLoop.step s.main (asked.map PelionRequest.call), none⟩ := by
  obtain ⟨hn, hs, hr, hp, hd⟩ := asked_keeps s.main asked
  have hnet : i'.netState = s.main.netState := by
    cases hl
    rfl
  refine ⟨⟨fun hc => ?_, fun hc => ?_⟩, fun hf hup => ?_, fun ho => ?_, fun hreg => ?_, nofun⟩
  · exact hs.trans (h.steady.connecting (hn.symm.trans hc))
  · exact hd (h.steady.leaving (hn ▸ hc))
  · have hup : s.main.netState = .connected := hs.symm.trans hup
    rcases moves_asked hm with hkept | hdereg
    · rcases moves_deregistering hm (h.pending (hkept s.main hf) hup) with hdereg | hdown
      · exact hdereg
      · rw [hnet, hup] at hdown
        cases hdown
    · exact hdereg
  · refine hs.trans ?_
    rcases moves_online hm ho with ho | hup
    · exact h.online ho
    · exact hnet.symm.trans hup
  · have hold : s.main.pelionRegistered = true ∧ s.main.paused = false := by
      rcases moves_registered hm hreg with hreg | ⟨hwait, hir, hip⟩
      · exact h.registered hreg
      · exact look_registered h hl (by rw [hwait]; rfl) hir hip
    exact ⟨hr.trans hold.1, hp.trans hold.2⟩

theorem coherent_step (e : ThreadsEvent) (h : s.Coherent) : (s.step e).Coherent := by
  have hsteps := step_steps s e
  generalize s.step e = t at hsteps
  cases hsteps with
  | restarts _ files => exact coherent_restart files
  | looks => exact ⟨h.steady, h.pending, h.online, h.registered, fun hr _ => Option.some.inj hr⟩
  | still e app ha hu =>
    exact ⟨h.steady, ha ▸ h.pending, ha ▸ h.online, ha ▸ h.registered, ha ▸ h.looked⟩
  | pass i i' app asked hl hm hu => exact coherent_pass h hl hm
  | main he hr => exact coherent_main h he

theorem coherent_run (files : Files) (events : List ThreadsEvent) :
    (run step (start files) events).Coherent := by
  have hstep : ∀ (s : TwoThreads) (e : ThreadsEvent), s.Coherent → (s.step e).Coherent :=
    fun s e => coherent_step e
  exact inv_every_run hstep (coherent_restart files) events

/-- While the application is online the main thread stays connected, and once the application has
seen `PelionRegistered` set and `Paused` clear they stay so. -/
theorem online_is_up (files : Files) (events : List ThreadsEvent) :
    let s := run step (start files) events
    s.app.appState.isOnline = true →
      s.main.netState = .connected ∧ s.main.toNetDisconnect = false ∧ ¬Leaving s.main.next ∧
        (s.app.appState.isRegistered = true →
          s.main.pelionRegistered = true ∧ s.main.paused = false) := by
  intro s ho
  have h : s.Coherent := coherent_run files events
  obtain ⟨hup, hflag, hstay⟩ := h.undisturbed ho
  exact ⟨hup, hflag, hstay, h.registered⟩

theorem boot_uploads (files : Files) : (State.boot files).uploads = [] := by
  rw [State.boot_frame State.uploads (fun _ _ _ _ _ => rfl) (fun _ _ _ => rfl), State.restoreConfig]
  split <;> rfl

theorem publishes_of_lt (e : ThreadsEvent)
    (hlt : s.app.uploads.length < (s.step e).app.uploads.length) :
    State.Publishes s.app.appState := by
  have hsteps := step_steps s e
  generalize s.step e = t at hsteps hlt
  cases hsteps with
  | restarts _ files =>
    rw [show (restart (State.boot files)).app.uploads = [] from boot_uploads files] at hlt
    cases hlt
  | looks | main => exact absurd hlt (lt_irrefl _)
  | still e app ha hu =>
    rw [hu] at hlt
    exact absurd hlt (lt_irrefl _)
  | pass i i' app asked hl hm hu =>
    by_contra hn
    rw [hu hn] at hlt
    exact absurd hlt (lt_irrefl _)

theorem isRegistered_of_publishes {a : AppState} (h : State.Publishes a) : a.isRegistered = true := by
  rcases h with rfl | rfl | rfl <;> rfl

theorem published_while_up (files : Files) (events : List ThreadsEvent) :
    Throughout step (fun s e => s.app.uploads.length < (s.step e).app.uploads.length →
      s.main.netState = .connected ∧ s.main.toNetDisconnect = false ∧
        s.main.pelionRegistered = true ∧ s.main.paused = false) (start files) events := by
  have hstep : ∀ (s : TwoThreads) (e : ThreadsEvent), s.Coherent → (s.step e).Coherent :=
    fun s e => coherent_step e
  refine throughout_every_run hstep (fun s e h hlt => ?_) (coherent_restart files) events
  have hreg := isRegistered_of_publishes (publishes_of_lt e hlt)
  obtain ⟨hup, hflag, -⟩ := h.undisturbed (AppState.isOnline_of_isRegistered hreg)
  exact ⟨hup, hflag, h.registered hreg⟩

end TwoThreads

end SlcNode
