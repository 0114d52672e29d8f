import SlcNode.Handover

namespace SlcNode

def ThreadsEvent.isLoop : ThreadsEvent → Bool
  | .loop _ => true
  | _ => false

namespace MainLoop

/-- The client has been paused or closed before the network goes, and stays so while it is gone. -/
def Resting (m : MainLoop) : Prop :=
  m.next = .network ∨ m.netState.isDown = true → m.pelionRegistered = false ∨ m.paused = true

def Settled (m : MainLoop) : Prop :=
  m.netState = .connected ∨ m.netState = .error ∨ m.netState = .errorReboot

instance (m : MainLoop) : Decidable m.Settled := inferInstanceAs (Decidable (_ ∨ _))

def Answers (m : MainLoop) : AppState → Prop
  | .waitNetworkConnect => m.Settled
  | .waitPelionDereg => m.pelionRegistered = false ∨ m.paused = true
  | .waitNetworkDisconnected => m.netState.isDown = true
  | _ => True

instance (m : MainLoop) : DecidablePred m.Answers
  | .waitNetworkConnect => inferInstanceAs (Decidable m.Settled)
  | .waitPelionDereg => inferInstanceAs (Decidable (_ ∨ _))
  | .waitNetworkDisconnected => inferInstanceAs (Decidable (_ = _))
  | .reset | .readyToIdle | .idle | .init | .waitPelionReg | .waitDevReg | .waitResourceSubscribed
  | .readyToStandby | .standby | .toPelionDereg => .isTrue trivial

def turnsToConnect (m : MainLoop) : ℕ :=
  match m.next with
  | .disconnect | .disconnectDone => 12
  | .connect => 11
  | .initConnection => 3 + (7 - (m.err + m.errReboot))
  | .established => 2
  | _ => 1

def turnsToDisconnect (m : MainLoop) : ℕ :=
  match m.next with
  | .initConnection => 19 + (7 - (m.err + m.errReboot))
  | .established => 18
  | .syncTime => 17
  | .register => 16
  | .connectDone | .connect => 15
  | .disconnect => 14
  | .closing => 3 + (10 - m.waitcnt)
  | .closed | .pausing => 2
  | .network | .disconnectDone => 1

theorem turnsToConnect_pos (m : MainLoop) : 0 < m.turnsToConnect := by
  unfold turnsToConnect
  split <;> omega

theorem turnsToDisconnect_pos (m : MainLoop) : 0 < m.turnsToDisconnect := by
  unfold turnsToDisconnect
  split <;> omega

theorem turns_le (m : MainLoop) : m.turnsToConnect ≤ 26 ∧ m.turnsToDisconnect ≤ 26 := by
  unfold turnsToConnect turnsToDisconnect
  constructor <;> split <;> omega

variable {m m' : MainLoop}

theorem resting_turn (h : Orderly m) (hr : m.Resting) (ht : Turns m m') : m'.Resting := by
  cases ht with
  | paused => exact fun _ => .inr rfl
  | unregistered => exact fun _ => .inl rfl
  | resume hn =>
    rintro (hn' | hd)
    · cases hn'
    · have ha := h.asked (by simp [Connecting, hn])
      exact absurd (hd.symm.trans ha.2) (fun h => by cases h)
  | down n hn => exact fun _ => hr (.inl hn)
  | reboot => exact fun _ => .inl rfl
  | connect | connected => exact fun h => h.elim (fun h => by cases h) (fun h => by cases h)
  | failed _ _ n hn he =>
    rintro (hn' | hd)
    · cases hn'
    · rcases he with rfl | rfl <;> cases hd
  | again => exact hr
  | wait => exact hr
  | _ => exact fun h => hr (.inr (h.resolve_left (fun h => by cases h)))

theorem connecting_of_unsettled (hn : ¬m.Settled) (hd : m.netState.isDown = false) :
    m.netState = .connecting := by
  unfold Settled at hn
  cases hs : m.netState <;> simp_all [NetState.isDown]

theorem toConnect_turn (h : Orderly m) (hw : m.Handed .waitNetworkConnect) (hn : ¬m.Settled)
    (ht : Turns m m') (hn' : ¬m'.Settled) : m'.turnsToConnect < m.turnsToConnect := by
  obtain ⟨hreleased, hreq⟩ := hw
  have hleave := not_leaving_of_released h hreleased
  have hup : m.netState.isDown = false → m.netState = .connecting ∧ m.toNetDisconnect = false := by
    intro hd
    refine ⟨connecting_of_unsettled hn hd, ?_⟩
    by_contra hf
    exact absurd (hd.symm.trans (down_of_pending h hreleased (by simpa using hf))) (fun h => by cases h)
  cases ht with
  | noConnect hc hf =>
    have hd : m.netState.isDown = false := by
      by_contra hd
      exact absurd (hf.symm.trans (hreq (by simpa using hd))) (fun h => by cases h)
    obtain ⟨hs, hf'⟩ := hup hd
    have hconn := (h.pending hs).resolve_right (by simp [hf'])
    rw [hc] at hconn
    simp [Connecting] at hconn
  | upAlready _ _ hs => exact absurd (.inl hs) hn
  | connect hc =>
    simp only [turnsToConnect, hc]
    omega
  | again err errReboot hc he hr hlt =>
    simp only [turnsToConnect, hc]
    omega
  | linked _ hc =>
    simp only [turnsToConnect, hc]
    omega
  | failed _ _ n hc he => exact absurd (.inr he) hn'
  | sync hc => simp [turnsToConnect, hc]
  | noSync hc he =>
    obtain ⟨hs, hf⟩ := hup (h.asked (by rcases hc with hc | hc <;> simp [Connecting, hc])).2
    rcases he with he | he
    · exact absurd (hf.symm.trans he) (fun h => by cases h)
    · exact absurd (.inr he) hn
  | connected => exact absurd (.inl rfl) hn'
  | register hc | resume hc | connectDone hc =>
    obtain ⟨hs, hf⟩ := hup (h.asked (by simp [Connecting, hc])).2
    rcases h.settled (by simp [hc]) with he | he
    · exact absurd hs he
    · exact absurd (hf.symm.trans he) (fun h => by cases h)
  | noDisconnect hc | disconnectDone hc => simp [turnsToConnect, hc]
  | pause hc hf | close hc hf =>
    have hc' := hreleased hf
    rw [hc] at hc'
    cases hc'
  | paused hc | wait hc | closed _ hc | unregistered hc | reboot hc | down _ hc =>
    exact absurd (by simp [Leaving, hc]) hleave

theorem toDisconnect_turn (h : Orderly m) (hf : m.toNetDisconnect = true)
    (hd : m.netState.isDown = false) (ht : Turns m m') (hd' : m'.netState.isDown = false) :
    m'.turnsToDisconnect < m.turnsToDisconnect := by
  cases ht with
  | upAlready hn hc | connect hn hc =>
    have hconn := h.taken hd hc
    rw [hn] at hconn
    simp [Connecting] at hconn
  | sync _ hf' | connected _ hf' | noDisconnect _ hf' => exact absurd (hf.symm.trans hf') (fun h => by cases h)
  | again err errReboot hn he hr hlt =>
    simp only [turnsToDisconnect, hn]
    omega
  | wait hn hlt =>
    simp only [turnsToDisconnect, hn]
    omega
  | noSync hn => rcases hn with hn | hn <;> simp [turnsToDisconnect, hn]
  | reboot => cases hd'
  | down n _ _ hdown => exact absurd (hdown.symm.trans hd') (fun h => by cases h)
  | disconnectDone hn => exact absurd ((h.gone hn).symm.trans hd) (fun h => by cases h)
  | noConnect hn | linked _ hn | failed _ _ _ hn | register hn | resume hn | connectDone hn | pause hn
  | close hn | paused hn | closed _ hn | unregistered hn =>
    simp only [turnsToDisconnect, hn]
    omega

end MainLoop

namespace TwoThreads

open EventRun MainLoop
open PauseBookkeeping (ClientCall calls)

def Answered (s : TwoThreads) : Prop := s.main.Answers s.app.appState

instance : DecidablePred Answered := fun s =>
  inferInstanceAs (Decidable (s.main.Answers s.app.appState))

/-- No registration is reported for a client that has been closed. -/
def Quiet (s : TwoThreads) : ThreadsEvent → Prop
  | .registeredCallback =>
    s.main.next = .network ∨ s.main.netState.isDown = true → s.main.paused = true
  | _ => True

def lastCall (s : TwoThreads) (e : ThreadsEvent) (last : Option ClientCall) : Option ClientCall :=
  if s.reboots e then none
  else
    match e.main with
    | some m => (calls s.main m).or last
    | none => last

/-- The client reports a registration only once it has been started, and not when it was closed. -/
def Reports (p : TwoThreads × Option ClientCall) : ThreadsEvent → Prop
  | .registeredCallback => p.2 ≠ none ∧ p.2 ≠ some .closed
  | _ => True

instance (p : TwoThreads × Option ClientCall) : DecidablePred (Reports p)
  | .registeredCallback => inferInstanceAs (Decidable (_ ∧ _))
  | .isRegistered | .app _ | .clientRegistered | .clientUnregistered | .loop _ => .isTrue trivial

def turnsLeft (s : TwoThreads) : ℕ :=
  if s.app.appState = .waitNetworkConnect then s.main.turnsToConnect else s.main.turnsToDisconnect

structure Live (s : TwoThreads) : Prop extends s.InStep where
  resting : s.main.Resting

variable {s : TwoThreads}

theorem live_restart (files : Files) : (restart (State.boot files)).Live :=
  ⟨inStep_restart files, fun _ => .inl rfl⟩

theorem asked_resting {m : MainLoop} (asked : List PelionRequest) (h : m.Resting) :
    (run MainLoop.step m (asked.map PelionRequest.call)).Resting := by
  obtain ⟨hn, hs, hr, hp, -⟩ := asked_keeps m asked
  unfold Resting
  rw [hn, hs, hr, hp]
  exact h

theorem live_step (e : ThreadsEvent) (h : s.Live) (hp : s.Prompt e) (hq : s.Quiet e) :
    (s.step e).Live := by
  refine ⟨inStep_step e h.toInStep hp, ?_⟩
  have hsteps := step_steps s e
  generalize s.step e = t at hsteps
  cases hsteps with
  | restarts => exact fun _ => .inl rfl
  | looks | still => exact h.resting
  | pass i i' app asked => exact asked_resting asked h.resting
  | main he =>
    cases e with
    | isRegistered | app => cases he
    | clientRegistered | clientUnregistered =>
      cases he
      exact h.resting
    | registeredCallback =>
      cases he
      exact fun hn => .inr (hq hn)
    | loop ret =>
      cases he
      exact resting_turn h.orderly h.resting (loop_turns ret s.main)

theorem unanswered (h : s.Live) (hn : ¬s.Answered) :
    s.app.appState = .waitNetworkConnect ∧ s.main.Handed .waitNetworkConnect ∧ ¬s.main.Settled ∨
      s.app.appState ≠ .waitNetworkConnect ∧ s.app.appState.isDeregistering = true ∧
        s.main.toNetDisconnect = true ∧ s.main.netState.isDown = false := by
  have hw := h.handed
  unfold Answered at hn
  cases hs : s.app.appState with
  | waitNetworkConnect =>
    rw [hs] at hw hn
    exact .inl ⟨rfl, hw, hn⟩
  | waitPelionDereg =>
    rw [hs] at hw hn
    refine .inr ⟨(fun h => by cases h), rfl, hw.resolve_right fun hr => hn ?_⟩
    exact h.resting (.inr hr.down)
  | waitNetworkDisconnected =>
    rw [hs] at hw hn
    exact .inr ⟨(fun h => by cases h), rfl, hw.resolve_right fun hr => hn hr.down⟩
  | _ =>
    rw [hs] at hn
    exact absurd trivial hn

section Reported

def Heard (s : TwoThreads) (last : Option ClientCall) : Prop :=
  s.main.next = .network ∨ s.main.netState.isDown = true →
    last = none ∨ last = some .closed ∨ s.main.paused = true

theorem quiet_of_heard {last : Option ClientCall} {e : ThreadsEvent} (h : s.Heard last)
    (hr : Reports (s, last) e) : s.Quiet e := by
  cases e with
  | registeredCallback =>
    obtain ⟨hstarted, hopen⟩ := hr
    exact fun hn => ((h hn).resolve_left hstarted).resolve_left hopen
  | _ => trivial

theorem calls_none {m : MainLoop} (ret : ConnectResult) (hr : m.next ≠ .register)
    (hd : m.next ≠ .disconnect ∨ m.toNetDisconnect = false) (hc : m.next ≠ .closed) :
    calls m (.loop ret) = none := by
  unfold calls
  cases hn : m.next with
  | register => exact absurd hn hr
  | closed => exact absurd hn hc
  | disconnect => rw [hd.resolve_left (not_not.mpr hn)]; rfl
  | _ => rfl

theorem released_of_down (h : s.InStep) (hd : s.main.netState.isDown = true) :
    s.main.Released := by
  have hw := h.handed
  have honline := handed_online h
  cases hs : s.app.appState with
  | reset | readyToIdle | idle =>
    rw [hs] at hw
    exact hw.released
  | waitNetworkConnect =>
    rw [hs] at hw
    exact hw.1
  | toPelionDereg =>
    rw [hs] at hw
    exact absurd (hd.symm.trans hw.2) (fun h => by cases h)
  | waitPelionDereg | waitNetworkDisconnected =>
    rw [hs] at hw
    exact (hw.resolve_left fun hw => absurd (hd.symm.trans hw.2) (fun h => by cases h)).released
  | init | waitPelionReg | waitResourceSubscribed | waitDevReg | readyToStandby | standby =>
    rw [hs] at honline
    exact absurd (hd.symm.trans (honline rfl).2) (fun h => by cases h)

theorem lastCall_other (ret : ConnectResult) (last : Option ClientCall)
    (hr : s.reboots (.loop ret) = false) (hreg : s.main.next ≠ .register)
    (hdis : s.main.next ≠ .disconnect ∨ s.main.toNetDisconnect = false)
    (hclosed : s.main.next ≠ .closed) : s.lastCall (.loop ret) last = last := by
  rw [lastCall, hr, ThreadsEvent.main]
  dsimp only
  rw [calls_none ret hreg hdis hclosed, Option.none_or]
  rfl

theorem heard_turn {m : MainLoop} {last : Option ClientCall} (ret : ConnectResult) (h : s.InStep)
    (hh : s.Heard last) (hr : s.reboots (.loop ret) = false) (ht : Turns s.main m) :
    Heard { s with main := m } (s.lastCall (.loop ret) last) := by
  have hnone := lastCall_other ret last hr
  have hconn (hd : s.main.netState.isDown = true) : ¬Connecting s.main.next := fun hc =>
    absurd (hd.symm.trans (h.orderly.asked hc).2) (fun h => by cases h)
  intro hn
  cases ht with
  | paused => exact .inr (.inr rfl)
  | unregistered hclosed =>
    refine .inr (.inl ?_)
    rw [lastCall, hr, ThreadsEvent.main]
    dsimp only
    rw [calls, hclosed]
    rfl
  | register hreg | resume hreg =>
    have hd := hn.resolve_left (fun h => by cases h)
    exact absurd (by simp [Connecting, hreg]) (hconn hd)
  | pause hdis hf | close hdis hf =>
    have hdone := released_of_down h (hn.resolve_left (fun h => by cases h)) hf
    rw [hdis] at hdone
    cases hdone
  | connect | connected => rcases hn with hn | hn <;> cases hn
  | failed _ _ n hinit he =>
    rcases hn with hn | hn
    · cases hn
    · rcases he with rfl | rfl <;> cases hn
  | reboot hnet he =>
    have hboots : s.reboots (.loop ret) = true := by
      simp [reboots, PauseBookkeeping.reboots, hnet, he]
    exact absurd (hr.symm.trans hboots) Bool.false_ne_true
  | down _ hnet =>
    rw [hnone (by simp [hnet]) (by simp [hnet]) (by simp [hnet])]
    exact hh (.inl hnet)
  | noDisconnect hdis hf =>
    rw [hnone (by simp [hdis]) (.inr hf) (by simp [hdis])]
    exact hh (.inr (hn.resolve_left (fun h => by cases h)))
  | again _ _ hold | wait hold =>
    rw [hnone (by simp [hold]) (by simp [hold]) (by simp [hold])]
    exact hh hn
  | noSync hold =>
    rw [hnone (by rcases hold with hold | hold <;> simp [hold])
      (by rcases hold with hold | hold <;> simp [hold])
      (by rcases hold with hold | hold <;> simp [hold])]
    exact hh (.inr (hn.resolve_left (fun h => by cases h)))
  | noConnect hold | upAlready hold | linked _ hold | sync hold | connectDone hold | closed _ hold
  | disconnectDone hold =>
    rw [hnone (by simp [hold]) (by simp [hold]) (by simp [hold])]
    exact hh (.inr (hn.resolve_left (fun h => by cases h)))

theorem heard_step (e : ThreadsEvent) {last : Option ClientCall} (h : s.InStep)
    (hh : s.Heard last) : (s.step e).Heard (s.lastCall e last) := by
  have hsteps := step_steps s e
  generalize s.step e = t at hsteps
  cases hsteps with
  | restarts _ files hr =>
    rw [lastCall, hr]
    exact fun _ => .inl rfl
  | looks => exact hh
  | still e app ha _ _ hr =>
    rw [lastCall, hr]
    exact hh
  | pass i i' app asked hl hm _ _ hr =>
    obtain ⟨hn, hs, -, hp, -⟩ := asked_keeps s.main asked
    rw [lastCall, hr, Heard, hn, hs, hp]
    exact hh
  | main he hr =>
    cases e with
    | isRegistered | app => cases he
    | clientRegistered | clientUnregistered | registeredCallback =>
      cases he
      exact hh
    | loop ret =>
      cases he
      exact heard_turn ret h hh hr (loop_turns ret s.main)

theorem quiet_of_reports {files : Files} {events : List ThreadsEvent}
    (hp : Throughout step Prompt (start files) events)
    (hr : Throughout (withHistory step lastCall) Reports (start files, none) events) :
    Throughout step Quiet (start files) events := by
  have hstep : ∀ (p : TwoThreads × Option ClientCall) (e : ThreadsEvent),
      p.1.InStep ∧ p.1.Heard p.2 → p.1.Prompt e ∧ Reports p e →
        (p.1.step e).InStep ∧ (p.1.step e).Heard (p.1.lastCall e p.2) :=
    fun p e h hg => ⟨inStep_step e h.1 hg.1, heard_step e h.1 h.2⟩
  have hquiet : Throughout (withHistory step lastCall) (fun p e => p.1.Quiet e)
      (start files, none) events :=
    throughout_of_guard hstep (fun p e h hg => quiet_of_heard h.2 hg.2)
      ⟨inStep_restart files, fun _ => .inl rfl⟩
      (throughout_and.mpr ⟨throughout_withHistory.mpr hp, hr⟩)
  exact throughout_withHistory.mp hquiet

end Reported

theorem turnsLeft_pos (s : TwoThreads) : 0 < s.turnsLeft := by
  unfold turnsLeft
  split
  · exact turnsToConnect_pos s.main
  · exact turnsToDisconnect_pos s.main

theorem answered_restart (files : Files) : (restart (State.boot files)).Answered := by
  unfold Answered
  rw [show (restart (State.boot files)).app.appState = .readyToIdle from State.boot_appState files]
  trivial

theorem unanswered_pass {i' : Inputs} {t : TwoThreads} {asked : List PelionRequest} (h : s.Live)
    (hm : Moves i' s.app t.app.appState asked) (hn : ¬s.Answered) (hn' : ¬t.Answered) :
    asked = [] ∧
      (t.app.appState = .waitNetworkConnect ↔ s.app.appState = .waitNetworkConnect) := by
  have hwaits : s.app.appState = .waitNetworkConnect ∨ s.app.appState.isDeregistering = true := by
    rcases unanswered h hn with hs | hs
    · exact .inl hs.1
    · exact .inr hs.2.1
  unfold Answered at hn'
  generalize t.app.appState = a at hm hn' ⊢
  cases hm with
  | stay => exact ⟨rfl, Iff.rfl⟩
  | connected | failed | gaveUp | disconnected => exact absurd trivial hn'
  | deregistered hs => exact ⟨rfl, by rw [hs]; exact ⟨(fun h => by cases h), (fun h => by cases h)⟩⟩
  | terminated hs => exact absurd trivial hn'
  | toIdle | toRegister | registered | subscribed | devRegistered | toStandby => exact absurd trivial hn'
  | toRestart hs | undone hs | toDeregister hs =>
    rw [hs] at hwaits
    rcases hwaits with hs | hs <;> cases hs

theorem turnsLeft_loop (ret : ConnectResult) (h : s.Live) (hn : ¬s.Answered)
    (hn' : ¬Answered { s with main := s.main.loop ret }) :
    turnsLeft { s with main := s.main.loop ret } < s.turnsLeft := by
  have ht := loop_turns ret s.main
  unfold turnsLeft
  dsimp only
  rcases unanswered h hn with ⟨hs, hw, hset⟩ | ⟨hs, -, hf, hd⟩
  · rw [if_pos hs, if_pos hs]
    refine toConnect_turn h.orderly hw hset ht fun hset' => hn' ?_
    unfold Answered
    dsimp only
    rw [hs]
    exact hset'
  · rw [if_neg hs, if_neg hs]
    refine toDisconnect_turn h.orderly hf hd ht ?_
    by_contra hd'
    have hdown : (s.main.loop ret).netState.isDown = true := by simpa using hd'
    have hrest := resting_turn h.orderly h.resting ht (.inr hdown)
    refine hn' ?_
    unfold Answered
    dsimp only
    cases ha : s.app.appState with
    | waitNetworkConnect => exact absurd ha hs
    | waitPelionDereg => exact hrest
    | waitNetworkDisconnected => exact hdown
    | _ => trivial

theorem turnsLeft_step (e : ThreadsEvent) (h : s.Live) (hn : ¬s.Answered)
    (hn' : ¬(s.step e).Answered) :
    (s.step e).turnsLeft + (if e.isLoop then 1 else 0) ≤ s.turnsLeft := by
  have hsteps := step_steps s e
  generalize s.step e = t at hsteps hn'
  cases hsteps with
  | restarts _ files => exact absurd (answered_restart files) hn'
  | looks => exact le_refl _
  | still e app ha =>
    unfold turnsLeft
    rw [show ({ s with app := app } : TwoThreads).app.appState = s.app.appState from ha]
    exact le_refl _
  | pass i i' app asked hl hm =>
    obtain ⟨rfl, hiff⟩ := unanswered_pass h hm hn hn'
    unfold turnsLeft
    simp only [hiff]
    exact le_refl _
  | main he =>
    cases e with
    | isRegistered | app => cases he
    | clientRegistered | clientUnregistered | registeredCallback =>
      cases he
      exact le_refl _
    | loop ret =>
      cases he
      exact turnsLeft_loop ret h hn hn'

theorem waits_end (files : Files) (events es : List ThreadsEvent)
    (hp : Throughout (withHistory step sinceRequest) Paced (start files, 0) (events ++ es))
    (hr : Throughout (withHistory step lastCall) Reports (start files, none) (events ++ es))
    (hw : Throughout step (fun s _ => ¬s.Answered) (run step (start files) events) es) :
    es.countP ThreadsEvent.isLoop ≤ 26 := by
  have hstep : ∀ (s : TwoThreads) (e : ThreadsEvent), s.Live → s.Prompt e ∧ s.Quiet e →
      (s.step e).Live := fun s e h hg => live_step e h hg.1 hg.2
  have hprompt := prompt_of_paced hp
  have hg := throughout_and.mpr ⟨hprompt, quiet_of_reports hprompt hr⟩
  rw [throughout_append] at hg
  have hlive := inv_of_guard hstep (live_restart files) hg.1
  have hcount := countP_le_rank hstep (fun s e h _ => turnsLeft_step e h)
    (fun s _ _ => turnsLeft_pos s) hlive hg.2 hw
  refine hcount.trans ?_
  unfold turnsLeft
  split
  · exact (turns_le _).1
  · exact (turns_le _).2

def givingUp : List ThreadsEvent :=
  [.app (.iterate quiet), .loop .success, .app (.timer .launchUpload), .app (.iterate quiet),
    .loop .success, .loop .success, .app (.timer .terminateUpload)] ++
    List.replicate 3 (.app (.iterate quiet))

def closingLate : List ThreadsEvent :=
  List.replicate 3 (.loop .timeout) ++ [.app (.iterate quiet)] ++
    List.replicate 4 (.loop .success) ++ [.clientRegistered] ++ List.replicate 13 (.loop .success)

theorem waits_end_late :
    closingLate.countP ThreadsEvent.isLoop = 20 ∧ closingLate.countP ThreadsEvent.isLoop ≤ 26 :=
  ⟨by decide, waits_end (fun _ => none) givingUp closingLate (by decide) (by decide) (by decide)⟩

end TwoThreads

end SlcNode
