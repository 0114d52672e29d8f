import SlcNode.Online

namespace SlcNode

def AppState.holdsNetwork : AppState → Bool
  | .reset | .readyToIdle | .idle | .waitPelionDereg | .waitNetworkDisconnected => false
  | .waitNetworkConnect | .init | .waitPelionReg | .waitResourceSubscribed | .waitDevReg
  | .readyToStandby | .standby | .toPelionDereg => true

def PelionRequest.isRestart : PelionRequest → Bool
  | .toRestart => true
  | .toDeregister _ => false

theorem moves_holds {i : Inputs} {s : State} {a : AppState} {asked : List PelionRequest}
    (h : Moves i s a asked) :
    a.holdsNetwork.toNat + asked.countP (fun r => !r.isRestart) =
      s.appState.holdsNetwork.toNat + asked.countP PelionRequest.isRestart := by
  cases h with
  | stay => rfl
  | terminated hs => rcases hs with hs | hs | hs | hs <;> rw [hs] <;> rfl
  | toIdle hs | toRestart hs | connected hs | failed hs | gaveUp hs | toRegister hs | registered hs
  | subscribed hs | devRegistered hs | toStandby hs | undone hs | toDeregister hs | deregistered hs
  | disconnected hs => rw [hs]; rfl

namespace MainLoop

def Released (m : MainLoop) : Prop := m.toNetDisconnect = true → m.next = .disconnectDone

structure AtRest (m : MainLoop) : Prop where
  down : m.netState.isDown = true
  toNetConnect : m.toNetConnect = false
  released : m.Released

structure Orderly (m : MainLoop) : Prop where
  connecting : m.next = .initConnection → m.netState = .connecting
  leaving : Leaving m.next → m.toNetDisconnect = true
  gone : m.next = .disconnectDone → m.netState.isDown = true
  asked : Connecting m.next → m.toNetConnect = true ∧ m.netState.isDown = false
  pending : m.netState = .connecting → Connecting m.next ∨ m.toNetDisconnect = true
  taken : m.netState.isDown = false → m.toNetConnect = true → Connecting m.next
  settled : m.next = .register ∨ m.next = .connectDone →
    m.netState ≠ .connecting ∨ m.toNetDisconnect = true

variable {m m' : MainLoop}

theorem orderly_start : Orderly start :=
  ⟨by decide, by decide, by decide, by decide, by decide, by decide, by decide⟩

theorem orderly_turn (h : Orderly m) (ht : Turns m m') : Orderly m' := by
  obtain ⟨hc, hl, hg, ha, hp, hk, hs⟩ := h
  cases ht with
  | upAlready hn hreq hup =>
    have hd : m.netState.isDown = false := by rw [hup]; rfl
    exact ⟨(fun h => by cases h), by simp [Leaving], (fun h => by cases h), fun _ => ⟨hreq, hd⟩, fun _ => .inl (.inr (.inl rfl)),
      fun _ _ => .inr (.inl rfl), by simp⟩
  | connect hn hreq =>
    exact ⟨fun _ => rfl, by simp [Leaving], (fun h => by cases h), fun _ => ⟨hreq, rfl⟩, fun _ => .inl (.inl rfl),
      fun _ _ => .inl rfl, by simp⟩
  | again => exact ⟨hc, hl, hg, ha, hp, hk, hs⟩
  | linked errReboot hn =>
    exact ⟨(fun h => by cases h), by simp [Leaving], (fun h => by cases h), fun _ => ha (.inl hn), fun _ => .inl (.inr (.inl rfl)),
      fun _ _ => .inr (.inl rfl), by simp⟩
  | failed err errReboot n hn he =>
    obtain ⟨hd, hne⟩ : n.isDown = false ∧ n ≠ .connecting := by rcases he with rfl | rfl <;> decide
    exact ⟨(fun h => by cases h), by simp [Leaving], (fun h => by cases h), fun _ => ⟨(ha (.inl hn)).1, hd⟩,
      fun h => absurd h hne, fun _ _ => .inr (.inl rfl), by simp⟩
  | noSync hn he =>
    have ha := ha (by rcases hn with hn | hn <;> simp [Connecting, hn])
    refine ⟨(fun h => by cases h), by simp [Leaving], (fun h => by cases h), fun _ => ha, fun _ => .inl (by simp [Connecting]),
      fun _ _ => by simp [Connecting], fun _ => ?_⟩
    rcases he with he | he | he
    · exact .inr he
    · exact .inl (by simp [he])
    · exact .inl (by simp [he])
  | connected hn =>
    have ha := ha (by simp [Connecting, hn])
    exact ⟨(fun h => by cases h), by simp [Leaving], (fun h => by cases h), fun _ => ⟨ha.1, rfl⟩, (fun h => by cases h),
      fun _ _ => by simp [Connecting], fun _ => .inl (fun h => by cases h)⟩
  | connectDone hn =>
    have hs := hs (.inr hn)
    exact ⟨(fun h => by cases h), by simp [Leaving], (fun h => by cases h), by simp [Connecting],
      fun h => .inr (hs.resolve_left (not_not.mpr h)), fun _ h => absurd h Bool.false_ne_true,
      by simp⟩
  | down n hn hne hd =>
    have hl := hl (by simp [Leaving, hn])
    exact ⟨(fun h => by cases h), by simp [Leaving], fun _ => hd, by simp [Connecting], fun _ => .inr hl,
      fun hu => absurd (hd.symm.trans hu) (fun h => by cases h), by simp⟩
  | reboot => exact orderly_start
  | disconnectDone hn =>
    have hd := hg hn
    have hne : m.netState ≠ .connecting := fun h => by rw [h] at hd; cases hd
    exact ⟨(fun h => by cases h), by simp [Leaving], (fun h => by cases h), by simp [Connecting], fun h => absurd h hne,
      fun hu => absurd (hd.symm.trans hu) (fun h => by cases h), by simp⟩
  | noConnect | sync | register | resume | noDisconnect | pause | close | paused | wait | closed
  | unregistered => constructor <;> simp_all [Connecting, Leaving]

theorem not_leaving_of_released (h : Orderly m) (hr : m.Released) : ¬Leaving m.next := by
  intro hl
  have hn := hr (h.leaving hl)
  rw [hn] at hl
  simp [Leaving] at hl

theorem down_of_pending (h : Orderly m) (hr : m.Released) (hd : m.toNetDisconnect = true) :
    m.netState.isDown = true := h.gone (hr hd)

theorem released_turn (h : Orderly m) (hr : m.Released) (ht : Turns m m') : m'.Released := by
  have hleave := not_leaving_of_released h hr
  cases ht with
  | noConnect hn | upAlready hn | connect hn | linked _ hn | failed _ _ _ hn | connectDone hn =>
    intro hd
    have hn' := hr hd
    rw [hn] at hn'
    cases hn'
  | again _ _ hn => exact hr
  | sync hn hd | connected hn hd => exact fun h => absurd (h.symm.trans hd) (fun h => by cases h)
  | noSync hn =>
    intro hd
    have hn' := hr hd
    rw [hn'] at hn
    rcases hn with hn | hn <;> cases hn
  | register hn | resume hn | noDisconnect hn | pause hn | close hn =>
    intro hd
    have hn' := hr hd
    rw [hn] at hn'
    cases hn'
  | paused hn | wait hn | closed _ hn | unregistered hn | reboot hn | down _ hn =>
    exact absurd (by simp [Leaving, hn]) hleave
  | disconnectDone => exact fun h => by cases h

theorem not_connecting_of_atRest (h : Orderly m) (hr : m.AtRest) : ¬Connecting m.next := fun hc =>
  absurd (hr.down.symm.trans (h.asked hc).2) (fun h => by cases h)

theorem atRest_turn (h : Orderly m) (hr : m.AtRest) (ht : Turns m m') : m'.AtRest := by
  have hleave := not_leaving_of_released h hr.released
  have hconn := not_connecting_of_atRest h hr
  have hrel := released_turn h hr.released ht
  cases ht with
  | upAlready hn hc | connect hn hc => exact absurd (hr.toNetConnect.symm.trans hc) (fun h => by cases h)
  | again _ _ hn | linked _ hn | failed _ _ _ hn | sync hn | connected hn | register hn | resume hn
  | connectDone hn => exact absurd (by simp [Connecting, hn]) hconn
  | noSync hn => exact absurd (by rcases hn with hn | hn <;> simp [Connecting, hn]) hconn
  | paused hn | wait hn | closed _ hn | unregistered hn | reboot hn | down _ hn =>
    exact absurd (by simp [Leaving, hn]) hleave
  | noConnect | noDisconnect | pause | close | disconnectDone => exact ⟨hr.down, hr.toNetConnect, hrel⟩

/-- What has been asked of the main thread and not answered, seen from where the application
stands. -/
def Handed (m : MainLoop) : AppState → Prop
  | .reset | .readyToIdle | .idle => m.AtRest
  | .waitNetworkConnect => m.Released ∧ (m.netState.isDown = true → m.toNetConnect = true)
  | .toPelionDereg => m.toNetDisconnect = false ∧ m.netState.isDown = false
  | .waitPelionDereg | .waitNetworkDisconnected =>
    m.toNetDisconnect = true ∧ m.netState.isDown = false ∨ m.AtRest
  | .init | .waitPelionReg | .waitResourceSubscribed | .waitDevReg | .readyToStandby
  | .standby => True

theorem atRest_start : start.AtRest := ⟨rfl, rfl, (fun h => by cases h)⟩

theorem waiting_turn (h : Orderly m) (hw : m.Handed .waitNetworkConnect) (ht : Turns m m') :
    m'.Handed .waitNetworkConnect := by
  have hleave := not_leaving_of_released h hw.1
  refine ⟨released_turn h hw.1 ht, fun hd => ?_⟩
  cases ht with
  | connectDone hn =>
    have ha := h.asked (by simp [Connecting, hn])
    exact absurd (hd.symm.trans ha.2) (fun h => by cases h)
  | down _ hn | reboot hn => exact absurd (by simp [Leaving, hn]) hleave
  | failed _ _ n hn he => rcases he with rfl | rfl <;> cases hd
  | connect | connected => cases hd
  | _ => exact hw.2 hd

theorem undisturbed_turn (h : Orderly m) (hw : m.Handed .toPelionDereg) (ht : Turns m m') :
    m'.Handed .toPelionDereg := by
  obtain ⟨hf, hd⟩ := hw
  have hleave : ¬Leaving m.next := fun hl => absurd (hf.symm.trans (h.leaving hl)) (fun h => by cases h)
  cases ht with
  | down _ hn | reboot hn => exact absurd (by simp [Leaving, hn]) hleave
  | failed _ _ n hn he => exact ⟨hf, by rcases he with rfl | rfl <;> rfl⟩
  | connect | connected => exact ⟨hf, rfl⟩
  | disconnectDone => exact ⟨rfl, hd⟩
  | _ => exact ⟨hf, hd⟩

theorem releasing_turn (h : Orderly m) (hw : m.Handed .waitPelionDereg) (ht : Turns m m') :
    m'.Handed .waitPelionDereg := by
  rcases hw with ⟨hf, hd⟩ | hr
  · cases ht with
    | down n hn hne hdown =>
      have hreq : m.toNetConnect = false := by
        by_contra hc
        have hconn := h.taken hd (by simpa using hc)
        rw [hn] at hconn
        simp [Connecting] at hconn
      exact .inr ⟨hdown, hreq, fun _ => rfl⟩
    | reboot => exact .inr atRest_start
    | failed _ _ n hn he => exact .inl ⟨hf, by rcases he with rfl | rfl <;> rfl⟩
    | connect | connected => exact .inl ⟨hf, rfl⟩
    | disconnectDone hn => exact absurd (hd.symm.trans (h.gone hn)) (fun h => by cases h)
    | _ => exact .inl ⟨hf, hd⟩
  · exact .inr (atRest_turn h hr ht)

theorem handed_turn {a : AppState} (h : Orderly m) (hw : m.Handed a) (ht : Turns m m') :
    m'.Handed a := by
  cases a with
  | reset | readyToIdle | idle => exact atRest_turn h hw ht
  | waitNetworkConnect => exact waiting_turn h hw ht
  | toPelionDereg => exact undisturbed_turn h hw ht
  | waitPelionDereg | waitNetworkDisconnected => exact releasing_turn h hw ht
  | init | waitPelionReg | waitResourceSubscribed | waitDevReg | readyToStandby | standby => trivial

def owesConnect (m : MainLoop) : Bool := m.toNetConnect && !decide (Connecting m.next)

def owesDisconnect (m : MainLoop) : Bool :=
  m.toNetDisconnect && !decide (Leaving m.next ∨ m.next = .disconnectDone)

theorem owesConnect_turn (h : Orderly m) (ht : Turns m m') :
    m.owesConnect.toNat =
      (decide (m.next = .connect) && m.toNetConnect).toNat + m'.owesConnect.toNat := by
  cases ht with
  | reboot hn hs =>
    have hc : m.toNetConnect = false := by
      by_contra hc
      have hconn := h.taken (by rw [hs]; rfl) (by simpa using hc)
      rw [hn] at hconn
      simp [Connecting] at hconn
    simp [owesConnect, hc, hn, start]
  | noSync hn => rcases hn with hn | hn <;> simp [owesConnect, Connecting, hn]
  | _ => simp_all [owesConnect, Connecting]

theorem owesDisconnect_turn (ht : Turns m m') :
    m.owesDisconnect.toNat =
      (decide (m.next = .disconnect) && m.toNetDisconnect).toNat + m'.owesDisconnect.toNat := by
  cases ht with
  | noSync hn => rcases hn with hn | hn <;> simp [owesDisconnect, Leaving, hn]
  | _ => simp_all [owesDisconnect, Leaving, start]

theorem owesConnect_toRestart (h : Orderly m) (hr : m.AtRest) :
    m.owesConnect = false ∧ (m.step .toRestart).owesConnect = true := by
  have hne := not_connecting_of_atRest h hr
  refine ⟨by rw [owesConnect, hr.toNetConnect, Bool.false_and], ?_⟩
  change (true && !decide (Connecting m.next)) = true
  rw [decide_eq_false hne]
  rfl

theorem owesDisconnect_toDeregister (h : Orderly m) (hw : m.Handed .toPelionDereg) (t : BitVec 2) :
    m.owesDisconnect = false ∧ (m.step (.toDeregister t)).owesDisconnect = true := by
  obtain ⟨hf, hd⟩ := hw
  have hne : ¬(Leaving m.next ∨ m.next = .disconnectDone) := by
    rintro (hl | hn)
    · exact absurd (hf.symm.trans (h.leaving hl)) (fun h => by cases h)
    · exact absurd (hd.symm.trans (h.gone hn)) (fun h => by cases h)
  refine ⟨by rw [owesDisconnect, hf, Bool.false_and], ?_⟩
  change (true && !decide (Leaving m.next ∨ m.next = .disconnectDone)) = true
  rw [decide_eq_false hne]
  rfl

theorem orderly_of_eq (hn : m'.next = m.next) (hs : m'.netState = m.netState)
    (hc : m'.toNetConnect = m.toNetConnect) (hd : m'.toNetDisconnect = m.toNetDisconnect)
    (h : Orderly m) : Orderly m' := by
  obtain ⟨h1, h2, h3, h4, h5, h6, h7⟩ := h
  rw [← hn, ← hs] at h1 h3
  rw [← hn, ← hd] at h2
  rw [← hn, ← hs, ← hc] at h4 h6
  rw [← hn, ← hs, ← hd] at h5 h7
  exact ⟨h1, h2, h3, h4, h5, h6, h7⟩

theorem handed_of_eq {a : AppState} (hn : m'.next = m.next) (hs : m'.netState = m.netState)
    (hc : m'.toNetConnect = m.toNetConnect) (hd : m'.toNetDisconnect = m.toNetDisconnect)
    (h : m.Handed a) : m'.Handed a := by
  have hreleased (h : m.Released) : m'.Released := fun hf => hn.trans (h (hd.symm.trans hf))
  have hrest (h : m.AtRest) : m'.AtRest :=
    ⟨(congrArg _ hs).trans h.down, hc.trans h.toNetConnect, hreleased h.released⟩
  cases a with
  | reset | readyToIdle | idle => exact hrest h
  | waitNetworkConnect => exact ⟨hreleased h.1, fun hf => hc.trans (h.2 ((congrArg _ hs.symm).trans hf))⟩
  | toPelionDereg => exact ⟨hd.trans h.1, (congrArg _ hs).trans h.2⟩
  | waitPelionDereg | waitNetworkDisconnected =>
    exact h.imp (fun h => ⟨hd.trans h.1, (congrArg _ hs).trans h.2⟩) hrest
  | init | waitPelionReg | waitResourceSubscribed | waitDevReg | readyToStandby | standby => trivial

end MainLoop

namespace TwoThreads

open EventRun MainLoop

/-- The upload is given up only after the main thread has begun to connect for it. -/
def Prompt (s : TwoThreads) : ThreadsEvent → Prop
  | .app (.iterate _) => s.app.appState = .waitNetworkConnect →
      s.app.terminateUpload.trigger = true → s.main.netState.isDown = false
  | _ => True

structure InStep (s : TwoThreads) : Prop where
  coherent : s.Coherent
  orderly : s.main.Orderly
  handed : s.main.Handed s.app.appState

variable {s : TwoThreads}

theorem inStep_restart (files : Files) : (restart (State.boot files)).InStep := by
  refine ⟨coherent_restart files, orderly_start, ?_⟩
  rw [show (restart (State.boot files)).app.appState = .readyToIdle from State.boot_appState files]
  exact atRest_start

theorem inStep_asks {i' : Inputs} {a : AppState} {asked : List PelionRequest} (h : s.InStep)
    (hm : Moves i' s.app a asked) :
    asked = [] ∨ (∃ t, asked = [.toDeregister t] ∧ s.app.appState = .toPelionDereg ∧
      a = .waitPelionDereg ∧ s.main.Handed .toPelionDereg) ∨
      asked = [.toRestart] ∧ s.app.appState = .idle ∧ a = .waitNetworkConnect ∧ s.main.AtRest := by
  have hw := h.handed
  cases hm with
  | toRestart hs =>
    rw [hs] at hw
    exact .inr (.inr ⟨rfl, hs, rfl, hw⟩)
  | toDeregister hs =>
    rw [hs] at hw
    exact .inr (.inl ⟨_, rfl, hs, rfl, hw⟩)
  | _ => exact .inl rfl

theorem orderly_toRestart {m : MainLoop} (h : m.Orderly) (hd : m.netState.isDown = true) :
    (m.step .toRestart).Orderly :=
  ⟨h.connecting, h.leaving, h.gone, fun hc => ⟨rfl, (h.asked hc).2⟩, h.pending,
    fun hu => absurd (hd.symm.trans hu) (fun h => by cases h), h.settled⟩

theorem orderly_toDeregister {m : MainLoop} (h : m.Orderly) (t : BitVec 2) :
    (m.step (.toDeregister t)).Orderly :=
  ⟨h.connecting, fun _ => rfl, h.gone, h.asked, fun _ => .inr rfl, h.taken, fun _ => .inr rfl⟩

theorem handed_undone (h : s.InStep) (hs : s.app.appState = .waitNetworkConnect)
    (hd : s.main.netState.isDown = false) : s.main.Handed .toPelionDereg := by
  have hw := h.handed
  rw [hs] at hw
  refine ⟨?_, hd⟩
  by_contra hf
  have hgone := down_of_pending h.orderly hw.1 (by simpa using hf)
  exact absurd (hd.symm.trans hgone) (fun h => by cases h)

theorem handed_online (h : s.InStep) (ho : s.app.appState.isOnline = true) :
    s.main.toNetDisconnect = false ∧ s.main.netState.isDown = false := by
  obtain ⟨hup, hflag, -⟩ := h.coherent.undisturbed ho
  exact ⟨hflag, by rw [hup]; rfl⟩

theorem handed_pass {i i' : Inputs} {a : AppState} (h : s.InStep)
    (hp : s.Prompt (.app (.iterate i))) (hl : s.look (.iterate i) = .iterate i')
    (hm : Moves i' s.app a []) : s.main.Handed a := by
  have hw := h.handed
  have hnet : i'.netState = s.main.netState := by
    cases hl
    rfl
  have honline := handed_online h
  cases hm with
  | stay => exact hw
  | toIdle hs | deregistered hs =>
    rw [hs] at hw
    exact hw
  | connected | toRegister | registered | subscribed | devRegistered | toStandby => trivial
  | failed hs he =>
    refine handed_undone h hs ?_
    rw [← hnet]
    rcases he with he | he <;> rw [he] <;> rfl
  | gaveUp hs ht => exact handed_undone h hs (hp hs ht)
  | undone hs =>
    rw [hs] at honline
    obtain ⟨hf, hd⟩ := honline rfl
    exact ⟨fun h => absurd (hf.symm.trans h) (fun h => by cases h), fun h => absurd (hd.symm.trans h) (fun h => by cases h)⟩
  | terminated hs => exact honline (by rcases hs with hs | hs | hs | hs <;> rw [hs] <;> rfl)
  | disconnected hs hd =>
    rw [hs] at hw
    rw [hnet] at hd
    exact hw.resolve_left fun hw => absurd (hd.symm.trans hw.2) (fun h => by cases h)

theorem inStep_pass {i i' : Inputs} {app : State} {asked : List PelionRequest} (h : s.InStep)
    (hp : s.Prompt (.app (.iterate i))) (hl : s.look (.iterate i) = .iterate i')
    (hm : Moves i' s.app app.appState asked) :
    InStep ⟨app, run MainLoop.step s.main (asked.map PelionRequest.call), none⟩ := by
  have hc := coherent_pass h.coherent hl hm
  rcases inStep_asks h hm with rfl | ⟨t, rfl, -, ha, hf, hd⟩ | ⟨rfl, -, ha, hr⟩
  · have hw : s.main.Handed app.appState := handed_pass h hp hl hm
    exact ⟨hc, h.orderly, hw⟩
  · refine ⟨hc, orderly_toDeregister h.orderly t, ?_⟩
    dsimp only
    rw [ha]
    exact .inl ⟨rfl, hd⟩
  · refine ⟨hc, orderly_toRestart h.orderly hr.down, ?_⟩
    dsimp only
    rw [ha]
    exact ⟨hr.released, fun _ => rfl⟩

theorem inStep_step (e : ThreadsEvent) (h : s.InStep) (hp : s.Prompt e) : (s.step e).InStep := by
  have hsteps := step_steps s e
  have hc := coherent_step e h.coherent
  generalize s.step e = t at hsteps hc
  cases hsteps with
  | restarts _ files => exact inStep_restart files
  | looks => exact ⟨hc, h.orderly, h.handed⟩
  | still e app ha => exact ⟨hc, h.orderly, ha.symm ▸ h.handed⟩
  | pass i i' app asked hl hm => exact inStep_pass h hp hl hm
  | main he hr =>
    cases e with
    | isRegistered | app => cases he
    | clientRegistered | clientUnregistered | registeredCallback =>
      cases he
      exact ⟨hc, orderly_of_eq (m := s.main) rfl rfl rfl rfl h.orderly,
        handed_of_eq (m := s.main) rfl rfl rfl rfl h.handed⟩
    | loop ret =>
      cases he
      exact ⟨hc, orderly_turn h.orderly (loop_turns ret s.main),
        handed_turn h.orderly h.handed (loop_turns ret s.main)⟩

section Pace

/-- How often the loop has turned since the application last asked for the connection. -/
def sinceRequest (s : TwoThreads) (e : ThreadsEvent) (turns : ℕ) : ℕ :=
  if s.reboots e then 0
  else
    match e with
    | .loop _ => turns + 1
    | .app e => if PelionRequest.toRestart ∈ s.asked (s.look e) then 0 else turns
    | _ => turns

/-- The upload is given up only when the loop has turned twice since the request for the
connection. -/
def Paced (p : TwoThreads × ℕ) : ThreadsEvent → Prop
  | .app (.iterate _) => p.1.app.appState = .waitNetworkConnect →
      p.1.app.terminateUpload.trigger = true → 2 ≤ p.2
  | _ => True

instance (p : TwoThreads × ℕ) : DecidablePred (Paced p)
  | .app (.iterate _) => inferInstanceAs (Decidable (_ → _ → _))
  | .app (.config _) | .app (.threshold _) | .app (.lightSchedule _) | .app (.timer _)
  | .app .reboot | .app (.lightDim _) | .app .customAtCmd | .app .fwUpdateTriggered
  | .app .fwUpdateTerminated | .app .kickAppTimer | .isRegistered | .clientRegistered
  | .registeredCallback | .clientUnregistered | .loop _ => .isTrue trivial

def turnsToBegin (m : MainLoop) : ℕ := if m.next = .connect then 1 else 2

def Begins (s : TwoThreads) (turns : ℕ) : Prop :=
  s.app.appState = .waitNetworkConnect → s.main.netState.isDown = true →
    turns + turnsToBegin s.main ≤ 2

theorem prompt_of_begins {turns : ℕ} {e : ThreadsEvent} (h : s.Begins turns)
    (hp : Paced (s, turns) e) : s.Prompt e := by
  cases e with
  | app e =>
    cases e with
    | iterate i =>
      intro hs ht
      by_contra hd
      have hbegins := h hs (by simpa using hd)
      have hpaced : 2 ≤ turns := hp hs ht
      unfold turnsToBegin at hbegins
      split at hbegins <;> omega
    | _ => trivial
  | _ => trivial

theorem begins_turn {m : MainLoop} {turns : ℕ} (h : s.InStep) (hb : s.Begins turns)
    (ht : Turns s.main m) : Begins { s with main := m } (turns + 1) := by
  intro hs hd
  have hw := h.handed
  rw [show s.app.appState = .waitNetworkConnect from hs] at hw
  have hleave := not_leaving_of_released h.orderly hw.1
  have hidle (hdown : s.main.netState.isDown = true) : ¬Connecting s.main.next := fun hc =>
    absurd (hdown.symm.trans (h.orderly.asked hc).2) (fun h => by cases h)
  cases ht with
  | noDisconnect hn | disconnectDone hn =>
    have hold := hb hs hd
    simp only [turnsToBegin, hn] at hold ⊢
    simpa using hold
  | noConnect hn hc => exact absurd ((hw.2 hd).symm.trans hc) (fun h => by cases h)
  | upAlready hn hc hup =>
    have hd : s.main.netState.isDown = true := hd
    rw [hup] at hd
    cases hd
  | connect | connected => cases hd
  | failed _ _ n hn he => rcases he with rfl | rfl <;> cases hd
  | noSync hn => exact absurd (by rcases hn with hn | hn <;> simp [Connecting, hn]) (hidle hd)
  | again _ _ hn | linked _ hn | sync hn | register hn | resume hn | connectDone hn =>
    exact absurd (by simp [Connecting, hn]) (hidle hd)
  | pause hn hf | close hn hf =>
    have hdone := hw.1 hf
    rw [hn] at hdone
    cases hdone
  | paused hn | wait hn | closed _ hn | unregistered hn | reboot hn | down _ hn =>
    exact absurd (by simp [Leaving, hn]) hleave

theorem begins_asked {i i' : Inputs} {app : State} {asked : List PelionRequest} {turns : ℕ}
    (h : s.InStep) (hb : s.Begins turns) (hm : Moves i' s.app app.appState asked)
    (hasked : s.asked (s.look (.iterate i)) = asked) (hr : s.reboots (.app (.iterate i)) = false) :
    Begins ⟨app, run MainLoop.step s.main (asked.map PelionRequest.call), none⟩
      (s.sinceRequest (.app (.iterate i)) turns) := by
  rw [sinceRequest, hr, hasked]
  intro hs hd
  obtain ⟨hn, hnet, -⟩ := asked_keeps s.main asked
  have hd : s.main.netState.isDown = true := (congrArg _ hnet.symm).trans hd
  have hnext : turnsToBegin (run MainLoop.step s.main (asked.map PelionRequest.call)) =
      turnsToBegin s.main := by rw [turnsToBegin, hn, turnsToBegin]
  dsimp only at hs ⊢
  rw [hnext]
  generalize app.appState = a at hm hs
  cases hm with
  | stay =>
    rw [if_neg Bool.false_ne_true, if_neg (by simp)]
    exact hb hs hd
  | toRestart =>
    rw [if_neg Bool.false_ne_true, if_pos (by simp), turnsToBegin]
    split <;> simp
  | undone hstandby =>
    have hup := (handed_online h (by rw [hstandby]; rfl)).2
    exact absurd (hd.symm.trans hup) (fun h => by cases h)
  | _ => cases hs

theorem begins_step (e : ThreadsEvent) {turns : ℕ} (h : s.InStep) (hb : s.Begins turns) :
    (s.step e).Begins (s.sinceRequest e turns) := by
  have hsteps := step_steps s e
  generalize s.step e = t at hsteps
  cases hsteps with
  | restarts _ files =>
    intro hs
    rw [show (restart (State.boot files)).app.appState = .readyToIdle from State.boot_appState files]
      at hs
    cases hs
  | looks => exact hb
  | still e app ha _ hasked hr =>
    rw [sinceRequest, hr, hasked]
    exact fun hs => hb (ha.symm.trans hs)
  | pass i i' app asked hl hm _ hasked hr =>
    exact begins_asked h hb hm ((congrArg s.asked hl).trans hasked) hr
  | main he hr =>
    cases e with
    | isRegistered | app => cases he
    | clientRegistered | clientUnregistered | registeredCallback =>
      cases he
      exact hb
    | loop ret =>
      cases he
      rw [sinceRequest, hr]
      exact begins_turn h hb (loop_turns ret s.main)

theorem prompt_of_paced {files : Files} {events : List ThreadsEvent}
    (hp : Throughout (withHistory step sinceRequest) Paced (start files, 0) events) :
    Throughout step Prompt (start files) events := by
  have hstep : ∀ (p : TwoThreads × ℕ) (e : ThreadsEvent), p.1.InStep ∧ p.1.Begins p.2 →
      Paced p e → (p.1.step e).InStep ∧ (p.1.step e).Begins (p.1.sinceRequest e p.2) :=
    fun p e h hp => ⟨inStep_step e h.1 (prompt_of_begins h.2 hp), begins_step e h.1 h.2⟩
  have hstart : (start files).Begins 0 := by
    intro hs
    rw [show (start files).app.appState = .readyToIdle from State.boot_appState files] at hs
    cases hs
  have hprompt : Throughout (withHistory step sinceRequest) (fun p e => p.1.Prompt e)
      (start files, 0) events :=
    throughout_of_guard hstep (fun p e h hp => prompt_of_begins h.2 hp)
      ⟨inStep_restart files, hstart⟩ hp
  exact throughout_withHistory.mp hprompt

end Pace

structure Ledger where
  restarts : ℕ
  connects : ℕ
  deregisters : ℕ
  disconnects : ℕ
deriving DecidableEq

def asks (s : TwoThreads) : ThreadsEvent → List PelionRequest
  | .app e => s.asked (s.look e)
  | _ => []

def connects (s : TwoThreads) : ThreadsEvent → Bool
  | .loop _ => decide (s.main.next = .connect) && s.main.toNetConnect
  | _ => false

def disconnects (s : TwoThreads) : ThreadsEvent → Bool
  | .loop _ => decide (s.main.next = .disconnect) && s.main.toNetDisconnect
  | _ => false

def note (s : TwoThreads) (e : ThreadsEvent) (l : Ledger) : Ledger :=
  if s.reboots e then ⟨0, 0, 0, 0⟩
  else
    { restarts := l.restarts + (s.asks e).countP PelionRequest.isRestart
      connects := l.connects + (s.connects e).toNat
      deregisters := l.deregisters + (s.asks e).countP fun r => !r.isRestart
      disconnects := l.disconnects + (s.disconnects e).toNat }

structure Balanced (p : TwoThreads × Ledger) : Prop where
  restarts : p.2.restarts = p.2.connects + p.1.main.owesConnect.toNat
  deregisters : p.2.deregisters = p.2.disconnects + p.1.main.owesDisconnect.toNat
  alternate : p.2.restarts = p.2.deregisters + p.1.app.appState.holdsNetwork.toNat

theorem balanced_restart (files : Files) : Balanced (restart (State.boot files), ⟨0, 0, 0, 0⟩) := by
  refine ⟨rfl, rfl, ?_⟩
  rw [show (restart (State.boot files)).app.appState = .readyToIdle from State.boot_appState files]
  rfl

theorem note_asked {e : Event} {asked : List PelionRequest} (l : Ledger)
    (hr : s.reboots (.app e) = false) (h : s.asks (.app e) = asked) :
    s.note (.app e) l =
      { l with
        restarts := l.restarts + asked.countP PelionRequest.isRestart
        deregisters := l.deregisters + asked.countP fun r => !r.isRestart } := by
  rw [note, hr, h]
  rfl

theorem balanced_asked {i i' : Inputs} {app : State} {asked : List PelionRequest} {l : Ledger}
    (h : s.InStep) (hb : Balanced (s, l)) (hm : Moves i' s.app app.appState asked)
    (hasked : s.asks (.app (.iterate i)) = asked) (hr : s.reboots (.app (.iterate i)) = false) :
    Balanced (⟨app, run MainLoop.step s.main (asked.map PelionRequest.call), none⟩,
      s.note (.app (.iterate i)) l) := by
  obtain ⟨hc, hd, ha⟩ := hb
  have hholds := moves_holds hm
  have halternate : l.restarts + asked.countP PelionRequest.isRestart =
      l.deregisters + asked.countP (fun r => !r.isRestart) + app.appState.holdsNetwork.toNat := by
    dsimp only at ha
    omega
  rw [note_asked l hr hasked]
  rcases inStep_asks h hm with rfl | ⟨t, rfl, -, -, hw⟩ | ⟨rfl, -, -, hrest⟩
  · exact ⟨hc, hd, halternate⟩
  · obtain ⟨hno, hyes⟩ := owesDisconnect_toDeregister h.orderly hw t
    refine ⟨hc, ?_, halternate⟩
    change l.deregisters + 1 = l.disconnects + (s.main.step (.toDeregister t)).owesDisconnect.toNat
    rw [hyes, hd, hno]
    rfl
  · obtain ⟨hno, hyes⟩ := owesConnect_toRestart h.orderly hrest
    refine ⟨?_, hd, halternate⟩
    change l.restarts + 1 = l.connects + (s.main.step .toRestart).owesConnect.toNat
    rw [hyes, hc, hno]
    rfl

theorem note_main {e : ThreadsEvent} {m : MainEvent} (l : Ledger) (he : e.main = some m)
    (hr : s.reboots e = false) :
    s.note e l =
      { l with
        connects := l.connects + (s.connects e).toNat
        disconnects := l.disconnects + (s.disconnects e).toNat } := by
  have hasks : s.asks e = [] := by
    cases e with
    | app => cases he
    | _ => rfl
  rw [note, hr, hasks]
  rfl

theorem balanced_turn {ret : ConnectResult} {l : Ledger} (h : s.InStep) (hb : Balanced (s, l))
    (hr : s.reboots (.loop ret) = false) :
    Balanced ({ s with main := s.main.loop ret }, s.note (.loop ret) l) := by
  obtain ⟨hc, hd, ha⟩ := hb
  have ht := loop_turns ret s.main
  have hconnect := owesConnect_turn h.orderly ht
  have hdisconnect := owesDisconnect_turn ht
  rw [note_main l rfl hr]
  refine ⟨?_, ?_, ha⟩
  · change l.restarts = l.connects + (s.connects (.loop ret)).toNat + _
    rw [hc, Nat.add_assoc]
    exact congrArg _ hconnect
  · change l.deregisters = l.disconnects + (s.disconnects (.loop ret)).toNat + _
    rw [hd, Nat.add_assoc]
    exact congrArg _ hdisconnect

theorem balanced_step (e : ThreadsEvent) {l : Ledger} (h : s.InStep) (hb : Balanced (s, l)) :
    Balanced (s.step e, s.note e l) := by
  have hsteps := step_steps s e
  generalize s.step e = t at hsteps
  cases hsteps with
  | restarts _ files hr =>
    rw [note, hr]
    exact balanced_restart files
  | looks => exact ⟨hb.restarts, hb.deregisters, hb.alternate⟩
  | still e app ha _ hasked hr =>
    rw [note_asked l hr hasked]
    exact ⟨hb.restarts, hb.deregisters, ha.symm ▸ hb.alternate⟩
  | pass i i' app asked hl hm _ hasked hr =>
    exact balanced_asked h hb hm ((congrArg s.asked hl).trans hasked) hr
  | main he hr =>
    cases e with
    | isRegistered | app => cases he
    | clientRegistered | clientUnregistered | registeredCallback =>
      cases he
      rw [note_main l rfl hr]
      exact ⟨hb.restarts, hb.deregisters, hb.alternate⟩
    | loop ret =>
      cases he
      exact balanced_turn h hb hr

theorem taken_up_once (files : Files) (events : List ThreadsEvent)
    (hp : Throughout (withHistory step sinceRequest) Paced (start files, 0) events) :
    Balanced (run (withHistory step note) (start files, ⟨0, 0, 0, 0⟩) events) := by
  have hstep : ∀ (p : TwoThreads × Ledger) (e : ThreadsEvent), p.1.InStep ∧ Balanced p →
      p.1.Prompt e → (withHistory step note p e).1.InStep ∧ Balanced (withHistory step note p e) :=
    fun p e h hp => ⟨inStep_step e h.1 hp, balanced_step e h.1 h.2⟩
  exact (inv_of_guard hstep ⟨inStep_restart files, balanced_restart files⟩
    (throughout_withHistory.mpr (prompt_of_paced hp))).2

def givenUp : List ThreadsEvent :=
  [.app (.iterate quiet), .app (.timer .launchUpload), .app (.iterate quiet), .loop .success,
    .loop .success, .app (.timer .terminateUpload), .app (.iterate quiet), .app (.iterate quiet)]

theorem taken_up_once_givenUp :
    let p := run (withHistory step note) (start fun _ => none, ⟨0, 0, 0, 0⟩) givenUp
    Balanced p ∧ p.2 = ⟨1, 1, 1, 0⟩ :=
  ⟨taken_up_once (fun _ => none) givenUp (by decide), by decide⟩

def givenUpUnseen : List ThreadsEvent :=
  [.app (.iterate quiet), .app (.timer .launchUpload), .app (.iterate quiet),
    .app (.timer .terminateUpload)] ++ List.replicate 5 (.app (.iterate quiet)) ++
    [.app (.timer .launchUpload), .app (.iterate quiet)]

example :
    let p := run (withHistory step note) (start fun _ => none, ⟨0, 0, 0, 0⟩) givenUpUnseen
    p.2 = ⟨2, 0, 1, 0⟩ ∧ p.1.app.appState = .waitNetworkConnect ∧
      p.1.main.toNetDisconnect = true := by decide

end TwoThreads

end SlcNode
