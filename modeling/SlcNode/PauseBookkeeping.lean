import SlcNode.Library.EventRun
import SlcNode.MainTurns
import SlcNode.Thread

namespace SlcNode

namespace PauseBookkeeping

open EventRun

/-- What the loop last did with the client; `closed` when `PelionRegistered` fell with it. -/
inductive ClientCall
  | started
  | resumed
  | paused
  | closed
deriving DecidableEq, Repr

def calls (m : MainLoop) : MainEvent → Option ClientCall
  | .loop _ =>
    match m.next with
    | .register => some (if !m.pelionRegistered || !m.paused then .started else .resumed)
    | .disconnect => if m.toNetDisconnect && m.clientRegistered then some .paused else none
    | .closed => some .closed
    | _ => none
  | _ => none

def reboots (m : MainLoop) : MainEvent → Bool
  | .loop _ => m.next == .network && m.netState == .errorReboot
  | _ => false

def note (m : MainLoop) (e : MainEvent) (last : Option ClientCall) : Option ClientCall :=
  if reboots m e then none else (calls m e).or last

def Ended (last : Option ClientCall) : Prop := last = some .closed ∨ last = some .started

instance (last : Option ClientCall) : Decidable (Ended last) := inferInstanceAs (Decidable (_ ∨ _))

def Booked (p : MainLoop × Option ClientCall) (e : MainEvent) : Prop :=
  (Ended (note p.1 e p.2) → (p.1.step e).paused = false) ∧
    (e = .registeredCallback → note p.1 e p.2 = some .started →
      (p.1.step e).registeredUnpaused = true)

instance (p : MainLoop × Option ClientCall) (e : MainEvent) : Decidable (Booked p e) :=
  inferInstanceAs (Decidable (_ ∧ _))

/-- What the run has been told of the client: whether a `registered_callback` has come since the
client was last closed, whether it was paused and not resumed since, and whether the last
disconnect request taken up found it un-registered in between. -/
structure Past where
  reported : Bool
  unresumed : Bool
  lost : Bool
deriving DecidableEq

namespace Past

def fresh : Past := ⟨false, false, false⟩

def loop (m : MainLoop) (h : Past) : Past :=
  match m.next with
  | .disconnect =>
    if m.toNetDisconnect then
      if m.clientRegistered then { h with unresumed := true, lost := false }
      else { h with lost := h.unresumed }
    else h
  | .register => { h with unresumed := false }
  | .closed => { h with reported := false, unresumed := false }
  | _ => h

def note (m : MainLoop) (e : MainEvent) (h : Past) : Past :=
  if reboots m e then fresh
  else
    match e with
    | .registeredCallback => { h with reported := true }
    | .loop _ => h.loop m
    | _ => h

end Past

/-- The close branch ends for no client lost in a pause, and a client is resumed only when a
`registered_callback` has come. -/
def ResumesFirst (p : MainLoop × Past) : MainEvent → Prop
  | .loop _ =>
    (p.1.next = .closed → p.2.lost = false) ∧
      (p.1.next = .register → p.2.unresumed = true → p.2.reported = true)
  | _ => True

def noteBoth (m : MainLoop) (e : MainEvent) (h : Option ClientCall × Past) :
    Option ClientCall × Past :=
  (note m e h.1, Past.note m e h.2)

structure Inv (p : MainLoop × Option ClientCall × Past) : Prop where
  reported : p.1.pelionRegistered = p.2.2.reported
  unresumed : p.1.next ≠ .pausing → p.1.paused = p.2.2.unresumed
  pausing : p.1.next = .pausing → p.2.2.unresumed = true ∧ p.2.1 = some .paused
  lost : p.1.next = .closing ∨ p.1.next = .closed → p.2.2.lost = p.2.2.unresumed
  ended : Ended p.2.1 → p.1.paused = false

theorem inv_start : Inv (MainLoop.start, none, Past.fresh) :=
  ⟨rfl, fun _ => rfl, (fun h => by cases h), (fun h => by rcases h with h | h <;> cases h),
    fun _ => rfl⟩

section Turn

variable {m m' : MainLoop} {last : Option ClientCall} {h : Past}

theorem reboots_other (ret : ConnectResult) (hn : m.next ≠ .network) :
    reboots m (.loop ret) = false := by
  rw [reboots, beq_eq_false_iff_ne.mpr hn, Bool.false_and]

theorem noteBoth_loop (ret : ConnectResult) (hr : reboots m (.loop ret) = false) :
    noteBoth m (.loop ret) (last, h) = ((calls m (.loop ret)).or last, h.loop m) := by
  rw [noteBoth, note, Past.note, hr]
  rfl

theorem noteBoth_other (ret : ConnectResult) (hr : m.next ≠ .register) (hd : m.next ≠ .disconnect)
    (hc : m.next ≠ .closed) (hn : m.next ≠ .network) :
    noteBoth m (.loop ret) (last, h) = (last, h) := by
  rw [noteBoth_loop ret (reboots_other ret hn)]
  unfold calls Past.loop
  cases hm : m.next <;> first | rfl | exact absurd hm (by assumption)

theorem inv_other {p : Option ClientCall × Past} (hi : Inv (m, p)) (hp : m.next ≠ .pausing)
    (hreg : m'.pelionRegistered = m.pelionRegistered) (hpaused : m'.paused = m.paused)
    (hnext : m'.next ≠ .pausing)
    (hclose : m'.next = .closing ∨ m'.next = .closed → m.next = .closing) : Inv (m', p) :=
  ⟨hreg.trans hi.reported, fun _ => hpaused.trans (hi.unresumed hp), fun h => absurd h hnext,
    fun h => hi.lost (.inl (hclose h)), fun he => hpaused.trans (hi.ended he)⟩

theorem inv_register (ret : ConnectResult) (hi : Inv (m, last, h)) (hn : m.next = .register)
    (hg : h.unresumed = true → h.reported = true)
    (hreg : m.pelionRegistered = false ∨ m.paused = false) :
    Inv ({ m with next := .connectDone }, noteBoth m (.loop ret) (last, h)) := by
  have hreported : m.pelionRegistered = h.reported := hi.reported
  have hunresumed : m.paused = h.unresumed := hi.unresumed (by simp [hn])
  have hpaused : m.paused = false := by
    rcases hreg with hreg | hp
    · by_contra hp
      rw [hunresumed, Bool.not_eq_false] at hp
      exact Bool.noConfusion ((hreg.symm.trans hreported).trans (hg hp))
    · exact hp
  rw [noteBoth_loop ret (reboots_other ret (by simp [hn])), Past.loop, hn]
  exact ⟨hreported, fun _ => hpaused, by simp, by simp, fun _ => hpaused⟩

theorem inv_resume (ret : ConnectResult) (hi : Inv (m, last, h)) (hn : m.next = .register) :
    Inv ({ m with paused := false, next := .connectDone }, noteBoth m (.loop ret) (last, h)) := by
  rw [noteBoth_loop ret (reboots_other ret (by simp [hn])), Past.loop, hn]
  exact ⟨hi.reported, fun _ => rfl, by simp, by simp, fun _ => rfl⟩

theorem inv_pause (ret : ConnectResult) (hi : Inv (m, last, h)) (hn : m.next = .disconnect)
    (hd : m.toNetDisconnect = true) (hc : m.clientRegistered = true) :
    Inv ({ m with next := .pausing }, noteBoth m (.loop ret) (last, h)) := by
  rw [noteBoth_loop ret (reboots_other ret (by simp [hn])), calls, Past.loop, hn, hd, hc]
  exact ⟨hi.reported, by simp, fun _ => ⟨rfl, rfl⟩, by simp, by simp [Ended]⟩

theorem inv_close (ret : ConnectResult) (hi : Inv (m, last, h)) (hn : m.next = .disconnect)
    (hd : m.toNetDisconnect = true) (hc : m.clientRegistered = false) :
    Inv ({ m with waitcnt := 0, next := .closing }, noteBoth m (.loop ret) (last, h)) := by
  rw [noteBoth_loop ret (reboots_other ret (by simp [hn])), calls, Past.loop, hn, hd, hc]
  exact ⟨hi.reported, fun _ => hi.unresumed (by simp [hn]), by simp, fun _ => rfl, hi.ended⟩

theorem inv_closed (ret : ConnectResult) (hi : Inv (m, last, h)) (hn : m.next = .closed)
    (hg : h.lost = false) :
    Inv ({ m with pelionRegistered := false, next := .network },
      noteBoth m (.loop ret) (last, h)) := by
  have hlost : h.lost = h.unresumed := hi.lost (.inr hn)
  have hpaused : m.paused = false :=
    (hi.unresumed (by simp [hn])).trans (hlost.symm.trans hg)
  rw [noteBoth_loop ret (reboots_other ret (by simp [hn])), Past.loop, hn]
  exact ⟨rfl, fun _ => hpaused, by simp, by simp, fun _ => hpaused⟩

theorem inv_loop (ret : ConnectResult) (hi : Inv (m, last, h))
    (hg : ResumesFirst (m, h) (.loop ret)) :
    Inv (m.loop ret, noteBoth m (.loop ret) (last, h)) := by
  have ht := MainLoop.loop_turns ret m
  generalize m.loop ret = m' at ht
  have hother (hr : m.next ≠ .register) (hd : m.next ≠ .disconnect) (hc : m.next ≠ .closed)
      (hn : m.next ≠ .network) : noteBoth m (.loop ret) (last, h) = (last, h) :=
    noteBoth_other ret hr hd hc hn
  cases ht with
  | register hn hreg => exact inv_register ret hi hn (hg.2 hn) hreg
  | resume hn => exact inv_resume ret hi hn
  | pause hn hd hc => exact inv_pause ret hi hn hd hc
  | close hn hd hc => exact inv_close ret hi hn hd hc
  | unregistered hn => exact inv_closed ret hi hn (hg.1 hn)
  | reboot hn he =>
    rw [noteBoth, note, Past.note, show reboots m (.loop ret) = true by simp [reboots, hn, he]]
    exact inv_start
  | down n hn he =>
    have hr : reboots m (.loop ret) = false := by
      rw [reboots, beq_eq_false_iff_ne.mpr he, Bool.and_false]
    rw [noteBoth_loop ret hr, calls, Past.loop, hn]
    exact inv_other hi (by simp [hn]) rfl rfl (by simp) (by simp)
  | noDisconnect hn hd =>
    rw [noteBoth_loop ret (reboots_other ret (by simp [hn])), calls, Past.loop, hn, hd]
    exact inv_other hi (by simp [hn]) rfl rfl (by simp) (by simp)
  | paused hn =>
    rw [hother (by simp [hn]) (by simp [hn]) (by simp [hn]) (by simp [hn])]
    obtain ⟨hunresumed, hlast⟩ := hi.pausing hn
    exact ⟨hi.reported, fun _ => hunresumed.symm, by simp, by simp, by
      rw [show last = some .paused from hlast]; simp [Ended]⟩
  | wait hn | closed _ hn =>
    rw [hother (by simp [hn]) (by simp [hn]) (by simp [hn]) (by simp [hn])]
    exact inv_other hi (by simp [hn]) rfl rfl (by simp [hn]) fun _ => hn
  | again _ _ hn =>
    rw [hother (by simp [hn]) (by simp [hn]) (by simp [hn]) (by simp [hn])]
    exact inv_other hi (by simp [hn]) rfl rfl (by simp [hn]) (by simp [hn])
  | noSync hn =>
    have hne : m.next = .established ∨ m.next = .syncTime := hn
    rcases hne with hn | hn <;>
      rw [hother (by simp [hn]) (by simp [hn]) (by simp [hn]) (by simp [hn])] <;>
      exact inv_other hi (by simp [hn]) rfl rfl (by simp) (by simp)
  | noConnect hn | upAlready hn | connect hn | linked _ hn | failed _ _ _ hn | sync hn
  | connected hn | connectDone hn | disconnectDone hn =>
    rw [hother (by simp [hn]) (by simp [hn]) (by simp [hn]) (by simp [hn])]
    exact inv_other hi (by simp [hn]) rfl rfl (by simp) (by simp)

end Turn

abbrev stepBoth : MainLoop × Option ClientCall × Past → MainEvent → MainLoop × Option ClientCall × Past :=
  withHistory MainLoop.step noteBoth

def called (p : MainLoop × Option ClientCall × Past) : MainLoop × Option ClientCall := (p.1, p.2.1)

def told (p : MainLoop × Option ClientCall × Past) : MainLoop × Past := (p.1, p.2.2)

theorem throughout_called {Q : MainLoop × Option ClientCall → MainEvent → Prop}
    {p : MainLoop × Option ClientCall × Past} {es : List MainEvent} :
    Throughout stepBoth (fun p => Q (called p)) p es ↔
      Throughout (withHistory MainLoop.step note) Q (called p) es :=
  throughout_view called fun _ _ => rfl

theorem throughout_told {Q : MainLoop × Past → MainEvent → Prop}
    {p : MainLoop × Option ClientCall × Past} {es : List MainEvent} :
    Throughout stepBoth (fun p => Q (told p)) p es ↔
      Throughout (withHistory MainLoop.step Past.note) Q (told p) es :=
  throughout_view told fun _ _ => rfl

theorem inv_step (p : MainLoop × Option ClientCall × Past) (e : MainEvent) (hi : Inv p)
    (hg : ResumesFirst (told p) e) : Inv (stepBoth p e) := by
  obtain ⟨m, last, h⟩ := p
  cases e with
  | loop ret => exact inv_loop ret hi hg
  | registeredCallback => exact ⟨rfl, hi.unresumed, hi.pausing, hi.lost, hi.ended⟩
  | toRestart | toDeregister | clientRegistered | clientUnregistered =>
    exact ⟨hi.reported, hi.unresumed, hi.pausing, hi.lost, hi.ended⟩

theorem resumes_of_booked {m : MainLoop} {last : Option ClientCall} {h : Past}
    {ret : ConnectResult} (hi : Inv (m, last, h)) (hb : Booked (m, last) (.loop ret)) :
    ResumesFirst (m, h) (.loop ret) := by
  refine ⟨fun hc => ?_, fun hr hp => ?_⟩
  · have hc : m.next = .closed := hc
    have hended : Ended (note m (.loop ret) last) := by
      rw [note, reboots, calls, hc]
      exact .inl rfl
    have hpaused : (m.loop ret).paused = false := hb.1 hended
    rw [MainLoop.loop, hc] at hpaused
    exact (hi.lost (.inr hc)).trans ((hi.unresumed (by simp [hc])).symm.trans hpaused)
  · have hr : m.next = .register := hr
    have hpaused : m.paused = true := (hi.unresumed (by simp [hr])).trans hp
    by_contra hreg
    have hreg : m.pelionRegistered = false := hi.reported.trans (eq_false_of_ne_true hreg)
    have hended : Ended (note m (.loop ret) last) := by
      rw [note, reboots, calls, hr, hreg]
      exact .inr rfl
    have hoff : (m.loop ret).paused = false := hb.1 hended
    rw [MainLoop.loop, hr] at hoff
    simp [MainLoop.register, hreg, hpaused] at hoff

theorem booked_iff (p : MainLoop × Option ClientCall × Past) (e : MainEvent) (hi : Inv p) :
    Booked (called p) e ↔ ResumesFirst (told p) e := by
  constructor
  · intro hb
    cases e with
    | loop ret => exact resumes_of_booked hi hb
    | _ => trivial
  · intro hg
    refine ⟨(inv_step p e hi hg).ended, fun he hs => ?_⟩
    subst he
    have hoff : p.1.paused = false := hi.ended (.inr hs)
    have hseen : (p.1.step .registeredCallback).registeredUnpaused = !p.1.paused := rfl
    rw [called, hseen, hoff]
    rfl

theorem booked_iff_run (es : List MainEvent) :
    Throughout (withHistory MainLoop.step note) Booked (MainLoop.start, none) es ↔
      Throughout (withHistory MainLoop.step Past.note) ResumesFirst (MainLoop.start, Past.fresh)
        es := by
  have hstart : Throughout stepBoth (fun p => Booked (called p)) (MainLoop.start, none, Past.fresh) es ↔
      Throughout stepBoth (fun p => ResumesFirst (told p)) (MainLoop.start, none, Past.fresh) es :=
    throughout_iff_guard inv_step booked_iff inv_start
  rwa [throughout_called, throughout_told] at hstart

theorem waitPelionReg_of_registered {m : MainLoop} {i : Inputs} (s : State)
    (hr : i.registered = m.pelionRegistered) (hp : i.paused = m.paused)
    (h : m.registeredUnpaused = true) :
    (s.waitPelionReg i).appState = .waitResourceSubscribed := by
  have hsees : (i.registered && !i.paused) = true := by rw [hr, hp, ← MainLoop.registeredUnpaused, h]
  rw [State.waitPelionReg, if_pos hsees]

def registers : List MainEvent :=
  [.toRestart] ++ List.replicate 6 (.loop .success) ++ [.clientRegistered, .registeredCallback]

def pauses : List MainEvent := [.toDeregister disconnectDetach] ++ List.replicate 4 (.loop .success)

def loses : List MainEvent :=
  [.clientUnregistered, .toRestart, .loop .success, .toDeregister disconnectDetach] ++
    List.replicate 6 (.loop .failure)

theorem lost_pause_stays :
    ¬Throughout (withHistory MainLoop.step note) Booked (MainLoop.start, none)
      (registers ++ pauses ++ loses) := by
  decide

end PauseBookkeeping

end SlcNode
