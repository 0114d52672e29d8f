import SlcNode.Handover

namespace SlcNode

namespace MainLoop

def UsesModem (m : MainLoop) : Prop :=
  m.next = .connect ∧ m.toNetConnect = true ∨ m.next = .initConnection ∨ m.next = .established ∨
    m.next = .syncTime ∨ Leaving m.next

def Fresh (m : MainLoop) : Prop :=
  m.next = .established ∨ m.next = .syncTime → m.netState ≠ .connected

variable {m m' : MainLoop}

theorem fresh_turn (h : Orderly m) (hf : m.Fresh) (ht : Turns m m') : m'.Fresh := by
  cases ht with
  | upAlready hn hreq hup =>
    have hconn := h.taken (by rw [hup]; rfl) hreq
    rw [hn] at hconn
    simp [Connecting] at hconn
  | linked _ hn => exact fun _ => by simp [h.connecting hn]
  | failed _ _ n _ he => exact fun _ => by rcases he with rfl | rfl <;> (intro h; cases h)
  | sync hn => exact fun _ => hf (.inl hn)
  | again _ _ hn => exact hf
  | wait => exact hf
  | _ => exact fun hn => by rcases hn with hn | hn <;> cases hn

theorem not_usesModem (h : Orderly m) (hf : m.Fresh) (hup : m.netState = .connected)
    (hflag : m.toNetDisconnect = false) : ¬m.UsesModem := by
  have hd : m.netState.isDown = false := by rw [hup]; rfl
  rintro (⟨hn, hreq⟩ | hn | hn | hn | hl)
  · have hconn := h.taken hd hreq
    rw [hn] at hconn
    simp [Connecting] at hconn
  · exact absurd ((h.connecting hn).symm.trans hup) (fun h => by cases h)
  · exact hf (.inl hn) hup
  · exact hf (.inr hn) hup
  · exact absurd (hflag.symm.trans (h.leaving hl)) (fun h => by cases h)

end MainLoop

namespace TwoThreads

open EventRun MainLoop

variable {s : TwoThreads}

theorem asked_fresh {m : MainLoop} (asked : List PelionRequest) (h : m.Fresh) :
    (run MainLoop.step m (asked.map PelionRequest.call)).Fresh := by
  obtain ⟨hn, hs, -⟩ := asked_keeps m asked
  unfold Fresh
  rw [hn, hs]
  exact h

theorem fresh_step (e : ThreadsEvent) (h : s.InStep) (hf : s.main.Fresh) :
    (s.step e).main.Fresh := by
  have hsteps := step_steps s e
  generalize s.step e = t at hsteps
  cases hsteps with
  | restarts => exact fun hn => by rcases hn with hn | hn <;> cases hn
  | looks | still => exact hf
  | pass i i' app asked => exact asked_fresh asked hf
  | main he =>
    cases e with
    | isRegistered | app => cases he
    | clientRegistered | clientUnregistered | registeredCallback =>
      cases he
      exact hf
    | loop ret =>
      cases he
      exact fresh_turn h.orderly hf (loop_turns ret s.main)

theorem modem_not_shared (files : Files) (events : List ThreadsEvent)
    (hp : Throughout (withHistory step sinceRequest) Paced (start files, 0) events) :
    Throughout step (fun s e => s.app.uploads.length < (s.step e).app.uploads.length →
      ¬s.main.UsesModem) (start files) events := by
  have hstep : ∀ (s : TwoThreads) (e : ThreadsEvent), s.InStep ∧ s.main.Fresh → s.Prompt e →
      (s.step e).InStep ∧ (s.step e).main.Fresh :=
    fun s e h hp => ⟨inStep_step e h.1 hp, fresh_step e h.1 h.2⟩
  refine throughout_of_guard hstep (fun s e h _ hlt => ?_)
    ⟨inStep_restart files, fun hn => by rcases hn with hn | hn <;> cases hn⟩
    (prompt_of_paced hp)
  have hreg := isRegistered_of_publishes (publishes_of_lt e hlt)
  obtain ⟨hup, hflag, -⟩ := h.1.coherent.undisturbed (AppState.isOnline_of_isRegistered hreg)
  exact not_usesModem h.1.orderly h.2 hup hflag

def published : List ThreadsEvent :=
  [.app (.iterate quiet), .app (.timer .launchUpload), .app (.iterate quiet)] ++
    List.replicate 4 (.loop .success) ++ [.registeredCallback] ++
    List.replicate 8 (.app (.iterate quiet))

theorem modem_not_shared_published :
    Throughout step (fun s e => s.app.uploads.length < (s.step e).app.uploads.length →
      ¬s.main.UsesModem) (start fun _ => none) published ∧
      (run step (start fun _ => none) published).app.uploads.length = 9 :=
  ⟨modem_not_shared (fun _ => none) published (by decide), by decide⟩

end TwoThreads

end SlcNode
