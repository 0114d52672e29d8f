import SlcNode.Moves
import SlcNode.PauseBookkeeping

namespace SlcNode

structure TwoThreads where
  app : State
  main : MainLoop
  /-- the answer of `Pelion_IsRegistered` to the pass under way -/
  isRegistered : Option Bool

inductive ThreadsEvent
  | isRegistered
  | app (e : Event)
  | clientRegistered
  | registeredCallback
  | clientUnregistered
  | loop (ret : ConnectResult)

def ThreadsEvent.main : ThreadsEvent → Option MainEvent
  | .isRegistered | .app _ => none
  | .clientRegistered => some .clientRegistered
  | .registeredCallback => some .registeredCallback
  | .clientUnregistered => some .clientUnregistered
  | .loop ret => some (.loop ret)

def Event.isPass : Event → Bool
  | .iterate _ => true
  | _ => false

def PelionRequest.call : PelionRequest → MainEvent
  | .toRestart => .toRestart
  | .toDeregister t => .toDeregister t

namespace TwoThreads

open EventRun

/-- A pass sees the globals of the main thread, `Main.PelionRegistered` as of its first look. -/
def look (s : TwoThreads) : Event → Event
  | .iterate i => .iterate { i with
      netState := s.main.netState
      registered := s.isRegistered.getD s.main.pelionRegistered
      paused := s.main.paused }
  | e => e

def asked (s : TwoThreads) (e : Event) : List PelionRequest :=
  (s.app.step e).requests.drop s.app.requests.length

def restart (app : State) : TwoThreads := ⟨app, .start, none⟩

def appStep (s : TwoThreads) (e : Event) : TwoThreads :=
  if s.app.restarts e then restart (s.app.step e)
  else
    { app := s.app.step e
      main := run MainLoop.step s.main ((s.asked e).map PelionRequest.call)
      isRegistered := if e.isPass then none else s.isRegistered }

/-- The system reboots as a whole. -/
def mainStep (s : TwoThreads) (e : MainEvent) : TwoThreads :=
  if PauseBookkeeping.reboots s.main e then restart s.app.reboot
  else { s with main := s.main.step e }

def step (s : TwoThreads) : ThreadsEvent → TwoThreads
  | .isRegistered => { s with isRegistered := some s.main.pelionRegistered }
  | .app e => s.appStep (s.look e)
  | .clientRegistered => s.mainStep .clientRegistered
  | .registeredCallback => s.mainStep .registeredCallback
  | .clientUnregistered => s.mainStep .clientUnregistered
  | .loop ret => s.mainStep (.loop ret)

def reboots (s : TwoThreads) : ThreadsEvent → Bool
  | .isRegistered => false
  | .app e => s.app.restarts (s.look e)
  | .clientRegistered | .registeredCallback | .clientUnregistered => false
  | .loop ret => PauseBookkeeping.reboots s.main (.loop ret)

def start (files : Files) : TwoThreads := restart (State.boot files)

inductive Steps (s : TwoThreads) : ThreadsEvent → TwoThreads → Prop
  | restarts (e : ThreadsEvent) (files : Files) : s.reboots e = true →
      Steps s e (restart (State.boot files))
  | looks : Steps s .isRegistered { s with isRegistered := some s.main.pelionRegistered }
  | still (e : Event) (app : State) : app.appState = s.app.appState →
      app.uploads = s.app.uploads → s.asked (s.look e) = [] → s.reboots (.app e) = false →
      Steps s (.app e) { s with app := app }
  | pass (i i' : Inputs) (app : State) (asked : List PelionRequest) :
      s.look (.iterate i) = .iterate i' → Moves i' s.app app.appState asked →
      (¬State.Publishes s.app.appState → app.uploads = s.app.uploads) →
      s.asked (.iterate i') = asked → s.reboots (.app (.iterate i)) = false →
      Steps s (.app (.iterate i))
        ⟨app, run MainLoop.step s.main (asked.map PelionRequest.call), none⟩
  | main {e : ThreadsEvent} {m : MainEvent} : e.main = some m → s.reboots e = false →
      Steps s e { s with main := s.main.step m }

theorem look_of_ne {s : TwoThreads} {e : Event} (h : ∀ i, e ≠ .iterate i) : s.look e = e := by
  cases e with
  | iterate i => exact absurd rfl (h i)
  | _ => rfl

theorem appStep_steps (s : TwoThreads) (e : Event) : Steps s (.app e) (s.appStep (s.look e)) := by
  unfold appStep
  split
  · next hr =>
    obtain ⟨files, hboot, -⟩ := State.step_of_restarts hr
    rw [hboot]
    exact .restarts _ files hr
  · next hr =>
    have hr := Bool.eq_false_iff.mpr hr
    by_cases hi : ∃ i, e = .iterate i
    · obtain ⟨i, rfl⟩ := hi
      obtain ⟨asked, hreq, hmoves⟩ := State.iterate_moves hr
      have hasked : s.asked (s.look (.iterate i)) = asked :=
        (congrArg (List.drop s.app.requests.length) hreq).trans List.drop_left
      rw [hasked]
      exact .pass i _ _ asked rfl hmoves (State.iterate_unpublished hr) hasked hr
    · have hne := not_exists.mp hi
      have hboots : s.reboots (.app e) = false := hr
      rw [look_of_ne hne] at hr ⊢
      obtain ⟨happ, hup, hreq⟩ := State.step_still hr hne
      have hasked : s.asked e = [] := by rw [asked, hreq, List.drop_length]
      have hpass : e.isPass = false := by
        cases e with
        | iterate i => exact absurd rfl (hne i)
        | _ => rfl
      rw [hasked, hpass]
      exact .still e _ happ hup ((congrArg s.asked (look_of_ne hne)).trans hasked) hboots

theorem mainStep_steps (s : TwoThreads) {e : ThreadsEvent} {m : MainEvent} (h : e.main = some m) :
    Steps s e (s.mainStep m) := by
  have hboots : s.reboots e = PauseBookkeeping.reboots s.main m := by
    cases e with
    | isRegistered | app => cases h
    | clientRegistered | registeredCallback | clientUnregistered | loop =>
      cases h
      rfl
  unfold mainStep
  rw [← hboots]
  split
  · next hr => exact .restarts e s.app.files hr
  · next hr => exact .main h (Bool.eq_false_iff.mpr hr)

theorem step_steps (s : TwoThreads) (e : ThreadsEvent) : Steps s e (s.step e) := by
  cases e with
  | isRegistered => exact .looks
  | app e => exact appStep_steps s e
  | clientRegistered | registeredCallback | clientUnregistered | loop =>
    exact mainStep_steps s rfl

end TwoThreads

end SlcNode
