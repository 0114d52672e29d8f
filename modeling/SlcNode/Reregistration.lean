import SlcNode.Registration
import SlcNode.Library.EventRun

namespace SlcNode.Reregistration

open EventRun State

structure Past where
  /-- it went from false to true since the last pass through `SLCAPP_APPSTATE_READY_TO_STANDBY` -/
  changed : Bool
  /-- the last write of it found it false -/
  foundOff : Bool

/-- The writes are the calls, a pass in standby while unregistered, and a full upload. -/
def foundOff (s : State) (e : Event) (off : Bool) : Bool :=
  match e with
  | .config (.nodeRegister _) => s.config.nodeRegistered == 0
  | .config (.config buff) =>
    if buff.length = configBuffLen then s.config.nodeRegistered == 0 else off
  | .config .resetConfig => false
  | .iterate _ =>
    match s.appState with
    | .standby => off || s.config.nodeRegistered == 0
    | .readyToStandby => (off || s.firstUploadDone == 0) && s.config.nodeRegistered == 0
    | _ => off
  | _ => off

def passesReadyToStandby (s : State) : Event → Bool
  | .iterate _ => s.appState == .readyToStandby
  | _ => false

def note (s : State) (e : Event) (past : Past) : Past where
  changed := past.changed && !passesReadyToStandby s e ||
    s.config.nodeRegistered == 0 && (s.step e).config.nodeRegistered != 0
  foundOff := foundOff s e past.foundOff

def Republishes (p : State × Past) : Event → Prop
  | .iterate i =>
    p.1.appState = .readyToStandby → p.2.changed = true →
      (p.1.iterate i).uploads = p.1.uploads ++ p.1.fullUploadList ∧
        (p.1.iterate i).nodeRegister.live = false
  | _ => True

def ChangedLast (p : State × Past) : Event → Prop
  | .iterate _ =>
    p.1.appState = .readyToStandby → p.2.changed = true → p.1.firstUploadDone ≠ 0 →
      p.2.foundOff = true
  | _ => True

instance : ∀ p e, Decidable (Republishes p e)
  | p, .iterate i =>
    inferInstanceAs (Decidable (p.1.appState = .readyToStandby → p.2.changed = true →
      (p.1.iterate i).uploads = p.1.uploads ++ p.1.fullUploadList ∧
        (p.1.iterate i).nodeRegister.live = false))
  | _, .config _ | _, .threshold _ | _, .lightDim _ | _, .lightSchedule _ | _, .customAtCmd
  | _, .fwUpdateTriggered | _, .fwUpdateTerminated | _, .kickAppTimer | _, .timer _
  | _, .reboot => .isTrue trivial

structure Inv (p : State × Past) : Prop where
  running : p.1.rebooting = false
  registration : p.1.registration.Matches p.2.foundOff

theorem iterate_readyToStandby {s : State} (i : Inputs) (hs : s.appState = .readyToStandby)
    (hrunning : s.rebooting = false) (hx : s.nodeRegister.Exact) :
    (s.iterate i).uploads = s.uploads ++ s.fullUploadList ∧
      (s.iterate i).nodeRegister.live = false ↔ s.registration.ToPublish := by
  have hr : (s.switch i).rebooting = false := by
    rw [switch_rebooting (by rw [hs]; decide), hrunning]
  have hswitch : s.switch i = s.readyToStandby i := by rw [switch, hs]
  obtain ⟨hreg, hu⟩ := readyToStandby_registration i s
  have ht : (s.iterate i).registration.nodeRegister = s.registration.readyToStandby.nodeRegister := by
    rw [iterate_registration hr, hswitch, hreg]
  simp only [registration_fields] at ht
  rw [iterate_uploads hr, hswitch, hu, ht, Registration.readyToStandby_nodeRegister]
  by_cases h : s.registration.ToPublish
  · rw [if_pos h, if_pos h]
    exact iff_of_true ⟨rfl, OneShot.live_stop hx⟩ h
  · rw [if_neg h, if_neg h]
    refine iff_of_false ?_ h
    rintro ⟨hlist, -⟩
    simp [fullUploadList] at hlist

theorem republishes_iff (p : State × Past) (e : Event) (h : Inv p) :
    Republishes p e ↔ ChangedLast p e := by
  cases e with
  | iterate i =>
    refine forall_congr' fun hs => imp_congr_right fun _ => ?_
    rw [iterate_readyToStandby i hs h.running h.registration.exact, h.registration.toPublish,
      or_comm, or_iff_not_imp_left]
    rfl
  | _ => exact Iff.rfl

theorem matches_boot (files : Files) (off : Bool) : (boot files).registration.Matches off := by
  have hzero : ∃ nr nb, (boot files).registration = ⟨nr, nb, 0, .idle⟩ := by
    rw [boot_registration, restoreConfig]
    split <;> exact ⟨_, _, rfl⟩
  obtain ⟨nr, nb, hreg⟩ := hzero
  rw [hreg]
  exact ⟨OneShot.exact_idle, fun hf => absurd rfl hf⟩

theorem inv_boot (files : Files) (past : Past) : Inv (boot files, past) :=
  ⟨boot_rebooting files, matches_boot files past.foundOff⟩

theorem updateField_registration {w : ℕ} {get : Config → BitVec w}
    {set : BitVec w → Config → Config}
    (hset : ∀ v c, (set v c).nodeRegistered = c.nodeRegistered) (v : ℤ) (s : State) :
    (updateField get set v s).registration = s.registration := by
  unfold updateField
  split
  · simp only [State.registration, storeConfig, hset]
  · rfl

theorem config_registration {put : ConfigPut} (s : State) (hn : ∀ v, put ≠ .nodeRegister v)
    (hc : ∀ buff, put ≠ .config buff) (hr : put ≠ .resetConfig) :
    (put.apply s).registration = s.registration := by
  cases put with
  | nodeRegister v => exact absurd rfl (hn v)
  | config buff => exact absurd rfl (hc buff)
  | watchdogSysSec v =>
    rw [ConfigPut.apply, updateConfigWatchdogSysSec]
    refine updateField_registration ?_ v s
    exact fun _ _ => rfl
  | watchdogRegSec v =>
    rw [ConfigPut.apply, updateConfigWatchdogRegSec]
    refine updateField_registration ?_ v s
    exact fun _ _ => rfl
  | watchdogLightSensorSec v =>
    rw [ConfigPut.apply, updateConfigWatchdogLightSensorSec]
    refine updateField_registration ?_ v s
    exact fun _ _ => rfl
  | periodSec p v =>
    rw [ConfigPut.apply, updateConfigPeriodSec,
      updateField_registration (fun _ c => Config.nodeRegistered_withCycle c _ p)]
    simp only [State.registration, Config.nodeRegistered_withCycle]
  | deregKeepOnline v =>
    rw [ConfigPut.apply, updateConfigDeregKeepOnline]
    split <;> rfl
  | deregKeepOnlineTimeSec v =>
    rw [ConfigPut.apply, updateConfigDeregKeepOnlineTimeSec]
    refine updateField_registration ?_ v s
    exact fun _ _ => rfl
  | resetConfig => exact absurd rfl hr

theorem matches_write {s t : State} {off : Bool} (hx : s.nodeRegister.Exact)
    (ht : t.nodeRegister = s.nodeRegister)
    (hb : t.configBackup.nodeRegistered = 0 ↔ off = true) : t.registration.Matches off :=
  ⟨show t.nodeRegister.Exact from ht ▸ hx, fun _ => hb⟩

theorem matches_config {s : State} {off : Bool} (put : ConfigPut) (h : s.registration.Matches off) :
    (put.apply s).registration.Matches (foundOff s (.config put) off) := by
  have ht : (put.apply s).nodeRegister = s.nodeRegister :=
    config_keeps State.nodeRegister (fun _ _ _ _ => rfl) put s
  cases put with
  | nodeRegister v =>
    refine matches_write h.exact ht ?_
    rw [ConfigPut.apply, updateNodeRegister_configBackup]
    exact beq_iff_eq.symm
  | config buff =>
    by_cases hlen : buff.length = configBuffLen
    · refine matches_write h.exact ht ?_
      rw [ConfigPut.apply, (updateConfig_of_length hlen s).2, foundOff, if_pos hlen]
      exact beq_iff_eq.symm
    · rw [ConfigPut.apply, updateConfig, if_neg hlen, foundOff, if_neg hlen]
      exact h
  | resetConfig =>
    refine matches_write h.exact ht (iff_of_false ?_ Bool.false_ne_true)
    exact fun hb => absurd hb (show (1 : Byte) ≠ 0 by decide)
  | _ =>
    rw [config_registration s (by simp) (by simp) (by simp)]
    exact h

theorem matches_iterate {i : Inputs} {s : State} {off : Bool} (h : s.registration.Matches off)
    (hr : (s.switch i).rebooting = false) :
    (s.iterate i).registration.Matches (foundOff s (.iterate i) off) := by
  rw [iterate_registration hr]
  by_cases hs : s.appState = .standby
  · rw [switch, hs]
    simp only [foundOff, hs]
    rw [standby_registration]
    exact h.undoDevRegister
  · by_cases hp : s.appState = .readyToStandby
    · rw [switch, hp]
      simp only [foundOff, hp]
      rw [(readyToStandby_registration i s).1]
      exact h.readyToStandby
    · have hoff : foundOff s (.iterate i) off = off := by
        cases ha : s.appState with
        | standby => exact absurd ha hs
        | readyToStandby => exact absurd ha hp
        | _ => simp only [foundOff, ha]
      rw [hoff]
      exact h.of_keeps (switch_registration hs hp)

theorem step_registration {s : State} {e : Event} (hr : restarts s e = false)
    (hc : ∀ put, e ≠ .config put) (hi : ∀ i, e ≠ .iterate i) :
    Registration.Keeps s.registration (s.step e).registration := by
  cases e with
  | config put => exact absurd rfl (hc put)
  | threshold put => exact .of_eq (threshold_keeps registration (fun _ _ _ _ _ _ => rfl) put s)
  | lightSchedule buff =>
    rw [step, updateLightSchedule]
    split <;> exact .of_eq rfl
  | timer t =>
    cases t with
    | nodeRegister => exact .of_exact fun hx => OneShot.exact_expire hx
    | launchUpload | lightSensorMode =>
      rw [step, expire]
      split <;> exact .of_eq rfl
    | terminateUpload | status | data => exact .of_eq rfl
    | systemWatchdog | threadWatchdog =>
      exact .of_eq (congrArg registration (if_neg (by simpa [restarts] using hr)))
  | iterate i => exact absurd rfl (hi i)
  | reboot => exact absurd hr Bool.noConfusion
  | lightDim | customAtCmd | fwUpdateTriggered | fwUpdateTerminated | kickAppTimer =>
    exact .of_eq rfl

theorem inv_step (p : State × Past) (e : Event) (h : Inv p) : Inv (withHistory step note p e) := by
  obtain ⟨s, past⟩ := p
  refine ⟨step_running h.running, ?_⟩
  change (s.step e).registration.Matches (foundOff s e past.foundOff)
  cases hr : restarts s e with
  | true =>
    obtain ⟨files, he, -⟩ := step_of_restarts hr
    rw [he]
    exact matches_boot files _
  | false =>
    by_cases hc : ∃ put, e = .config put
    · obtain ⟨put, rfl⟩ := hc
      exact matches_config put h.registration
    · by_cases hi : ∃ i, e = .iterate i
      · obtain ⟨i, rfl⟩ := hi
        exact matches_iterate h.registration hr
      · have hoff : foundOff s e past.foundOff = past.foundOff := by
          cases e with
          | config put => exact absurd ⟨put, rfl⟩ hc
          | iterate i => exact absurd ⟨i, rfl⟩ hi
          | _ => rfl
        rw [hoff]
        exact h.registration.of_keeps (step_registration hr (not_exists.mp hc) (not_exists.mp hi))

theorem republished_run_iff (files : Files) (past : Past) (es : List Event) :
    Throughout (withHistory step note) Republishes (boot files, past) es ↔
      Throughout (withHistory step note) ChangedLast (boot files, past) es :=
  throughout_iff_guard (fun p e h _ => inv_step p e h) republishes_iff (inv_boot files past)

def toWaitReg : List Event :=
  toStandby ++ .config (.nodeRegister 0) :: List.replicate 6 (.iterate quiet)

theorem twice_not_republished :
    ¬Throughout (withHistory step note) Republishes (boot fun _ => none, ⟨false, false⟩)
      (toWaitReg ++ [.config (.nodeRegister 1), .config (.nodeRegister 1), .iterate quiet,
        .iterate quiet, .iterate quiet]) := by
  decide

end SlcNode.Reregistration
