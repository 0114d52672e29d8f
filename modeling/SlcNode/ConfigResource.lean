import SlcNode.Setting

namespace SlcNode

inductive ConfigResource
  | setting (x : Setting)
  | deregKeepOnline
deriving DecidableEq

structure ConfigUpload where
  resource : ConfigResource
  value : ℤ
deriving DecidableEq

namespace State

/-- The body that the single-field config uploads share: the field is set on the resource, then the
application timers are kicked. -/
def uploadConfigField (r : ConfigResource) (field : Config → ℤ) (s : State) : ConfigUpload × State :=
  (⟨r, field s.config⟩, s.kickAppTimer)

def uploadConfigWatchdogSysSec : State → ConfigUpload × State :=
  uploadConfigField (.setting .watchdogSysSec) fun c => c.sysWatchdogTimeoutSec.toNat

def uploadConfigWatchdogRegSec : State → ConfigUpload × State :=
  uploadConfigField (.setting .watchdogRegSec) fun c => c.regWatchdogTimeoutSec.toNat

def uploadConfigWatchdogLightSensorSec : State → ConfigUpload × State :=
  uploadConfigField (.setting .watchdogLightSensorSec) fun c => c.lightSensorTimeoutSec.toNat

def uploadConfigPeriodFirstUploadSec : State → ConfigUpload × State :=
  uploadConfigField (.setting (.periodSec .firstUpload)) fun c => c.firstUploadProcedure.cycleTime.toNat

-- The source reads the period of the first upload here too.
def uploadConfigPeriodCycleUploadSec : State → ConfigUpload × State :=
  uploadConfigField (.setting (.periodSec .cycleUpload)) fun c => c.firstUploadProcedure.cycleTime.toNat

def uploadConfigPeriodNodeRegisterSec : State → ConfigUpload × State :=
  uploadConfigField (.setting (.periodSec .nodeRegister)) fun c =>
    c.cycleUploadNoderegister.cycleTime.toNat

def uploadConfigPeriodStatusSec : State → ConfigUpload × State :=
  uploadConfigField (.setting (.periodSec .status)) fun c => c.cycleUploadStatus.cycleTime.toNat

def uploadConfigPeriodDataSec : State → ConfigUpload × State :=
  uploadConfigField (.setting (.periodSec .data)) fun c => c.cycleUploadData.cycleTime.toNat

def uploadConfigDeregKeepOnline : State → ConfigUpload × State :=
  uploadConfigField .deregKeepOnline fun c => c.deregister.keepOnline.toNat

def uploadConfigDeregKeepOnlineTimeSec : State → ConfigUpload × State :=
  uploadConfigField (.setting .deregKeepOnlineTimeSec) fun c => c.deregister.keepOnlineTime.toNat

end State

namespace ConfigResource

open State

def upload : ConfigResource → State → ConfigUpload × State
  | .setting .watchdogSysSec => uploadConfigWatchdogSysSec
  | .setting .watchdogRegSec => uploadConfigWatchdogRegSec
  | .setting .watchdogLightSensorSec => uploadConfigWatchdogLightSensorSec
  | .setting (.periodSec .firstUpload) => uploadConfigPeriodFirstUploadSec
  | .setting (.periodSec .cycleUpload) => uploadConfigPeriodCycleUploadSec
  | .setting (.periodSec .nodeRegister) => uploadConfigPeriodNodeRegisterSec
  | .setting (.periodSec .status) => uploadConfigPeriodStatusSec
  | .setting (.periodSec .data) => uploadConfigPeriodDataSec
  | .setting .deregKeepOnlineTimeSec => uploadConfigDeregKeepOnlineTimeSec
  | .deregKeepOnline => uploadConfigDeregKeepOnline

def putCb (r : ConfigResource) (value : ℤ) (s : State) : State :=
  match r with
  | .setting x => (x.update value s).kickAppTimer
  | .deregKeepOnline => (s.updateConfigDeregKeepOnline (value ≠ 0)).kickAppTimer

def postCb (r : ConfigResource) (s : State) : ConfigUpload × State :=
  let u := r.upload s
  (u.1, u.2.kickAppTimer)

def written : ConfigResource → Config → ℤ
  | .setting x, c => x.value c
  | .deregKeepOnline, c => c.deregister.keepOnline.toNat

abbrev firstUpload : ConfigResource := .setting (.periodSec .firstUpload)

abbrev cycleUpload : ConfigResource := .setting (.periodSec .cycleUpload)

/-- The resource whose field a POST reads. -/
def source (r : ConfigResource) : ConfigResource := if r = cycleUpload then firstUpload else r

theorem postCb_fst (r : ConfigResource) (s : State) :
    (postCb r s).1 = ⟨r, written r.source s.config⟩ := by
  cases r with
  | deregKeepOnline => rfl
  | setting x =>
    cases x with
    | periodSec p => cases p <;> rfl
    | _ => rfl

theorem putCb_config (r : ConfigResource) (v : ℤ) (s : State) :
    (putCb r v s).config = match r with
      | .setting x => (x.update v s).config
      | .deregKeepOnline => (s.updateConfigDeregKeepOnline (v ≠ 0)).config := by
  cases r <;> rfl

theorem written_putCb_setting (x : Setting) (v : ℤ) (s : State) :
    written (.setting x) (putCb (.setting x) v s).config = v % 2 ^ x.width := x.value_update v s

theorem keepOnline_frame {β : Type*} (f : Config → β)
    (hf : ∀ b c, f { c with deregister.keepOnline := b } = f c) (b : Bool) (s : State) :
    f (s.updateConfigDeregKeepOnline b).config = f s.config := by
  rw [updateConfigDeregKeepOnline]
  split
  · exact hf _ _
  · rfl

theorem written_putCb_of_ne {q r : ConfigResource} (h : q ≠ r) (v : ℤ) (s : State) :
    written q (putCb r v s).config = written q s.config := by
  rw [putCb_config]
  cases r with
  | deregKeepOnline =>
    refine keepOnline_frame (written q) (fun b c => ?_) _ s
    cases q with
    | deregKeepOnline => exact absurd rfl h
    | setting y =>
      cases y with
      | periodSec p => cases p <;> rfl
      | _ => rfl
  | setting x =>
    cases q with
    | setting y =>
      have hyx : y ≠ x := fun hyx => h (congrArg setting hyx)
      exact congrArg Nat.cast (Setting.value_update_of_ne hyx v s)
    | deregKeepOnline =>
      exact congrArg (fun b : Bool => (b.toNat : ℤ)) (Setting.keepOnline_update x v s)

def ReadsBack (r : ConfigResource) (v : ℤ) (s : State) : Prop :=
  (postCb r (putCb r v s)).1 = ⟨r, written r (putCb r v s).config⟩ ∧
    ∀ q ≠ r, (postCb q (putCb r v s)).1 = (postCb q s).1

theorem readsBack_iff_written (r : ConfigResource) (v : ℤ) (s : State) :
    ReadsBack r v s ↔
      written r.source (putCb r v s).config = written r (putCb r v s).config ∧
        ∀ q ≠ r, written q.source (putCb r v s).config = written q.source s.config := by
  simp only [ReadsBack, postCb_fst, ConfigUpload.mk.injEq, true_and]

theorem source_of_ne {r : ConfigResource} (h : r ≠ cycleUpload) : r.source = r := if_neg h

theorem source_cycleUpload : cycleUpload.source = firstUpload := rfl

theorem readsBack_iff (r : ConfigResource) (v : ℤ) (s : State) :
    ReadsBack r v s ↔
      (r = firstUpload ∨ r = cycleUpload →
        ((s.config.cycle .firstUpload).cycleTime.toNat : ℤ) = v % 2 ^ 15) := by
  have hne : firstUpload ≠ cycleUpload := by decide
  have hwritten : written firstUpload s.config = (s.config.cycle .firstUpload).cycleTime.toNat := rfl
  rw [readsBack_iff_written, ← hwritten]
  by_cases hcycle : r = cycleUpload
  · subst hcycle
    have hself : written cycleUpload (putCb cycleUpload v s).config = v % 2 ^ 15 :=
      written_putCb_setting (.periodSec .cycleUpload) v s
    rw [source_cycleUpload, written_putCb_of_ne hne, hself]
    constructor
    · exact fun h _ => h.1
    · intro h
      refine ⟨h (.inr rfl), fun q hq => ?_⟩
      rw [source_of_ne hq]
      exact written_putCb_of_ne hq v s
  · rw [source_of_ne hcycle, eq_self_iff_true, true_and, or_iff_left hcycle]
    constructor
    · rintro h rfl
      have hself : written firstUpload (putCb firstUpload v s).config = v % 2 ^ 15 :=
        written_putCb_setting (.periodSec .firstUpload) v s
      have hother := h cycleUpload hne.symm
      rw [source_cycleUpload, hself] at hother
      exact hother.symm
    · intro h q hq
      by_cases hqcycle : q = cycleUpload
      · rw [hqcycle, source_cycleUpload]
        by_cases hfirst : r = firstUpload
        · have hself : written firstUpload (putCb firstUpload v s).config = v % 2 ^ 15 :=
            written_putCb_setting (.periodSec .firstUpload) v s
          rw [hfirst, hself, h hfirst]
        · exact written_putCb_of_ne (Ne.symm hfirst) v s
      · rw [source_of_ne hqcycle]
        exact written_putCb_of_ne hq v s

theorem cycle_600_reads_120 : ¬ReadsBack cycleUpload 600 (zeroed fun _ => none).resetConfig := by
  rintro ⟨h, -⟩
  exact absurd h (by decide)

end ConfigResource

end SlcNode
