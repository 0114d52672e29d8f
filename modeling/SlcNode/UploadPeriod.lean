import SlcNode.Frame
import SlcNode.Library.EventRun
import SlcNode.Setting

namespace SlcNode.UploadPeriod

open EventRun State

def LongEnough (c : Config) : Prop := ∀ p, cycleUploadTimeMinSec ≤ (c.cycle p).cycleTime

def AsksEnough : Event → Prop
  | .config (.periodSec _ value) => 30 ≤ value % 2 ^ 15
  | _ => True

structure Inv (s : State) : Prop where
  config : LongEnough s.config
  file : ∀ c, ConfigFile s.files c → LongEnough c

theorem limit_long (t : CycleTime) : cycleUploadTimeMinSec ≤ t.limit.cycleTime := by
  unfold CycleTime.limit
  split
  · exact BitVec.le_refl _
  · exact BitVec.not_lt.mp ‹_›

theorem longEnough_limit (c : Config) : LongEnough c.limit := by
  intro p
  rw [Config.cycle_limit]
  exact limit_long _

theorem longEnough_reset (c : Config) : LongEnough c.reset := by
  intro p
  cases p <;> simp only [Config.reset, Config.cycle] <;> decide

theorem longEnough_clearOnBoot {c : Config} (h : LongEnough c) : LongEnough c.clearOnBoot := by
  intro p
  rw [Config.cycle_clearOnBoot]
  exact h p

theorem longEnough_withCycle {c : Config} {t : CycleTime} {p : Period} (h : LongEnough c)
    (ht : cycleUploadTimeMinSec ≤ t.cycleTime) : LongEnough (c.withCycle t p) := by
  intro q
  by_cases hq : q = p
  · rw [hq, Config.cycle_withCycle_self]
    exact ht
  · rw [Config.cycle_withCycle_of_ne c t hq]
    exact h q

theorem field_enough_iff (v : ℤ) :
    cycleUploadTimeMinSec ≤ (uint32 v).setWidth 15 ↔ 30 ≤ v % 2 ^ 15 := by
  have h30 : cycleUploadTimeMinSec.toNat = 30 := rfl
  have hv := Setting.uint32_setWidth (by decide : 15 ≤ 32) v
  rw [BitVec.le_def, h30]
  omega

theorem updateField_long {w : ℕ} {get : Config → BitVec w} {set : BitVec w → Config → Config}
    {v : ℤ} {s : State} (h : LongEnough s.config)
    (hset : LongEnough (set ((uint32 v).setWidth w) s.config)) :
    LongEnough (updateField get set v s).config := by
  unfold updateField
  split
  · exact hset
  · exact h

theorem limit_of_long {t : CycleTime} (h : cycleUploadTimeMinSec ≤ t.cycleTime) : t.limit = t :=
  if_neg (BitVec.not_lt.mpr h)

theorem put_long {put : ConfigPut} {s : State} (h : LongEnough s.config)
    (hg : AsksEnough (.config put)) : LongEnough (put.apply s).config := by
  cases put with
  | nodeRegister v =>
    rw [ConfigPut.apply, updateNodeRegister_config]
    exact h
  | config buff =>
    rw [ConfigPut.apply, updateConfig]
    dsimp only
    split_ifs
    · exact longEnough_limit _
    · exact longEnough_limit _
    · exact h
  | watchdogSysSec v => exact updateField_long h h
  | watchdogRegSec v => exact updateField_long h h
  | watchdogLightSensorSec v => exact updateField_long h h
  | periodSec p v =>
    rw [ConfigPut.apply, updateConfigPeriodSec, limit_of_long (h p), Config.withCycle_cycle]
    exact updateField_long h (longEnough_withCycle h ((field_enough_iff v).mpr hg))
  | deregKeepOnline v =>
    rw [ConfigPut.apply, updateConfigDeregKeepOnline]
    split <;> exact h
  | deregKeepOnlineTimeSec v => exact updateField_long h h
  | resetConfig => exact longEnough_reset _

theorem enough_of_put_long {p : Period} {v : ℤ} {s : State}
    (h : LongEnough (s.updateConfigPeriodSec p v).config) : 30 ≤ v % 2 ^ 15 := by
  have h30 : cycleUploadTimeMinSec.toNat = 30 := rfl
  have hp := h p
  have hv : (((s.updateConfigPeriodSec p v).config.cycle p).cycleTime.toNat : ℤ) = v % 2 ^ 15 :=
    Setting.value_update (.periodSec p) v s
  rw [BitVec.le_def, h30] at hp
  omega

theorem inv_of_long {s : State} (h : LongEnough s.config)
    (hf : s.files DataStore.sysconfigFileName = some s.config.buff) : Inv s where
  config := h
  file := by
    rintro c ⟨hc, -⟩
    rw [← Config.buff_injective (Option.some.inj (hf.symm.trans hc))]
    exact h

theorem inv_resetConfig (s : State) : Inv s.resetConfig :=
  inv_of_long (longEnough_reset _) (resetConfig_file s).1

theorem inv_boot {files : Files} (h : ∀ c, ConfigFile files c → LongEnough c) :
    Inv (boot files) := by
  have hr : Inv (zeroed files).restoreConfig := by
    cases hr : restorable files with
    | false =>
      rw [restoreConfig_of_not_restorable hr]
      exact inv_resetConfig _
    | true =>
      obtain ⟨c, hc⟩ := restorable_iff.mp hr
      rw [restoreConfig_of_file (s := zeroed files) hc]
      exact ⟨longEnough_clearOnBoot (h c hc), h⟩
  refine ⟨by rw [boot_config]; exact hr.config, fun c hc => hr.file c ⟨?_, hc.2⟩⟩
  rw [← boot_files files (by decide)]
  exact hc.1

theorem inv_step (s : State) (e : Event) (h : Inv s) (hg : AsksEnough e) : Inv (s.step e) := by
  rcases step_config_cases s e with ⟨put, rfl⟩ | ⟨hc, hf⟩ | ⟨files, he, hf⟩
  · have hl := put_long h.config hg
    rcases config_files put s with hfiles | hstored
    · exact ⟨hl, fun c hc => h.file c (by rwa [step, hfiles] at hc)⟩
    · exact inv_of_long hl hstored
  · exact ⟨by rw [hc]; exact h.config, fun c hfile => h.file c ⟨hf ▸ hfile.1, hfile.2⟩⟩
  · rw [he]
    exact inv_boot fun c hc => h.file c ⟨hf ▸ hc.1, hc.2⟩

theorem step_long_iff (s : State) (e : Event) (h : Inv s) :
    LongEnough (s.step e).config ↔ AsksEnough e := by
  constructor
  · intro hl
    cases e with
    | config put =>
      cases put with
      | periodSec p v => exact enough_of_put_long hl
      | _ => trivial
    | _ => trivial
  · exact fun hg => (inv_step s e h hg).config

theorem periods_long_iff (s : State) (es : List Event) :
    Throughout step (fun t e => LongEnough (t.step e).config) s.resetConfig es ↔
      Throughout step (fun _ e => AsksEnough e) s.resetConfig es :=
  throughout_iff_guard inv_step step_long_iff (inv_resetConfig s)

theorem one_second_not_long :
    ¬Throughout step (fun t e => LongEnough (t.step e).config)
      (zeroed fun _ => none).resetConfig [.config (.periodSec .status 1)] := by
  rintro ⟨h, -⟩
  exact absurd (h .status) (by decide)

end SlcNode.UploadPeriod
