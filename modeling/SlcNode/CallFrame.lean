import SlcNode.Views

namespace SlcNode.State

section ThresholdKeeps

variable {α : Type*} (f : State → α)
  (hf : ∀ s th name content, name ≠ DataStore.sysconfigFileName →
    name ≠ DataStore.lightscheduleFileName →
    f { s with threshold := th, files := Function.update s.files name content } = f s)

include hf

theorem updateFloatThreshold_keeps (t : Threshold) {file : String} (v : Binary32) (s : State)
    (hc : file ≠ DataStore.sysconfigFileName) (hl : file ≠ DataStore.lightscheduleFileName) :
    f (s.updateFloatThreshold t file v) = f s := by
  unfold updateFloatThreshold
  split
  · exact hf s _ file _ hc hl
  · rfl

theorem updateLuxThreshold_keeps (t : Threshold) {file : String} (v : ℤ) (s : State)
    (hc : file ≠ DataStore.sysconfigFileName) (hl : file ≠ DataStore.lightscheduleFileName) :
    f (s.updateLuxThreshold t file v) = f s := by
  unfold updateLuxThreshold
  split
  · exact hf s _ file _ hc hl
  · rfl

theorem threshold_keeps (put : ThresholdPut) (s : State) : f (put.apply s) = f s := by
  cases put <;>
    first
    | exact updateFloatThreshold_keeps f hf _ _ s (by decide) (by decide)
    | exact updateLuxThreshold_keeps f hf _ _ s (by decide) (by decide)

end ThresholdKeeps

inductive Assigns (s : State) : State → Prop
  | kept (c b : Config) : Assigns s { s with config := c, configBackup := b }
  | stored (c b : Config) : Assigns s { s with config := c, configBackup := b }.storeConfig

theorem updateField_assigns {w : ℕ} (get : Config → BitVec w) (set : BitVec w → Config → Config)
    (v : ℤ) (s : State) : Assigns s (updateField get set v s) := by
  unfold updateField
  split
  · exact .stored _ s.configBackup
  · exact .kept s.config s.configBackup

theorem Assigns.of_config {s t : State} {c : Config} (h : Assigns { s with config := c } t) :
    Assigns s t := by
  cases h with
  | kept c b => exact .kept c b
  | stored c b => exact .stored c b

theorem config_assigns (put : ConfigPut) (s : State) : Assigns s (put.apply s) := by
  cases put with
  | nodeRegister v =>
    rw [ConfigPut.apply, updateNodeRegister]
    generalize (if v > 0 then 1 else 0 : Byte) = b
    dsimp only
    split
    · exact .stored _ _
    · exact .kept _ _
  | config buff =>
    rw [ConfigPut.apply, updateConfig]
    dsimp only
    split_ifs
    · exact .stored _ _
    · exact .kept _ _
    · exact .kept s.config s.configBackup
  | watchdogSysSec v =>
    rw [ConfigPut.apply, updateConfigWatchdogSysSec]
    exact updateField_assigns _ _ v s
  | watchdogRegSec v =>
    rw [ConfigPut.apply, updateConfigWatchdogRegSec]
    exact updateField_assigns _ _ v s
  | watchdogLightSensorSec v =>
    rw [ConfigPut.apply, updateConfigWatchdogLightSensorSec]
    exact updateField_assigns _ _ v s
  | periodSec p v =>
    rw [ConfigPut.apply, updateConfigPeriodSec]
    exact Assigns.of_config (updateField_assigns _ _ v _)
  | deregKeepOnline v =>
    rw [ConfigPut.apply, updateConfigDeregKeepOnline]
    split
    · exact .stored _ s.configBackup
    · exact .kept s.config s.configBackup
  | deregKeepOnlineTimeSec v =>
    rw [ConfigPut.apply, updateConfigDeregKeepOnlineTimeSec]
    exact updateField_assigns _ _ v s
  | resetConfig => exact .stored _ _

theorem Assigns.files {s t : State} (h : Assigns s t) :
    t.files = s.files ∨ t.files DataStore.sysconfigFileName = some t.config.buff := by
  cases h with
  | kept c b => exact .inl rfl
  | stored c b => exact .inr (storeConfig_file _)

theorem config_files (put : ConfigPut) (s : State) :
    (put.apply s).files = s.files ∨
      (put.apply s).files DataStore.sysconfigFileName = some (put.apply s).config.buff :=
  (config_assigns put s).files

section ConfigKeeps

variable {α : Type*} (f : State → α)
  (hf : ∀ s c b content, f { s with
    config := c
    configBackup := b
    files := Function.update s.files DataStore.sysconfigFileName content } = f s)

include hf

theorem assigns_keeps {s t : State} (h : Assigns s t) : f t = f s := by
  cases h with
  | kept c b =>
    simpa only [Function.update_eq_self] using hf s c b (s.files DataStore.sysconfigFileName)
  | stored c b => exact hf s c b _

theorem config_keeps (put : ConfigPut) (s : State) : f (put.apply s) = f s :=
  assigns_keeps f hf (config_assigns put s)

end ConfigKeeps

end SlcNode.State
