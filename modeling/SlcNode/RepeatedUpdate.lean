import SlcNode.Library.EventRun
import SlcNode.Setting
import SlcNode.ThresholdFile

namespace SlcNode.RepeatedUpdate

open EventRun State

def WritesNothing (update : State → State) (s : State) : Prop :=
  ∀ files, (update { s with files := files }).files = files

structure Repeats (update : State → State) (s : State) : Prop where
  silent : WritesNothing update (update s)
  config : (update (update s)).config = (update s).config
  threshold : (update (update s)).threshold = (update s).threshold

theorem repeats_of_fixed {update : State → State} {s : State}
    (hsilent : WritesNothing update (update s)) (h : update (update s) = update s) :
    Repeats update s := ⟨hsilent, by rw [h], by rw [h]⟩

structure Guarded (update : State → State) (Changed : State → Prop) : Prop where
  files : ∀ s files, Changed { s with files := files } ↔ Changed s
  unchanged : ∀ s, ¬Changed s → update s = s
  writes : ∀ s, Changed s → ∃ name, (update s).files name ≠ none

theorem silent_iff {update : State → State} {Changed : State → Prop} (h : Guarded update Changed)
    {s : State} : WritesNothing update s ↔ ¬Changed s := by
  constructor
  · intro hs hc
    obtain ⟨name, hne⟩ := h.writes _ ((h.files s fun _ => none).mpr hc)
    rw [hs] at hne
    exact hne rfl
  · intro hc files
    rw [h.unchanged _ (mt (h.files s files).mp hc)]

theorem repeats_iff {update : State → State} {Changed : State → Prop} (h : Guarded update Changed)
    {s : State} : Repeats update s ↔ ¬Changed (update s) := by
  constructor
  · exact fun hr => (silent_iff h).mp hr.silent
  · exact fun hc => repeats_of_fixed ((silent_iff h).mpr hc) (h.unchanged _ hc)

theorem writeFile_some (files : Files) (name : String) (content : List Byte) :
    DataStore.writeFile files name content name ≠ none := by
  rw [DataStore.writeFile_self]
  exact Option.some_ne_none _

theorem storeConfig_some (s : State) : s.storeConfig.files DataStore.sysconfigFileName ≠ none := by
  rw [storeConfig_file]
  exact Option.some_ne_none _

section UpdateField

variable {w : ℕ} {get : Config → BitVec w} {set : BitVec w → Config → Config} {v : ℤ} {s : State}

theorem guarded_updateField (get : Config → BitVec w) (set : BitVec w → Config → Config) (v : ℤ) :
    Guarded (updateField get set v) fun s => uint32 v ≠ (get s.config).setWidth 32 where
  files _ _ := Iff.rfl
  unchanged _ h := if_neg h
  writes s h := by
    refine ⟨DataStore.sysconfigFileName, ?_⟩
    rw [updateField, if_pos h]
    exact storeConfig_some _

theorem uint32_toNat (v : ℤ) : ((uint32 v).toNat : ℤ) = v % 2 ^ 32 := by
  have h := Setting.uint32_setWidth (le_refl 32) v
  rwa [BitVec.setWidth_eq] at h

theorem uint32_fits_iff (hw : w ≤ 32) :
    uint32 v = ((uint32 v).setWidth w).setWidth 32 ↔ v % 2 ^ 32 < 2 ^ w := by
  rw [← uint32_toNat, ← BitVec.toNat_inj, BitVec.toNat_setWidth, BitVec.toNat_setWidth]
  have hpow : 2 ^ w ≤ 2 ^ 32 := Nat.pow_le_pow_right (by decide) hw
  have hmod : (uint32 v).toNat % 2 ^ w < 2 ^ w := Nat.mod_lt _ (Nat.two_pow_pos w)
  rw [Nat.mod_eq_of_lt (hmod.trans_le hpow)]
  constructor
  · intro h
    exact_mod_cast h.trans_lt hmod
  · intro h
    exact (Nat.mod_eq_of_lt (by exact_mod_cast h)).symm

theorem updateField_repeats_iff (get : Config → BitVec w) (hw : w ≤ 32)
    (hget : ∀ b c, get (set b c) = b) : Repeats (updateField get set v) s ↔ v % 2 ^ 32 < 2 ^ w := by
  rw [repeats_iff (guarded_updateField get set v), not_not, Setting.get_updateField get hw hget,
    uint32_fits_iff hw]

end UpdateField

section Period

variable {p : Period} {v : ℤ} {s : State}

theorem periodSec_silent_iff :
    WritesNothing (updateConfigPeriodSec p v) s ↔
      uint32 v = (s.config.cycle p).limit.cycleTime.setWidth 32 := by
  change WritesNothing (updateField (fun c => (c.cycle p).cycleTime)
    (fun v c => c.withCycle { c.cycle p with cycleTime := v } p) v)
      { s with config := s.config.withCycle (s.config.cycle p).limit p } ↔ _
  rw [silent_iff (guarded_updateField _ _ v), not_not, Config.cycle_withCycle_self]

theorem cycleTime_periodSec (p : Period) (v : ℤ) (s : State) :
    ((updateConfigPeriodSec p v s).config.cycle p).cycleTime = (uint32 v).setWidth 15 := by
  refine Setting.get_updateField (fun c => (c.cycle p).cycleTime) (by decide) (fun b c => ?_) v _
  rw [Config.cycle_withCycle_self]

theorem limit_cycleTime (t : CycleTime) :
    t.limit.cycleTime = if t.cycleTime < cycleUploadTimeMinSec then cycleUploadTimeMinSec
      else t.cycleTime := by
  rw [CycleTime.limit]
  split <;> rfl

theorem periodSec_repeats_iff :
    Repeats (updateConfigPeriodSec p v) s ↔ 30 ≤ v % 2 ^ 32 ∧ v % 2 ^ 32 < 2 ^ 15 := by
  have hmin : cycleUploadTimeMinSec.toNat = 30 := rfl
  have hafter := cycleTime_periodSec p v s
  have hshort : ((uint32 v).setWidth 15).toNat = (uint32 v).toNat % 2 ^ 15 := BitVec.toNat_setWidth ..
  rw [← uint32_toNat]
  constructor
  · intro h
    have heq := congrArg BitVec.toNat (periodSec_silent_iff.mp h.silent)
    rw [limit_cycleTime, hafter, BitVec.toNat_setWidth] at heq
    split_ifs at heq with hlt
    · rw [BitVec.lt_def, hshort, hmin] at hlt
      rw [hmin] at heq
      omega
    · rw [BitVec.not_lt, BitVec.le_def, hshort, hmin] at hlt
      rw [hshort] at heq
      omega
  · rintro ⟨hmin', hmax⟩
    have hlimit : ((updateConfigPeriodSec p v s).config.cycle p).limit =
        (updateConfigPeriodSec p v s).config.cycle p := by
      refine if_neg ?_
      rw [hafter, BitVec.not_lt, BitVec.le_def, hshort, hmin]
      omega
    have heq : uint32 v = ((updateConfigPeriodSec p v s).config.cycle p).cycleTime.setWidth 32 := by
      rw [hafter, uint32_fits_iff (by decide), ← uint32_toNat]
      exact_mod_cast hmax
    refine repeats_of_fixed (periodSec_silent_iff.mpr (by rw [hlimit]; exact heq)) ?_
    rw [updateConfigPeriodSec, hlimit, Config.withCycle_cycle]
    exact if_neg (not_not.mpr heq)

end Period

theorem updateConfig_repeats_iff {buff : List Byte} {s : State} :
    Repeats (updateConfig buff) s ↔ buff.length ≠ configBuffLen := by
  constructor
  · intro h hlen
    have hconfig := (updateConfig_of_length hlen s).1
    have hfiles := h.silent fun _ => none
    generalize updateConfig buff s = t at hconfig hfiles
    rw [updateConfig, if_pos hlen] at hfiles
    dsimp only at hfiles
    rw [if_pos (by rw [hconfig])] at hfiles
    exact storeConfig_some _ (congrFun hfiles DataStore.sysconfigFileName)
  · intro hlen
    have hid : ∀ t, updateConfig buff t = t := fun t => if_neg hlen
    exact repeats_of_fixed (fun files => by rw [hid]) (hid _)

theorem keepOnline_repeats (value : Bool) (s : State) :
    Repeats (updateConfigDeregKeepOnline value) s := by
  have hguarded : Guarded (updateConfigDeregKeepOnline value) fun s =>
      value ≠ s.config.deregister.keepOnline := by
    refine ⟨fun _ _ => Iff.rfl, fun _ h => if_neg h, fun s h => ⟨DataStore.sysconfigFileName, ?_⟩⟩
    rw [updateConfigDeregKeepOnline, if_pos h]
    exact storeConfig_some _
  rw [repeats_iff hguarded, not_not, updateConfigDeregKeepOnline]
  split_ifs with h
  · rfl
  · exact not_not.mp h

theorem floatThreshold_repeats {t : Threshold} {file : String} {value : Binary32} {s : State}
    (hvalue : value.isNaN = false) : Repeats (updateFloatThreshold t file value) s := by
  have hguarded : Guarded (updateFloatThreshold t file value) fun s =>
      (!value.eq (s.threshold t)) = true := by
    refine ⟨fun _ _ => Iff.rfl, fun _ h => if_neg h, fun s h => ⟨file, ?_⟩⟩
    rw [updateFloatThreshold, if_pos h]
    exact writeFile_some s.files file _
  rw [repeats_iff hguarded, updateFloatThreshold]
  split_ifs with h
  · rw [Bool.not_eq_true', Bool.not_eq_false]
    change value.eq (Function.update s.threshold t value t) = true
    rw [Function.update_self]
    exact Binary32.eq_refl hvalue
  · exact h

theorem luxThreshold_repeats_iff {t : Threshold} {file : String} {value : ℤ} {s : State} :
    Repeats (updateLuxThreshold t file value) s ↔ 0 ≤ value ∧ value < 2 ^ 32 := by
  have hguarded : Guarded (updateLuxThreshold t file value) fun s =>
      value ≠ (s.threshold t).toNat := by
    refine ⟨fun _ _ => Iff.rfl, fun _ h => if_neg h, fun s h => ⟨file, ?_⟩⟩
    rw [updateLuxThreshold, if_pos h]
    exact writeFile_some s.files file _
  have hrange : value = ((BitVec.ofInt 32 value).toNat : ℤ) ↔ 0 ≤ value ∧ value < 2 ^ 32 := by
    have h := uint32_toNat value
    rw [uint32] at h
    rw [h]
    omega
  rw [repeats_iff hguarded, not_not, updateLuxThreshold]
  split_ifs with h
  · rw [← hrange]
    change value = ((Function.update s.threshold t (BitVec.ofInt 32 value) t).toNat : ℤ) ↔ _
    rw [Function.update_self]
  · rw [not_not] at h
    have hlt := (s.threshold t).isLt
    exact iff_of_true h (by omega)

def Idempotent (s : State) : Event → Prop
  | .config (.nodeRegister _) | .config .resetConfig => True
  | .config put => Repeats put.apply s
  | .threshold (.luxHigh v) => Repeats (ThresholdPut.luxHigh v).apply s
  | .threshold (.luxLow v) => Repeats (ThresholdPut.luxLow v).apply s
  | .threshold put => Binary32.isNaN put.value = false → Repeats put.apply s
  | _ => True

def Settles : Event → Prop
  | .config (.config buff) => buff.length ≠ configBuffLen
  | .config (.watchdogRegSec v) | .config (.watchdogLightSensorSec v) => v % 2 ^ 32 < 2 ^ 16
  | .config (.periodSec _ v) => 30 ≤ v % 2 ^ 32 ∧ v % 2 ^ 32 < 2 ^ 15
  | .config (.deregKeepOnlineTimeSec v) => v % 2 ^ 32 < 2 ^ 13
  | .threshold (.luxHigh v) | .threshold (.luxLow v) => 0 ≤ v ∧ v < 2 ^ 32
  | _ => True

theorem idempotent_iff (s : State) (e : Event) : Idempotent s e ↔ Settles e := by
  cases e with
  | config put =>
    cases put with
    | config buff => exact updateConfig_repeats_iff
    | watchdogSysSec v =>
      refine iff_of_true ?_ trivial
      change Repeats (updateConfigWatchdogSysSec v) s
      refine (updateField_repeats_iff Config.sysWatchdogTimeoutSec (le_refl 32) fun _ _ => by rfl).mpr ?_
      exact Int.emod_lt_of_pos v (by decide)
    | watchdogRegSec v =>
      change Repeats (updateConfigWatchdogRegSec v) s ↔ _
      exact updateField_repeats_iff Config.regWatchdogTimeoutSec (by decide) fun _ _ => by rfl
    | watchdogLightSensorSec v =>
      change Repeats (updateConfigWatchdogLightSensorSec v) s ↔ _
      exact updateField_repeats_iff Config.lightSensorTimeoutSec (by decide) fun _ _ => by rfl
    | periodSec p v => exact periodSec_repeats_iff
    | deregKeepOnline value => exact iff_of_true (keepOnline_repeats value s) trivial
    | deregKeepOnlineTimeSec v =>
      change Repeats (updateConfigDeregKeepOnlineTimeSec v) s ↔ _
      exact updateField_repeats_iff (fun c => c.deregister.keepOnlineTime) (by decide) fun _ _ => by rfl
    | _ => exact Iff.rfl
  | threshold put =>
    cases put with
    | luxHigh v => exact luxThreshold_repeats_iff
    | luxLow v => exact luxThreshold_repeats_iff
    | _ => exact iff_of_true (fun h => floatThreshold_repeats h) trivial
  | _ => exact Iff.rfl

theorem idempotent_run_iff (s : State) (es : List Event) :
    Throughout step Idempotent s es ↔ Throughout step (fun _ e => Settles e) s es := by
  have hstep : ∀ (s : State) (e : Event), True → Settles e → True := fun _ _ _ _ => trivial
  exact throughout_iff_guard hstep (fun s e _ => idempotent_iff s e) trivial

theorem image_given_twice : ¬Throughout step Idempotent (boot fun _ => none)
    [.config (.config (zeroed fun _ => none).resetConfig.config.buff)] := by
  rintro ⟨hrepeats, -⟩
  exact updateConfig_repeats_iff.mp hrepeats (Config.buff_length _)

end SlcNode.RepeatedUpdate
