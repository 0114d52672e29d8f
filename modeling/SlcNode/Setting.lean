import SlcNode.Init

namespace SlcNode

inductive Setting
  | watchdogSysSec
  | watchdogRegSec
  | watchdogLightSensorSec
  | periodSec (p : Period)
  | deregKeepOnlineTimeSec
deriving DecidableEq

namespace Setting

open State

def width : Setting → ℕ
  | .watchdogSysSec => 32
  | .watchdogRegSec => 16
  | .watchdogLightSensorSec => 16
  | .periodSec _ => 15
  | .deregKeepOnlineTimeSec => 13

def value : Setting → Config → ℕ
  | .watchdogSysSec, c => c.sysWatchdogTimeoutSec.toNat
  | .watchdogRegSec, c => c.regWatchdogTimeoutSec.toNat
  | .watchdogLightSensorSec, c => c.lightSensorTimeoutSec.toNat
  | .periodSec p, c => (c.cycle p).cycleTime.toNat
  | .deregKeepOnlineTimeSec, c => c.deregister.keepOnlineTime.toNat

def update : Setting → ℤ → State → State
  | .watchdogSysSec => updateConfigWatchdogSysSec
  | .watchdogRegSec => updateConfigWatchdogRegSec
  | .watchdogLightSensorSec => updateConfigWatchdogLightSensorSec
  | .periodSec p => updateConfigPeriodSec p
  | .deregKeepOnlineTimeSec => updateConfigDeregKeepOnlineTimeSec

section UpdateField

variable {w : ℕ} {get : Config → BitVec w} {set : BitVec w → Config → Config}

theorem updateField_config (get : Config → BitVec w) (set : BitVec w → Config → Config) (v : ℤ)
    (s : State) :
    (updateField get set v s).config =
      if uint32 v ≠ (get s.config).setWidth 32 then set ((uint32 v).setWidth w) s.config
      else s.config := by
  rw [updateField]
  split <;> rfl

theorem get_updateField (get : Config → BitVec w) (hw : w ≤ 32)
    (hget : ∀ b c, get (set b c) = b) (v : ℤ) (s : State) :
    get (updateField get set v s).config = (uint32 v).setWidth w := by
  rw [updateField_config]
  split_ifs with h
  · exact hget _ _
  · rw [not_not.mp h, BitVec.setWidth_setWidth_of_le _ hw, BitVec.setWidth_eq]

theorem updateField_frame {β : Type*} (f : Config → β) (hf : ∀ b c, f (set b c) = f c) (v : ℤ)
    (s : State) : f (updateField get set v s).config = f s.config := by
  rw [updateField_config]
  split_ifs
  · exact hf _ _
  · rfl

theorem uint32_setWidth (hw : w ≤ 32) (v : ℤ) :
    ((((uint32 v).setWidth w).toNat : ℕ) : ℤ) = v % 2 ^ w := by
  have hpow : (4294967296 : ℤ) = 2 ^ 32 := by norm_num
  have hdvd : (2 ^ w : ℤ) ∣ 4294967296 := hpow ▸ pow_dvd_pow 2 hw
  have hnonneg : 0 ≤ v % 4294967296 := Int.emod_nonneg v (by decide)
  rw [BitVec.toNat_setWidth, uint32, BitVec.toNat_ofInt]
  push_cast
  rw [Int.toNat_of_nonneg hnonneg, Int.emod_emod_of_dvd v hdvd]

end UpdateField

theorem width_le (x : Setting) : x.width ≤ 32 := by cases x <;> simp [width]

theorem value_update (x : Setting) (v : ℤ) (s : State) :
    (x.value (x.update v s).config : ℤ) = v % 2 ^ x.width := by
  rw [← uint32_setWidth x.width_le v]
  refine congrArg Nat.cast ?_
  cases x with
  | watchdogSysSec =>
    exact congrArg BitVec.toNat (get_updateField _ (le_refl 32) (fun _ _ => rfl) v s)
  | watchdogRegSec =>
    exact congrArg BitVec.toNat (get_updateField _ (by decide : 16 ≤ 32) (fun _ _ => rfl) v s)
  | watchdogLightSensorSec =>
    exact congrArg BitVec.toNat (get_updateField _ (by decide : 16 ≤ 32) (fun _ _ => rfl) v s)
  | periodSec p =>
    have hget : ∀ b c, ((Config.withCycle c { c.cycle p with cycleTime := b } p).cycle p).cycleTime = b := by
      intro b c
      rw [Config.cycle_withCycle_self]
    exact congrArg BitVec.toNat
      (get_updateField (fun c => (c.cycle p).cycleTime) (by decide : 15 ≤ 32) hget v _)
  | deregKeepOnlineTimeSec =>
    exact congrArg BitVec.toNat
      (get_updateField (fun c => c.deregister.keepOnlineTime) (by decide : 13 ≤ 32) (fun _ _ => rfl) v s)

theorem value_withCycle (c : Config) {t : CycleTime} {p : Period} {y : Setting} (h : y ≠ .periodSec p) :
    y.value (c.withCycle t p) = y.value c := by
  cases y with
  | periodSec q =>
    have hq : q ≠ p := fun hqp => h (congrArg periodSec hqp)
    rw [value, value, Config.cycle_withCycle_of_ne c t hq]
  | deregKeepOnlineTimeSec => rw [value, value, Config.deregister_withCycle]
  | _ => cases p <;> rfl

theorem value_update_of_ne {x y : Setting} (h : y ≠ x) (v : ℤ) (s : State) :
    y.value (x.update v s).config = y.value s.config := by
  cases x with
  | periodSec p =>
    refine (updateField_frame y.value (fun b c => value_withCycle c h) v _).trans ?_
    exact value_withCycle s.config h
  | _ => exact updateField_frame y.value (fun b c => by cases y <;> first | rfl | exact absurd rfl h) v s

theorem keepOnline_update (x : Setting) (v : ℤ) (s : State) :
    (x.update v s).config.deregister.keepOnline = s.config.deregister.keepOnline := by
  cases x with
  | periodSec p =>
    refine (updateField_frame (fun c => c.deregister.keepOnline) (fun b c => ?_) v _).trans ?_
    · simp only [Config.deregister_withCycle]
    · simp only [Config.deregister_withCycle]
  | _ => exact updateField_frame (fun c => c.deregister.keepOnline) (fun _ _ => by rfl) v s

def NoWrap (x : Setting) (v : ℤ) (s : State) : Prop :=
  v < 0 ∨ 2 ^ x.width ≤ v →
    x.value (x.update v s).config = x.value s.config ∨
      x.value (x.update v s).config = 2 ^ x.width - 1

theorem noWrap_iff (x : Setting) (v : ℤ) (s : State) :
    NoWrap x v s ↔
      (0 ≤ v ∧ v < 2 ^ x.width) ∨ v % 2 ^ x.width = x.value s.config ∨
        v % 2 ^ x.width = 2 ^ x.width - 1 := by
  have hvalue := value_update x v s
  have hpow : (1 : ℕ) ≤ 2 ^ x.width := Nat.one_le_two_pow
  have hmax : ((2 ^ x.width - 1 : ℕ) : ℤ) = 2 ^ x.width - 1 := by
    push_cast [hpow]
    rfl
  rw [NoWrap, ← Nat.cast_inj (R := ℤ), ← Nat.cast_inj (R := ℤ), hvalue, hmax]
  constructor
  · intro h
    by_cases hrange : 0 ≤ v ∧ v < 2 ^ x.width
    · exact .inl hrange
    · exact .inr (h (by omega))
  · rintro (hrange | hmod) hout
    · omega
    · exact hmod

theorem regSec_65537_wraps : ¬NoWrap .watchdogRegSec 65537 (zeroed fun _ => none).resetConfig := by
  intro h
  exact absurd (h (.inr (by decide))) (by decide)

end Setting

end SlcNode
