import SlcNode.Init

namespace SlcNode.TimerPeriod

open State

inductive Arming
  | regWatchdog
  | terminateUpload
  | lightSensorMode
  | systemWatchdog
  | period (p : Period)

def armed : Arming → ℕ → State → Option Millis
  | .regWatchdog, _, s => s.relaunchTimerRegWatchdog.terminateUpload.period
  | .terminateUpload, _, s => s.relaunchTimerTerminateUpload.terminateUpload.period
  | .lightSensorMode, _, s => s.relaunchTimerLightSensorMode.lightSensor.period
  | .systemWatchdog, _, s => s.relaunchTimerSystemWatchdog.systemWatchdog.period
  | .period .firstUpload, r, s => (s.launchTimerReducePeriodLaunchUpload r).launchTimer
  | .period .cycleUpload, r, s => (s.launchTimerLaunchUpload r).launchTimer
  | .period .nodeRegister, r, s => (s.launchTimerNodeRegister r).nodeRegister.period
  | .period .status, r, s => (s.launchTimerStatus r).uploadStatus.period
  | .period .data, r, s => (s.relaunchTimerData r).uploadData.period

def Shifted (t : CycleTime) (ms : ℕ) : Prop :=
  if t.random = true ∧ t.diffTime ≠ 0 then
    1000 * t.cycleTime.toNat + 1 ≤ ms ∧ ms ≤ 1000 * (t.cycleTime.toNat + t.diffTime.toNat)
  else ms = 1000 * t.cycleTime.toNat + 1

def Configured : Arming → Config → ℕ → Prop
  | .regWatchdog, c, ms => ms = 1000 * c.regWatchdogTimeoutSec.toNat
  | .terminateUpload, c, ms => ms = 1000 * c.deregister.keepOnlineTime.toNat
  | .lightSensorMode, c, ms => ms = 1000 * c.lightSensorTimeoutSec.toNat
  | .systemWatchdog, c, ms => ms = 1000 * c.sysWatchdogTimeoutSec.toNat
  | .period p, c, ms => Shifted (c.cycle p) ms

def Exact (a : Arming) (s : State) : Prop :=
  ∀ r, ∃ ms, armed a r s = some ms ∧ Configured a s.config ms.toNat

theorem toNat_seconds {w : ℕ} (hw : w ≤ 22) (x : BitVec w) :
    (x.setWidth 32 * 1000).toNat = 1000 * x.toNat := by
  have hpow : 2 ^ w ≤ 2 ^ 22 := Nat.pow_le_pow_right (by decide) hw
  have hx := x.isLt
  have h1000 : (1000 : BitVec 32).toNat = 1000 := rfl
  rw [BitVec.toNat_mul, h1000, BitVec.toNat_setWidth]
  omega

theorem toNat_seconds_iff (x : BitVec 32) :
    (x * 1000).toNat = 1000 * x.toNat ↔ x.toNat ≤ 4294967 := by
  have hx := x.isLt
  have h1000 : (1000 : BitVec 32).toNat = 1000 := rfl
  rw [BitVec.toNat_mul, h1000]
  omega

theorem shift_bounds {d : BitVec 8} (hd : d ≠ 0) (r : ℕ) :
    (BitVec.ofNat 32 r % (d.setWidth 32 * 1000)).toNat < 1000 * d.toNat := by
  have hpos : 0 < d.toNat := Nat.pos_of_ne_zero fun h => hd (BitVec.eq_of_toNat_eq h)
  rw [BitVec.toNat_umod, toNat_seconds (by decide)]
  exact Nat.mod_lt _ (by omega)

theorem toNat_plus {x y : Millis} (h : x.toNat + y.toNat + 1 < 2 ^ 32) :
    (x + y + 1).toNat = x.toNat + y.toNat + 1 := by
  have hone : (1 : BitVec 32).toNat = 1 := rfl
  rw [BitVec.toNat_add, BitVec.toNat_add, hone]
  omega

theorem millis_shifted (t : CycleTime) (r : ℕ) : Shifted t (t.millis r).toNat := by
  have hcycle := t.cycleTime.isLt
  have hdiff := t.diffTime.isLt
  have hinterval : ((t.cycleTime.setWidth 16).setWidth 32 * 1000).toNat = 1000 * t.cycleTime.toNat := by
    rw [toNat_seconds (by decide), BitVec.toNat_setWidth, Nat.mod_eq_of_lt (by omega)]
  rw [Shifted, CycleTime.millis, launchMillis]
  by_cases h : t.random = true ∧ t.diffTime ≠ 0
  · have hshift := shift_bounds h.2 r
    rw [if_pos h, if_pos (by simpa only [Bool.and_eq_true, bne_iff_ne] using h), toNat_plus (by omega),
      hinterval]
    omega
  · have hone : (1 : BitVec 32).toNat = 1 := rfl
    rw [if_neg h, if_neg (by simpa only [Bool.and_eq_true, bne_iff_ne] using h), BitVec.toNat_add,
      hinterval, hone]
    omega

theorem exact_of_ne {a : Arming} (h : a ≠ .systemWatchdog) (s : State) : Exact a s := by
  intro r
  cases a with
  | regWatchdog => exact ⟨_, rfl, toNat_seconds (by decide) _⟩
  | terminateUpload => exact ⟨_, rfl, toNat_seconds (by decide) _⟩
  | lightSensorMode => exact ⟨_, rfl, toNat_seconds (by decide) _⟩
  | systemWatchdog => exact absurd rfl h
  | period p => cases p <;> exact ⟨_, rfl, millis_shifted _ r⟩

theorem systemWatchdog_exact_iff (s : State) :
    Exact .systemWatchdog s ↔ s.config.sysWatchdogTimeoutSec.toNat ≤ 4294967 := by
  rw [← toNat_seconds_iff]
  constructor
  · intro h
    obtain ⟨ms, hms, hexact⟩ := h 0
    rwa [← Option.some.inj hms] at hexact
  · exact fun h _ => ⟨_, rfl, h⟩

theorem periods_exact_iff (s : State) :
    (∀ a, Exact a s) ↔ s.config.sysWatchdogTimeoutSec.toNat ≤ 4294967 := by
  rw [← systemWatchdog_exact_iff]
  constructor
  · exact fun h => h .systemWatchdog
  · intro h a
    by_cases ha : a = .systemWatchdog
    · rwa [ha]
    · exact exact_of_ne ha s

theorem watchdog_4294968_wraps :
    ¬∀ a, Exact a ((boot fun _ => none).updateConfigWatchdogSysSec 4294968) := by
  intro h
  exact absurd ((systemWatchdog_exact_iff _).mp (h .systemWatchdog)) (by decide)

end SlcNode.TimerPeriod
