import SlcNode.DateTime

namespace SlcNode

structure DateTime.Valid (now : DateTime) : Prop where
  month : 1 ≤ now.M.toNat ∧ now.M.toNat ≤ 12
  day : 1 ≤ now.D.toNat ∧ now.D.toNat ≤ 31
  weekday : now.WD.toNat ≤ 6
  hour : now.h.toNat ≤ 23
  minute : now.m.toNat ≤ 59
  second : now.s.toNat ≤ 59

structure RtcTime where
  time : DateTime
  valid : time.Valid

structure Pattern where
  year : Option ℕ
  M : Byte
  D : Byte
  WD : Byte
  h : Byte
  m : Byte
deriving DecidableEq

inductive Recurrence where
  | exact
  | yearly
  | monthly
  | weekly
  | daily
  | hourly
deriving DecidableEq

namespace Pattern

def recurrence (p : Pattern) : Recurrence :=
  if p.year ≠ none then .exact
  else if p.M ≠ 255 then .yearly
  else if p.D ≠ 255 then .monthly
  else if p.WD ≠ 255 then .weekly
  else if p.h ≠ 255 then .daily
  else .hourly

def Agrees (p : Pattern) (now : DateTime) : Prop :=
  match p.recurrence with
  | .exact => p.year = some now.Y.toNat ∧ p.M = now.M ∧ p.D = now.D ∧ p.WD = now.WD ∧
      p.h = now.h ∧ p.m = now.m
  | .yearly => p.M = now.M ∧ p.D = now.D ∧ p.h = now.h ∧ p.m = now.m
  | .monthly => p.D = now.D ∧ p.h = now.h ∧ p.m = now.m
  | .weekly => p.WD = now.WD ∧ p.h = now.h ∧ p.m = now.m
  | .daily => p.h = now.h ∧ p.m = now.m
  | .hourly => p.m = now.m

end Pattern

def SlcDateTime.pattern (p : SlcDateTime) : Pattern where
  year := if p.Y = 255 then none else some (p.Y.toNat + slcDatetimeBaseYear)
  M := p.M
  D := p.D
  WD := p.WD
  h := p.h
  m := p.m

def DateTime.pattern (p : DateTime) : Pattern where
  year := if p.Y = 255 then none else some p.Y.toNat
  M := p.M
  D := p.D
  WD := p.WD
  h := p.h
  m := p.m

def SlcDateTime.full (p : SlcDateTime) : DateTime where
  Y := if p.Y = 255 then 255 else BitVec.ofNat 16 (p.Y.toNat + slcDatetimeBaseYear)
  M := p.M
  D := p.D
  WD := p.WD
  h := p.h
  m := p.m
  s := p.s

namespace DateTimePattern

theorem byte_ne {b : Byte} {n : ℕ} (h : b.toNat ≤ n) (hn : n < 255) : b ≠ 255 := by
  rintro rfl
  exact absurd (lt_of_le_of_lt h hn) (by decide)

theorem conditions_iff {p : Pattern} {now : DateTime} (hnow : now.Valid) {exact : Prop}
    (hyear : p.year = some now.Y.toNat ↔ p.year ≠ none ∧ exact) :
    ((exact ∧ p.M = now.M ∧ p.D = now.D ∧ p.WD = now.WD ∧ p.h = now.h ∧ p.m = now.m) ∨
      (p.year = none ∧ p.M = now.M ∧ p.D = now.D ∧ p.h = now.h ∧ p.m = now.m) ∨
      (p.year = none ∧ p.M = 255 ∧ p.D = now.D ∧ p.h = now.h ∧ p.m = now.m) ∨
      (p.year = none ∧ p.M = 255 ∧ p.D = 255 ∧ p.WD = now.WD ∧ p.h = now.h ∧ p.m = now.m) ∨
      (p.year = none ∧ p.M = 255 ∧ p.D = 255 ∧ p.WD = 255 ∧ p.h = now.h ∧ p.m = now.m) ∨
      (p.year = none ∧ p.M = 255 ∧ p.D = 255 ∧ p.WD = 255 ∧ p.h = 255 ∧ p.m = now.m)) ↔
    p.Agrees now := by
  have hM : now.M ≠ 255 := byte_ne hnow.month.2 (by omega)
  have hD : now.D ≠ 255 := byte_ne hnow.day.2 (by omega)
  have hWD : now.WD ≠ 255 := byte_ne hnow.weekday (by omega)
  have hh : now.h ≠ 255 := byte_ne hnow.hour (by omega)
  unfold Pattern.Agrees Pattern.recurrence
  by_cases hY : p.year = none
  · rw [if_neg (not_not.mpr hY)]
    by_cases hpM : p.M = 255
    · rw [if_neg (not_not.mpr hpM)]
      by_cases hpD : p.D = 255
      · rw [if_neg (not_not.mpr hpD)]
        by_cases hpWD : p.WD = 255
        · rw [if_neg (not_not.mpr hpWD)]
          by_cases hph : p.h = 255
          · rw [if_neg (not_not.mpr hph)]
            simp only [hY, hpM, hpD, hpWD, hph, hM.symm, hD.symm, hWD.symm, hh.symm, true_and,
              false_and, and_false, false_or]
          · rw [if_pos hph]
            simp only [hY, hpM, hpD, hpWD, hph, hM.symm, hD.symm, hWD.symm, true_and,
              false_and, and_false, false_or, or_false]
        · rw [if_pos hpWD]
          simp only [hY, hpM, hpD, hpWD, hM.symm, hD.symm, true_and,
            false_and, and_false, false_or, or_false]
      · rw [if_pos hpD]
        simp only [hY, hpM, hpD, hM.symm, true_and, false_and, and_false, false_or, or_false]
    · rw [if_pos hpM]
      simp only [hY, hpM, true_and, false_and, or_false]
      exact or_iff_right_of_imp fun ⟨_, hm, hd, _, ht⟩ => ⟨hm, hd, ht⟩
  · rw [if_pos hY]
    dsimp only
    rw [hyear]
    simp only [hY, false_and, or_false, ne_eq, not_false_eq_true, true_and]

variable (now : RtcTime)

theorem slcAgrees_iff (p : SlcDateTime) :
    p.agrees now.time = true ↔ p.pattern.Agrees now.time := by
  have hnone : p.pattern.year = none ↔ p.Y = 255 := by
    simp only [SlcDateTime.pattern]
    split
    case isTrue h => exact iff_of_true rfl h
    case isFalse h => exact iff_of_false (Option.some_ne_none _) h
  have hyear : p.pattern.year = some now.time.Y.toNat ↔ p.pattern.year ≠ none ∧
      p.Y.toNat + slcDatetimeBaseYear = now.time.Y.toNat := by
    simp only [SlcDateTime.pattern]
    split <;> simp
  rw [← conditions_iff now.valid hyear, hnone]
  simp only [SlcDateTime.agrees, SlcDateTime.pattern, Bool.or_eq_true, Bool.and_eq_true,
    beq_iff_eq, and_assoc, or_assoc]

theorem agrees_iff (p : DateTime) : p.agrees now.time = true ↔ p.pattern.Agrees now.time := by
  have hnone : p.pattern.year = none ↔ p.Y = 255 := by
    simp only [DateTime.pattern]
    split
    case isTrue h => exact iff_of_true rfl h
    case isFalse h => exact iff_of_false (Option.some_ne_none _) h
  have hyear : p.pattern.year = some now.time.Y.toNat ↔ p.pattern.year ≠ none ∧
      p.Y = now.time.Y := by
    simp only [DateTime.pattern]
    split <;> simp [BitVec.toNat_inj]
  rw [← conditions_iff now.valid hyear, hnone]
  simp only [DateTime.agrees, DateTime.pattern, Bool.or_eq_true, Bool.and_eq_true, beq_iff_eq,
    and_assoc, or_assoc]

theorem pattern_full (p : SlcDateTime) : p.full.pattern = p.pattern := by
  have hlt := p.Y.isLt
  have hyear : (BitVec.ofNat 16 (p.Y.toNat + slcDatetimeBaseYear)).toNat =
      p.Y.toNat + slcDatetimeBaseYear := by
    rw [BitVec.toNat_ofNat, slcDatetimeBaseYear]
    omega
  have hne : BitVec.ofNat 16 (p.Y.toNat + slcDatetimeBaseYear) ≠ 255 := by
    intro h
    have h := congrArg BitVec.toNat h
    rw [hyear, slcDatetimeBaseYear] at h
    exact absurd h (by change _ ≠ 255; omega)
  unfold DateTime.pattern SlcDateTime.pattern SlcDateTime.full
  by_cases hY : p.Y = 255
  · simp only [hY, if_true]
  · simp only [hY, hne, hyear, if_false]

theorem match_iff :
    (∀ p : SlcDateTime, dateTimeMatch (some p) none now.time = true ↔
      2018 < now.time.Y.toNat ∧ p.pattern.Agrees now.time) ∧
    (∀ p : DateTime, dateTimeMatch none (some p) now.time = true ↔
      2018 < now.time.Y.toNat ∧ p.pattern.Agrees now.time) ∧
    ∀ p : SlcDateTime,
      dateTimeMatch (some p) none now.time = dateTimeMatch none (some p.full) now.time := by
  have hslc (p : SlcDateTime) : dateTimeMatch (some p) none now.time = true ↔
      2018 < now.time.Y.toNat ∧ p.pattern.Agrees now.time := by
    rw [← slcAgrees_iff]
    simp [dateTimeMatch, DateTime.isReal]
  have hfull (p : DateTime) : dateTimeMatch none (some p) now.time = true ↔
      2018 < now.time.Y.toNat ∧ p.pattern.Agrees now.time := by
    rw [← agrees_iff]
    simp [dateTimeMatch, DateTime.isReal]
  refine ⟨hslc, hfull, fun p => ?_⟩
  rw [Bool.eq_iff_iff, hslc, hfull, pattern_full]

theorem doy_le {doe : ℕ} (h : doe < 146097) :
    let yoe := (doe - doe / 1460 + doe / 36524 - doe / 146096) / 365
    doe - (365 * yoe + yoe / 4 - yoe / 100) ≤ 672 := by
  intro yoe
  have hyoe : doe - 100 ≤ 365 * yoe + 364 := by omega
  omega

theorem month_range {mp : ℕ} (h : mp ≤ 21) :
    1 ≤ (BitVec.ofNat 8 (if mp < 10 then mp + 3 else mp - 9)).toNat ∧
      (BitVec.ofNat 8 (if mp < 10 then mp + 3 else mp - 9)).toNat ≤ 12 := by
  rw [BitVec.toNat_ofNat]
  split
  case isTrue hlt =>
    rw [Nat.mod_eq_of_lt (by omega)]
    omega
  case isFalse hge =>
    rw [Nat.mod_eq_of_lt (by omega)]
    omega

theorem day_range (doy : ℕ) :
    1 ≤ (BitVec.ofNat 8 (doy - (153 * ((5 * doy + 2) / 153) + 2) / 5 + 1)).toNat ∧
      (BitVec.ofNat 8 (doy - (153 * ((5 * doy + 2) / 153) + 2) / 5 + 1)).toNat ≤ 31 := by
  have hle : doy - (153 * ((5 * doy + 2) / 153) + 2) / 5 + 1 ≤ 31 := by omega
  rw [BitVec.toNat_ofNat, Nat.mod_eq_of_lt (by omega)]
  exact ⟨Nat.succ_pos _, hle⟩

theorem realTime_valid (t : ℕ) : (realTime t).Valid := by
  constructor
  · have hdoy := doy_le (Nat.mod_lt (t / 86400 + 719468) (show 0 < 146097 by omega))
    exact month_range (by omega)
  · exact day_range _
  all_goals
    simp only [realTime, BitVec.toNat_ofNat]
    omega

def rtcTime (t : ℕ) : RtcTime := ⟨realTime t, realTime_valid t⟩

end DateTimePattern

end SlcNode
