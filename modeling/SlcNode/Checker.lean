import SlcNode.LightSchedule
import Mathlib.Algebra.BigOperators.Group.Finset.Basic
import Mathlib.Algebra.Order.BigOperators.Group.Finset
import Mathlib.Data.Nat.Count

namespace SlcNode

def updateLightSchedulePeriodSec : ℕ := 30

/-- The schedule loop between two of its turns, with the second that the clock shows. -/
structure Checker where
  now : ℕ
  turn : ℕ
  schedule : ScheduleGroup

namespace Checker

def upcoming (c : Checker) (r : ℕ) : Fin lightScheduleCountMax := Fin.ofNat _ (c.turn + r)

def due (c : Checker) (k : Fin lightScheduleCountMax) : Bool :=
  (c.schedule k).due (realTime c.now)

def fires (c : Checker) : Bool := c.due (c.upcoming 0)

def next (gap : ℕ → ℕ) (c : Checker) : Checker where
  now := c.now + (if c.fires then updateLightSchedulePeriodSec else 0) +
    if c.turn % lightScheduleCountMax + 1 = lightScheduleCountMax then
      gap (c.turn / lightScheduleCountMax)
    else 0
  turn := c.turn + 1
  schedule :=
    if c.fires then Function.update c.schedule (c.upcoming 0) (c.schedule (c.upcoming 0)).fired
    else c.schedule

def after (gap : ℕ → ℕ) (c : Checker) : ℕ → Checker
  | 0 => c
  | n + 1 => (after gap c n).next gap

def minute (c : Checker) : ℕ := c.now / 60

def turnsUntil (c : Checker) (k : Fin lightScheduleCountMax) : ℕ :=
  (k + lightScheduleCountMax - c.turn % lightScheduleCountMax) % lightScheduleCountMax

def load (c : Checker) (m : ℕ) : ℕ := Nat.count (fun r => c.due (c.upcoming r) = true) m

def gaps (gap : ℕ → ℕ) (c : Checker) (m : ℕ) : ℕ :=
  ∑ r ∈ Finset.range m,
    if (c.turn + r) % lightScheduleCountMax + 1 = lightScheduleCountMax then
      gap ((c.turn + r) / lightScheduleCountMax)
    else 0

variable (gap : ℕ → ℕ) (c : Checker)

@[simp] theorem after_zero : c.after gap 0 = c := rfl

theorem after_succ (m : ℕ) : c.after gap (m + 1) = (c.after gap m).next gap := rfl

theorem after_add (n m : ℕ) : c.after gap (n + m) = (c.after gap n).after gap m := by
  induction m with
  | zero => rfl
  | succ m ih => rw [← Nat.add_assoc, after_succ, ih, after_succ]

@[simp] theorem after_turn (m : ℕ) : (c.after gap m).turn = c.turn + m := by
  induction m with
  | zero => rfl
  | succ m ih =>
    have hnext : ((c.after gap m).next gap).turn = (c.after gap m).turn + 1 := rfl
    rw [after_succ, hnext, ih, Nat.add_assoc]

theorem after_upcoming (m r : ℕ) : (c.after gap m).upcoming r = c.upcoming (m + r) := by
  rw [upcoming, upcoming, after_turn, Nat.add_assoc]

theorem upcoming_eq_iff (r : ℕ) (k : Fin lightScheduleCountMax) :
    c.upcoming r = k ↔ ∃ q, r = c.turnsUntil k + lightScheduleCountMax * q := by
  have hk := k.isLt
  rw [Fin.ext_iff]
  simp only [upcoming, turnsUntil, Fin.ofNat, lightScheduleCountMax] at hk ⊢
  constructor
  · intro h
    refine ⟨r / 6, ?_⟩
    omega
  · rintro ⟨q, rfl⟩
    omega

theorem upcoming_turnsUntil (k : Fin lightScheduleCountMax) : c.upcoming (c.turnsUntil k) = k :=
  (c.upcoming_eq_iff _ k).mpr ⟨0, rfl⟩

theorem turnsUntil_lt (k : Fin lightScheduleCountMax) : c.turnsUntil k < lightScheduleCountMax :=
  Nat.mod_lt _ (by decide)

theorem now_eq (m : ℕ) :
    (c.after gap m).now = c.now +
      updateLightSchedulePeriodSec * Nat.count (fun r => (c.after gap r).fires = true) m +
      c.gaps gap m := by
  induction m with
  | zero => rfl
  | succ m ih =>
    rw [after_succ, next, ih, Nat.count_succ, gaps, gaps, Finset.sum_range_succ, after_turn]
    split <;> ring

theorem now_le (m r : ℕ) : (c.after gap m).now ≤ (c.after gap (m + r)).now := by
  rw [after_add, now_eq gap (c.after gap m)]
  omega

def Within (m : ℕ) : Prop := (c.after gap m).minute = c.minute

theorem within_of_le {m r : ℕ} (h : m ≤ r) (hr : c.Within gap r) : c.Within gap m := by
  have h0 := c.now_le gap 0 m
  have hm := c.now_le gap m (r - m)
  rw [Nat.add_sub_cancel' h] at hm
  rw [Nat.zero_add, after_zero] at h0
  simp only [Within, minute] at hr ⊢
  omega

theorem within_iff (m : ℕ) :
    c.Within gap m ↔
      c.now % 60 +
        updateLightSchedulePeriodSec * Nat.count (fun r => (c.after gap r).fires = true) m +
        c.gaps gap m < 60 := by
  rw [Within, minute, minute, now_eq]
  omega

theorem gaps_mono {m r : ℕ} (h : m ≤ r) : c.gaps gap m ≤ c.gaps gap r :=
  Finset.sum_le_sum_of_subset_of_nonneg (Finset.range_subset_range.mpr h) fun _ _ _ => Nat.zero_le _

theorem next_schedule (k : Fin lightScheduleCountMax) :
    (c.next gap).schedule k =
      if k = c.upcoming 0 ∧ c.fires = true then (c.schedule k).fired else c.schedule k := by
  rw [next]
  by_cases hf : c.fires = true
  · by_cases hk : k = c.upcoming 0
    · simp [hf, hk]
    · simp [hf, hk]
  · simp [hf]

theorem schedule_stays {k : Fin lightScheduleCountMax} {m r : ℕ}
    (h : ∀ q < r, c.upcoming (m + q) = k → (c.after gap (m + q)).fires = false) :
    (c.after gap (m + r)).schedule k = (c.after gap m).schedule k := by
  induction r with
  | zero => rfl
  | succ r ih =>
    have hr := h r (Nat.lt_succ_self r)
    rw [← Nat.add_assoc, after_succ, next_schedule, after_upcoming, Nat.add_zero, if_neg,
      ih fun q hq => h q (hq.trans (Nat.lt_succ_self r))]
    rintro ⟨rfl, hf⟩
    exact absurd (hr rfl) (by rw [hf]; exact Bool.noConfusion)

theorem due_within {m : ℕ} (h : c.Within gap m) {k : Fin lightScheduleCountMax}
    (hk : (c.after gap m).schedule k = c.schedule k) : (c.after gap m).due k = c.due k := by
  rw [due, due, hk]
  exact ScheduleEntry.due_minute _ h

theorem upcoming_ne {m r : ℕ} (hm : m < r) (hr : r < m + lightScheduleCountMax) :
    c.upcoming m ≠ c.upcoming r := by
  intro h
  obtain ⟨q, hq⟩ := (c.upcoming_eq_iff r (c.upcoming r)).mp rfl
  obtain ⟨p, hp⟩ := (c.upcoming_eq_iff m (c.upcoming r)).mp h
  generalize c.turnsUntil (c.upcoming r) = first at hq hp
  simp only [lightScheduleCountMax] at hq hp hr
  omega

theorem schedule_first_turn {r : ℕ} (hr : r < lightScheduleCountMax) :
    (c.after gap r).schedule (c.upcoming r) = c.schedule (c.upcoming r) := by
  have hstay := c.schedule_stays gap (k := c.upcoming r) (m := 0) (r := r) fun q hq hk => by
    rw [Nat.zero_add] at hk
    exact absurd hk (c.upcoming_ne hq (by omega))
  rwa [Nat.zero_add] at hstay

theorem fires_first_turn {r : ℕ} (hr : r < lightScheduleCountMax) (h : c.Within gap r) :
    (c.after gap r).fires = c.due (c.upcoming r) := by
  rw [fires, after_upcoming, Nat.add_zero]
  exact c.due_within gap h (c.schedule_first_turn gap hr)

theorem count_first_turns {m : ℕ} (hm : m ≤ lightScheduleCountMax) (h : ∀ r < m, c.Within gap r) :
    Nat.count (fun r => (c.after gap r).fires = true) m = c.load m := by
  induction m with
  | zero => simp only [load, Nat.count_zero]
  | succ m ih =>
    have hbefore := ih (by omega) fun r hr => h r (by omega)
    have hfires := c.fires_first_turn gap hm (h m (Nat.lt_succ_self m))
    rw [load] at hbefore ⊢
    rw [Nat.count_succ, Nat.count_succ, hbefore, hfires]

theorem within_first_turns {m : ℕ} (hm : m ≤ lightScheduleCountMax) :
    c.Within gap m ↔
      c.now % 60 + updateLightSchedulePeriodSec * c.load m + c.gaps gap m < 60 := by
  induction m with
  | zero => simp [within_iff, load, gaps]
  | succ m ih =>
    have hload : c.load m ≤ c.load (m + 1) := Nat.count_monotone _ (by omega)
    have hgaps : c.gaps gap m ≤ c.gaps gap (m + 1) := c.gaps_mono gap (by omega)
    constructor
    · intro h
      have hcount := c.count_first_turns gap hm fun r hr => c.within_of_le gap (Nat.le_of_lt hr) h
      rwa [within_iff, hcount] at h
    · intro h
      have hbefore : c.Within gap m := by
        rw [ih (by omega)]
        rw [updateLightSchedulePeriodSec] at h ⊢
        omega
      have hcount := c.count_first_turns gap hm fun r hr =>
        c.within_of_le gap (Nat.le_of_lt_succ hr) hbefore
      rwa [within_iff, hcount]

variable {gap c} {k : Fin lightScheduleCountMax}

theorem schedule_turnsUntil : (c.after gap (c.turnsUntil k)).schedule k = c.schedule k := by
  have h := c.schedule_first_turn gap (c.turnsUntil_lt k)
  rwa [upcoming_turnsUntil] at h

theorem fires_turnsUntil (hdue : c.due k = true) (h : c.Within gap (c.turnsUntil k)) :
    (c.after gap (c.turnsUntil k)).fires = true := by
  rw [c.fires_first_turn gap (c.turnsUntil_lt k) h, upcoming_turnsUntil, hdue]

theorem schedule_second_turn (hf : (c.after gap (c.turnsUntil k)).fires = true) :
    (c.after gap (c.turnsUntil k + lightScheduleCountMax)).schedule k = (c.schedule k).fired := by
  have hstay := c.schedule_stays gap (k := k) (m := c.turnsUntil k + 1) (r := 5) fun q hq hk => by
    refine absurd hk (Ne.symm ?_)
    nth_rewrite 1 [← c.upcoming_turnsUntil k]
    exact c.upcoming_ne (by omega) (by simp only [lightScheduleCountMax]; omega)
  have hfired : (c.after gap (c.turnsUntil k + 1)).schedule k = (c.schedule k).fired := by
    rw [after_succ, next_schedule, after_upcoming, Nat.add_zero, upcoming_turnsUntil,
      if_pos ⟨rfl, hf⟩, schedule_turnsUntil]
  have hsum : c.turnsUntil k + lightScheduleCountMax = c.turnsUntil k + 1 + 5 := rfl
  rw [hsum, hstay, hfired]

theorem fires_second_turn (hf : (c.after gap (c.turnsUntil k)).fires = true)
    (h : c.Within gap (c.turnsUntil k + lightScheduleCountMax)) :
    (c.after gap (c.turnsUntil k + lightScheduleCountMax)).fires =
      (c.schedule k).fired.due (realTime c.now) := by
  have hup : c.upcoming (c.turnsUntil k + lightScheduleCountMax) = k :=
    (c.upcoming_eq_iff _ k).mpr ⟨1, rfl⟩
  rw [fires, after_upcoming, Nat.add_zero, hup, due, schedule_second_turn hf]
  exact ScheduleEntry.due_minute _ h

theorem disabled_stays {m : ℕ} (h : ((c.after gap m).schedule k).enable = 0) (r : ℕ) :
    ((c.after gap (m + r)).schedule k).enable = 0 := by
  induction r with
  | zero => exact h
  | succ r ih =>
    rw [← Nat.add_assoc, after_succ, next_schedule, if_neg]
    · exact ih
    · rintro ⟨rfl, hf⟩
      exact absurd ih (ScheduleEntry.enable_of_due hf)

theorem load_lt {m r : ℕ} (hdue : c.due (c.upcoming m) = true) (h : m < r) :
    c.load m < c.load r := Nat.count_strict_mono hdue h

theorem load_turnsUntil_lt (hdue : c.due k = true) :
    c.load (c.turnsUntil k) < c.load lightScheduleCountMax :=
  load_lt (by rwa [upcoming_turnsUntil]) (c.turnsUntil_lt k)

theorem not_fires_again (hload : c.load lightScheduleCountMax = 1) (hdue : c.due k = true) {m : ℕ}
    (hm : m < c.turnsUntil k) (h : c.Within gap (lightScheduleCountMax + m)) :
    (c.after gap (lightScheduleCountMax + m)).fires = false := by
  have hlt := c.turnsUntil_lt k
  have hidle : c.due (c.upcoming m) = false := by
    by_contra hne
    have h1 := load_lt (Bool.of_not_eq_false hne) hm
    have h2 := load_turnsUntil_lt hdue
    omega
  have hup : c.upcoming (lightScheduleCountMax + m) = c.upcoming m := by
    obtain ⟨q, hq⟩ := (c.upcoming_eq_iff m (c.upcoming m)).mp rfl
    rw [upcoming_eq_iff]
    exact ⟨q + 1, by rw [Nat.mul_add]; omega⟩
  have hstay := c.schedule_stays gap (k := c.upcoming m) (m := 0) (r := lightScheduleCountMax + m)
    fun q hq hk => by
      rw [Nat.zero_add] at hk ⊢
      have hqm : q = m := by
        by_contra hne
        rcases Nat.lt_or_gt_of_ne hne with hlt' | hgt
        · exact c.upcoming_ne hlt' (by omega) hk
        · exact c.upcoming_ne hgt (by omega) hk.symm
      rw [hqm, c.fires_first_turn gap (by omega) (c.within_of_le gap (by omega) h), hidle]
  rw [Nat.zero_add] at hstay
  rw [fires, after_upcoming, Nat.add_zero, hup, c.due_within gap h hstay, hidle]

theorem within_second_turn (hdue : c.due k = true) :
    c.Within gap (c.turnsUntil k + lightScheduleCountMax) ↔
      c.load lightScheduleCountMax = 1 ∧
        c.now % 60 + updateLightSchedulePeriodSec +
          c.gaps gap (c.turnsUntil k + lightScheduleCountMax) < 60 := by
  have hpos := load_turnsUntil_lt hdue
  have hround {r : ℕ} (hr : c.Within gap r) (h6 : lightScheduleCountMax ≤ r + 1) :=
    c.count_first_turns gap (Nat.le_refl _) fun q hq => c.within_of_le gap (by omega) hr
  constructor
  · intro h
    have hcount := hround h (by omega)
    have hmono := Nat.count_monotone (fun r => (c.after gap r).fires = true)
      (show lightScheduleCountMax ≤ c.turnsUntil k + lightScheduleCountMax by omega)
    rw [within_iff] at h
    simp only [updateLightSchedulePeriodSec] at h ⊢
    omega
  · rintro ⟨hload, hfits⟩
    have hinv (m : ℕ) (hm : m ≤ c.turnsUntil k) : c.Within gap (lightScheduleCountMax + m) ∧
        Nat.count (fun r => (c.after gap r).fires = true) (lightScheduleCountMax + m) = 1 := by
      induction m with
      | zero =>
        have hgaps := c.gaps_mono gap
          (show lightScheduleCountMax ≤ c.turnsUntil k + lightScheduleCountMax by omega)
        have hin : c.Within gap lightScheduleCountMax := by
          rw [c.within_first_turns gap (Nat.le_refl _), hload]
          omega
        exact ⟨hin, (hround hin (by omega)).trans hload⟩
      | succ m ih =>
        obtain ⟨hin, hcount⟩ := ih (by omega)
        have hidle := not_fires_again hload hdue hm hin
        have hcount' : Nat.count (fun r => (c.after gap r).fires = true)
            (lightScheduleCountMax + m + 1) = 1 := by
          rw [Nat.count_succ, hcount, hidle]
          rfl
        have hgaps := c.gaps_mono gap
          (show lightScheduleCountMax + m + 1 ≤ c.turnsUntil k + lightScheduleCountMax by omega)
        refine ⟨?_, hcount'⟩
        rw [← Nat.add_assoc, within_iff, hcount']
        omega
    have hlast := (hinv (c.turnsUntil k) (Nat.le_refl _)).1
    rwa [Nat.add_comm] at hlast

def FiresWithin (gap : ℕ → ℕ) (c : Checker) (k : Fin lightScheduleCountMax) (m : ℕ) : Prop :=
  c.Within gap m ∧ c.upcoming m = k ∧ (c.after gap m).fires = true

theorem turnsUntil_le {m : ℕ} (h : c.upcoming m = k) : c.turnsUntil k ≤ m := by
  obtain ⟨q, rfl⟩ := (c.upcoming_eq_iff m k).mp h
  omega

theorem second_turn_le {m : ℕ} (h : c.upcoming m = k) (hne : m ≠ c.turnsUntil k) :
    c.turnsUntil k + lightScheduleCountMax ≤ m := by
  obtain ⟨q, rfl⟩ := (c.upcoming_eq_iff m k).mp h
  simp only [lightScheduleCountMax] at hne ⊢
  omega

theorem existsUnique_firesWithin_iff (hdue : c.due k = true) :
    (∃! m, c.FiresWithin gap k m) ↔
      c.Within gap (c.turnsUntil k) ∧
        ((c.schedule k).repeatCount = 0 ∨
          ¬c.Within gap (c.turnsUntil k + lightScheduleCountMax)) := by
  constructor
  · rintro ⟨m, ⟨hin, hup, -⟩, hunique⟩
    have hfirst := c.within_of_le gap (turnsUntil_le hup) hin
    have hf := fires_turnsUntil hdue hfirst
    refine ⟨hfirst, ?_⟩
    by_contra hagain
    obtain ⟨hrepeat, hsecond⟩ := not_or.mp hagain
    have hin2 := not_not.mp hsecond
    have hf2 := fires_second_turn hf hin2
    rw [ScheduleEntry.due_fired hrepeat] at hf2
    have h1 := hunique _ ⟨hfirst, c.upcoming_turnsUntil k, hf⟩
    have h2 := hunique _ ⟨hin2, (c.upcoming_eq_iff _ k).mpr ⟨1, rfl⟩, hf2.trans hdue⟩
    have hpos : 0 < lightScheduleCountMax := by decide
    omega
  · rintro ⟨hfirst, hlast⟩
    have hf := fires_turnsUntil hdue hfirst
    refine ⟨c.turnsUntil k, ⟨hfirst, c.upcoming_turnsUntil k, hf⟩, ?_⟩
    rintro m ⟨hin, hup, hfm⟩
    by_contra hne
    have hle := second_turn_le hup hne
    rcases hlast with hrepeat | hover
    · have henable : ((c.after gap (c.turnsUntil k + lightScheduleCountMax)).schedule k).enable = 0 := by
        rw [schedule_second_turn hf, ScheduleEntry.fired, if_pos hrepeat]
      have hstays := disabled_stays henable (m - (c.turnsUntil k + lightScheduleCountMax))
      rw [Nat.add_sub_cancel' hle] at hstays
      rw [fires, after_upcoming, Nat.add_zero, hup] at hfm
      exact ScheduleEntry.enable_of_due hfm hstays
    · exact hover (c.within_of_le gap hle hin)

def Decrements (gap : ℕ → ℕ) (c : Checker) (k : Fin lightScheduleCountMax) (m : ℕ) : Prop :=
  ((c.after gap (m + 1)).schedule k).repeatCount ≠ ((c.after gap m).schedule k).repeatCount

theorem fires_of_decrements {m : ℕ} (h : c.Decrements gap k m) :
    c.upcoming m = k ∧ (c.after gap m).fires = true := by
  rw [Decrements, after_succ, next_schedule, after_upcoming, Nat.add_zero] at h
  by_contra hnot
  rw [if_neg] at h
  · exact h rfl
  · rintro ⟨rfl, hf⟩
    exact hnot ⟨rfl, hf⟩

end Checker

end SlcNode
