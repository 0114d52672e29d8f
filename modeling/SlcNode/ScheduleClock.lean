import SlcNode.Checker
import SlcNode.ScheduleRepeat

namespace SlcNode.ScheduleClock

open EventRun State Checker ScheduleTurn

variable (gap : ℕ → ℕ) (c : Checker)

def FirstOfMinute (n : ℕ) : Prop := ∀ m < n, (c.after gap m).minute ≠ (c.after gap n).minute

/-- Waiting for the due entries ahead, each of which takes its 30 s, and for the ends of passes,
the turn of the entry comes before the minute ends. -/
def ComesUp (k : Fin lightScheduleCountMax) : Prop :=
  c.now % 60 + updateLightSchedulePeriodSec * c.load (c.turnsUntil k) +
    c.gaps gap (c.turnsUntil k) < 60

/-- No other entry is due, and the next turn of the entry comes before the minute ends. -/
def ComesUpAgain (k : Fin lightScheduleCountMax) : Prop :=
  c.load lightScheduleCountMax = 1 ∧
    c.now % 60 + updateLightSchedulePeriodSec +
      c.gaps gap (c.turnsUntil k + lightScheduleCountMax) < 60

instance (k : Fin lightScheduleCountMax) : Decidable (ComesUp gap c k) :=
  inferInstanceAs (Decidable (_ < _))

instance (k : Fin lightScheduleCountMax) : Decidable (ComesUpAgain gap c k) :=
  inferInstanceAs (Decidable (_ ∧ _))

def FitsOnce (k : Fin lightScheduleCountMax) : Prop :=
  ComesUp gap c k ∧ ((c.schedule k).repeatCount = 0 ∨ ¬ComesUpAgain gap c k)

instance (k : Fin lightScheduleCountMax) : Decidable (FitsOnce gap c k) :=
  inferInstanceAs (Decidable (_ ∧ _))

variable {gap c} {k : Fin lightScheduleCountMax} {n : ℕ}

theorem fitsOnce_iff (hdue : c.due k = true) :
    FitsOnce gap c k ↔ ∃! m, c.FiresWithin gap k m := by
  have hsecond := @within_second_turn gap c k hdue
  have hfirst := c.within_first_turns gap (Nat.le_of_lt (c.turnsUntil_lt k))
  rw [existsUnique_firesWithin_iff hdue, hsecond, hfirst]
  rfl

theorem le_of_minute (hfirst : FirstOfMinute gap c n) {m : ℕ}
    (hm : (c.after gap m).minute = (c.after gap n).minute) : n ≤ m :=
  Nat.le_of_not_lt fun hlt => hfirst m hlt hm

theorem existsUnique_fires_iff (hfirst : FirstOfMinute gap c n) :
    (∃! m, (c.after gap m).minute = (c.after gap n).minute ∧ c.upcoming m = k ∧
      (c.after gap m).fires = true) ↔ ∃! m, (c.after gap n).FiresWithin gap k m := by
  have hshift (m : ℕ) : (c.after gap n).FiresWithin gap k m ↔
      (c.after gap (n + m)).minute = (c.after gap n).minute ∧ c.upcoming (n + m) = k ∧
        (c.after gap (n + m)).fires = true := by
    rw [FiresWithin, Within, after_upcoming, ← after_add]
  constructor
  · rintro ⟨m, hm, hunique⟩
    obtain ⟨d, rfl⟩ := Nat.exists_eq_add_of_le (le_of_minute hfirst hm.1)
    refine ⟨d, (hshift d).mpr hm, fun r hr => ?_⟩
    have heq := hunique (n + r) ((hshift r).mp hr)
    omega
  · rintro ⟨d, hd, hunique⟩
    refine ⟨n + d, (hshift d).mp hd, fun m hm => ?_⟩
    obtain ⟨r, rfl⟩ := Nat.exists_eq_add_of_le (le_of_minute hfirst hm.1)
    rw [hunique r ((hshift r).mpr hm)]

theorem fires_once (hfirst : FirstOfMinute gap c n) (hdue : (c.after gap n).due k = true) :
    (∃! m, (c.after gap m).minute = (c.after gap n).minute ∧ c.upcoming m = k ∧
      (c.after gap m).fires = true) ↔ FitsOnce gap (c.after gap n) k := by
  rw [fitsOnce_iff hdue, existsUnique_fires_iff hfirst]

structure Course where
  inputs : ℕ → Inputs
  between : ℕ → List Event

namespace Course

variable (r : Course) (s : State)

def pass : ℕ → State
  | 0 => s
  | p + 1 => run step ((pass p).iterate (r.inputs p)) (r.between p)

/-- The node goes on, and the loop alone runs its passes and changes the schedule. -/
structure Runs : Prop where
  running (p : ℕ) : ((r.pass s p).switch (r.inputs p)).rebooting = false
  undisturbed (p : ℕ) :
    Throughout step ScheduleRepeat.Undisturbed ((r.pass s p).iterate (r.inputs p)) (r.between p)
  noPass (p : ℕ) : ScheduleRepeat.iterations (r.between p) = []

/-! The turns of the schedule loop, counted through all its passes. -/

def entry (m : ℕ) : Fin lightScheduleCountMax :=
  ⟨m % lightScheduleCountMax, Nat.mod_lt m (by decide)⟩

def input (m : ℕ) : Inputs := r.inputs (m / lightScheduleCountMax)

def clock (m : ℕ) : DateTime := (r.input m).clock (entry m)

def before (m : ℕ) : State :=
  beforeTurn (r.input m) (entry m) ((r.pass s (m / lightScheduleCountMax)).switch (r.input m))

def turn (m : ℕ) : State → State := checkSchedule (r.clock m) (entry m)

def Waits (m : ℕ) : Prop := ((r.before s m).schedule (entry m)).due (r.clock m) = true

instance (m : ℕ) : Decidable (r.Waits s m) := inferInstanceAs (Decidable (_ = true))

variable (gap : ℕ → ℕ) (t : ℕ)

/-- The second at which a turn comes: one that drives the lamps waits 30 s, and from the last turn
of a pass to the first of the next it takes `gap`. -/
def time : ℕ → ℕ
  | 0 => t
  | m + 1 => time m + (if r.Waits s m then updateLightSchedulePeriodSec else 0) +
      if m % lightScheduleCountMax + 1 = lightScheduleCountMax then gap (m / lightScheduleCountMax)
      else 0

def Timed : Prop := ∀ m, r.clock m = realTime (r.time s gap t m)

def minute (m : ℕ) : ℕ := r.time s gap t m / 60

def First (n : ℕ) : Prop := ∀ m < n, r.minute s gap t m ≠ r.minute s gap t n

def checker (m : ℕ) : Checker := ⟨r.time s gap t m, m, (r.before s m).schedule⟩

def Decrements (k : Fin lightScheduleCountMax) (m : ℕ) : Prop :=
  ((r.before s (m + 1)).schedule k).repeatCount ≠ ((r.before s m).schedule k).repeatCount

/-- One turn of the minute sets the level of the entry, no other turn of the entry in it sets
anything, and its repeat counter changes at most at one turn. -/
def SetsOnceIn (minute : ℕ) (k : Fin lightScheduleCountMax) : Prop :=
  (∃ m, (r.minute s gap t m = minute ∧ entry m = k ∧
      Sets ((r.before s m).schedule k).dim (r.turn m) (r.before s m)) ∧
    ∀ q ≠ m, r.minute s gap t q = minute → entry q = k → Leaves (r.turn q) (r.before s q)) ∧
  ∀ m q, r.minute s gap t m = minute → r.minute s gap t q = minute →
    r.Decrements s k m → r.Decrements s k q → m = q

variable {r s gap t}

theorem pass_succ_schedule (h : r.Runs s) (p : ℕ) :
    (r.pass s (p + 1)).schedule =
      (((r.pass s p).switch (r.inputs p)).processLightSchedule (r.inputs p)).schedule := by
  have hrun := ScheduleRepeat.run_schedule (h.undisturbed p)
  rw [h.noPass p] at hrun
  rw [pass, hrun, ScheduleRepeat.passes, run_nil]
  exact (iterate_of_running (h.running p)).schedule

theorem before_succ_schedule (h : r.Runs s) (m : ℕ) :
    (r.before s (m + 1)).schedule = (r.turn m (r.before s m)).schedule := by
  by_cases hlast : m % lightScheduleCountMax + 1 = lightScheduleCountMax
  · have hdiv : (m + 1) / lightScheduleCountMax = m / lightScheduleCountMax + 1 := by
      simp only [lightScheduleCountMax] at hlast ⊢
      omega
    have hzero : (entry (m + 1) : ℕ) = 0 := by
      simp only [entry, lightScheduleCountMax] at hlast ⊢
      omega
    rw [before, hzero, beforeTurn_zero, (switch_keeps _ _).2.1, hdiv, pass_succ_schedule h,
      ← beforeTurn_last (k := entry m) hlast]
    rfl
  · have hdiv : (m + 1) / lightScheduleCountMax = m / lightScheduleCountMax := by
      simp only [lightScheduleCountMax] at hlast ⊢
      omega
    have hinput : r.input (m + 1) = r.input m := by rw [input, input, hdiv]
    have hsucc : (entry (m + 1) : ℕ) = entry m + 1 := by
      simp only [entry, lightScheduleCountMax] at hlast ⊢
      omega
    rw [before, hsucc, hinput, hdiv, beforeTurn_succ]
    rfl

theorem checker_fires {m : ℕ} (hclock : r.clock m = realTime (r.time s gap t m)) :
    (r.checker s gap t m).fires = true ↔ r.Waits s m := by
  rw [Waits, hclock]
  rfl

theorem checker_succ (h : r.Runs s) {m : ℕ} (hclock : r.clock m = realTime (r.time s gap t m)) :
    r.checker s gap t (m + 1) = (r.checker s gap t m).next gap := by
  have hfires := checker_fires hclock
  rw [checker, Checker.next, before_succ_schedule h, turn, ScheduleStore.checkSchedule_schedule,
    time]
  by_cases hw : r.Waits s m
  · simp only [if_pos hw, if_pos (hfires.mpr hw)]
    rw [if_pos (show _ = true from hw)]
    rfl
  · simp only [if_neg hw, if_neg (mt hfires.mp hw)]
    rw [if_neg (show ¬_ = true from hw), Function.update_eq_self]
    rfl

theorem checker_zero : r.checker s gap t 0 = ⟨t, 0, s.schedule⟩ := by
  have hs := (switch_keeps (r.inputs 0) s).2.1
  rw [← hs]
  rfl

theorem checker_eq (h : r.Runs s) (hclock : r.Timed s gap t) (m : ℕ) :
    r.checker s gap t m = (Checker.mk t 0 s.schedule).after gap m := by
  induction m with
  | zero => exact checker_zero
  | succ m ih => rw [checker_succ h (hclock m), ih, after_succ]

theorem setsOnce_iff {minute : ℕ} :
    (∃ m, (r.minute s gap t m = minute ∧ entry m = k ∧
        Sets ((r.before s m).schedule k).dim (r.turn m) (r.before s m)) ∧
      ∀ q ≠ m, r.minute s gap t q = minute → entry q = k → Leaves (r.turn q) (r.before s q)) ↔
    ∃! m, r.minute s gap t m = minute ∧ entry m = k ∧ r.Waits s m := by
  constructor
  · rintro ⟨m, ⟨hminute, rfl, hsets⟩, hleaves⟩
    refine ⟨m, ⟨hminute, rfl, due_of_sets hsets⟩, ?_⟩
    rintro q ⟨hq, hentry, hwaits⟩
    by_contra hne
    exact not_due_of_leaves (hleaves q hne hq hentry) hwaits
  · rintro ⟨m, ⟨hminute, rfl, hwaits⟩, hunique⟩
    refine ⟨m, ⟨hminute, rfl, checkSchedule_sets hwaits⟩, fun q hne hq hentry => ?_⟩
    exact checkSchedule_leaves fun hdue => hne (hunique q ⟨hq, hentry, hdue⟩)

theorem upcoming_eq (g : ScheduleGroup) (m : ℕ) : (Checker.mk t 0 g).upcoming m = entry m := by
  rw [upcoming, Nat.zero_add]
  rfl

theorem waits_of_decrements (h : r.Runs s) (hclock : r.Timed s gap t) {m : ℕ}
    (hd : r.Decrements s k m) : entry m = k ∧ r.Waits s m := by
  have hchecker (m : ℕ) := congrArg Checker.schedule (checker_eq h hclock m)
  have hd' : (Checker.mk t 0 s.schedule).Decrements gap k m := by
    rw [Checker.Decrements, ← hchecker, ← hchecker]
    exact hd
  obtain ⟨hup, hfires⟩ := fires_of_decrements hd'
  rw [← checker_eq h hclock, checker_fires (hclock m)] at hfires
  exact ⟨(upcoming_eq s.schedule m).symm.trans hup, hfires⟩

theorem existsUnique_waits_iff (h : r.Runs s) (hclock : r.Timed s gap t)
    (hfirst : r.First s gap t n) (hdue : (r.checker s gap t n).due k = true) :
    (∃! m, r.minute s gap t m = r.minute s gap t n ∧ entry m = k ∧ r.Waits s m) ↔
      FitsOnce gap (r.checker s gap t n) k := by
  have hminute (m : ℕ) :
      r.minute s gap t m = ((Checker.mk t 0 s.schedule).after gap m).minute :=
    congrArg Checker.minute (checker_eq h hclock m)
  have hwaits (m : ℕ) :
      r.Waits s m ↔ ((Checker.mk t 0 s.schedule).after gap m).fires = true := by
    rw [← checker_eq h hclock, checker_fires (hclock m)]
  have hfirst' : FirstOfMinute gap ⟨t, 0, s.schedule⟩ n := fun m hm => by
    rw [← hminute, ← hminute]
    exact hfirst m hm
  rw [checker_eq h hclock] at hdue ⊢
  have honce := fires_once hfirst' hdue
  simp only [upcoming_eq] at honce
  simpa only [hminute, hwaits] using honce

def idling (gap : ℕ → ℕ) (t : ℕ) (g : ScheduleGroup) : Course where
  inputs p :=
    { quiet with
      clock := fun k =>
        realTime ((Checker.mk t 0 g).after gap (lightScheduleCountMax * p + k)).now }
  between _ := []

structure Idling (s : State) : Prop where
  state : s.appState = .readyToIdle ∨ s.appState = .idle
  launchUpload : s.launchUpload = false
  rebooting : s.rebooting = false

theorem idling_switch {i : Inputs} (h : Idling s) : Idling (s.switch i) := by
  obtain ⟨hstate | hstate, hlaunch, hreboot⟩ := h
  · rw [switch, hstate]
    unfold readyToIdle
    split_ifs <;> exact ⟨.inr rfl, hlaunch, hreboot⟩
  · have hidle : s.switch i = s := by
      rw [switch, hstate, idle, hlaunch]
      rfl
    rw [hidle]
    exact ⟨.inr hstate, hlaunch, hreboot⟩

theorem idling_iterate {i : Inputs} (h : Idling s) : Idling (s.iterate i) := by
  obtain ⟨hstate, hlaunch, hreboot⟩ := idling_switch (i := i) h
  have hs := iterate_frame State.appState (fun _ _ _ _ _ _ _ _ => rfl) hreboot
  have hl := iterate_frame State.launchUpload (fun _ _ _ _ _ _ _ _ => rfl) hreboot
  have hr := iterate_frame State.rebooting (fun _ _ _ _ _ _ _ _ => rfl) hreboot
  exact ⟨by rwa [hs], by rwa [hl], by rwa [hr]⟩

theorem idling_runs (h : Idling s) (g : ScheduleGroup) : (idling gap t g).Runs s := by
  have hpass (p : ℕ) : Idling ((idling gap t g).pass s p) := by
    induction p with
    | zero => exact h
    | succ p ih => exact idling_iterate ih
  exact ⟨fun p => (idling_switch (hpass p)).rebooting, fun _ => trivial, fun _ => rfl⟩

theorem idling_timed (h : Idling s) : (idling gap t s.schedule).Timed s gap t := by
  have hruns : (idling gap t s.schedule).Runs s := idling_runs h s.schedule
  have hclock (m : ℕ) : (idling gap t s.schedule).clock m =
      realTime ((Checker.mk t 0 s.schedule).after gap m).now := by
    have hm : lightScheduleCountMax * (m / lightScheduleCountMax) + (entry m : ℕ) = m :=
      Nat.div_add_mod m lightScheduleCountMax
    nth_rewrite 2 [← hm]
    rfl
  have heq (m : ℕ) : (idling gap t s.schedule).checker s gap t m =
      (Checker.mk t 0 s.schedule).after gap m := by
    induction m with
    | zero => exact checker_zero
    | succ m ih =>
      have hnow := congrArg Checker.now ih
      rw [checker_succ hruns, ih, after_succ]
      rw [hclock, ← hnow]
      rfl
  intro m
  rw [hclock, ← heq]
  rfl

end Course

def hourly : State :=
  (boot fun _ => none).updateLightSchedule
    ([255, 255, 255, 255, 255, 34, 0, 1, 50, 255] ++ List.replicate 50 0)

theorem hourly_idling : Course.Idling hourly := ⟨.inl (by decide), by decide, by decide⟩

end SlcNode.ScheduleClock
