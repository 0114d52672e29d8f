import SlcNode.ScheduleTurn

namespace SlcNode

namespace ScheduleEntry

def cleared : ScheduleEntry := ⟨⟨0, 0, 0, 0, 0, 0, 0⟩, 0, 0, 0⟩

def comesDue (e : ScheduleEntry) (now : DateTime) : Bool := dateTimeMatch (some e.datetime) none now

def afterMatches (e : ScheduleEntry) (matching : ℕ) : ScheduleEntry :=
  if e.repeatCount = 0xFF then e
  else if matching ≤ e.repeatCount.toNat then
    { e with repeatCount := e.repeatCount - BitVec.ofNat 8 matching }
  else cleared

def Lasts (e : ScheduleEntry) (matching : ℕ) : Prop :=
  e.repeatCount = 0xFF ∨ matching ≤ e.repeatCount.toNat

variable {e : ScheduleEntry} {matching : ℕ}

theorem afterMatches_zero (e : ScheduleEntry) : e.afterMatches 0 = e := by
  unfold afterMatches
  split
  · rfl
  · rw [if_pos (Nat.zero_le _)]
    congr 1
    exact BitVec.sub_zero _

theorem sub_toNat {b : Byte} (h : matching ≤ b.toNat) :
    (b - BitVec.ofNat 8 matching).toNat = b.toNat - matching := by
  have hlt := b.isLt
  rw [BitVec.toNat_sub, BitVec.toNat_ofNat]
  omega

theorem due_afterMatches (henable : e.enable ≠ 0) (now : DateTime) :
    (e.afterMatches matching).due now = true ↔ e.comesDue now = true ∧ e.Lasts matching := by
  have henabled : (e.enable != 0) = true := bne_iff_ne.mpr henable
  unfold afterMatches Lasts
  split_ifs with hff hle
  · rw [due, henabled, Bool.true_and]
    exact (and_iff_left (.inl hff)).symm
  · rw [due, henabled, Bool.true_and]
    exact (and_iff_left (.inr hle)).symm
  · exact iff_of_false Bool.noConfusion fun h => h.2.elim hff hle

theorem fired_afterMatches (h : e.Lasts matching) :
    (e.afterMatches matching).fired = e.afterMatches (matching + 1) := by
  by_cases hff : e.repeatCount = 0xFF
  · unfold afterMatches
    rw [if_pos hff, if_pos hff, fired, if_neg (by rw [hff]; decide), if_neg (not_not.mpr hff)]
  · have hle : matching ≤ e.repeatCount.toNat := h.resolve_left hff
    have hlt := e.repeatCount.isLt
    have hmax : e.repeatCount.toNat ≠ 255 := fun hn => hff (BitVec.eq_of_toNat_eq hn)
    have hsub := sub_toNat hle
    unfold afterMatches
    rw [if_neg hff, if_neg hff, if_pos hle, fired]
    dsimp only
    by_cases hlast : matching = e.repeatCount.toNat
    · have hzero : e.repeatCount - BitVec.ofNat 8 matching = 0 :=
        BitVec.eq_of_toNat_eq (by rw [hsub]; change _ = 0; omega)
      rw [if_pos hzero, if_neg (by omega), hzero]
      rfl
    · have hne : e.repeatCount - BitVec.ofNat 8 matching ≠ 0 := by
        intro hzero
        rw [hzero] at hsub
        change 0 = _ at hsub
        omega
      have hne' : e.repeatCount - BitVec.ofNat 8 matching ≠ 0xFF := by
        intro hmax
        rw [hmax] at hsub
        change 255 = _ at hsub
        omega
      rw [if_neg hne, if_pos hne', if_pos (by omega)]
      congr 1
      rw [BitVec.sub_sub, BitVec.ofNat_add]
      rfl

theorem afterMatches_cleared (h : ¬e.Lasts matching) : e.afterMatches matching = cleared := by
  obtain ⟨hff, hle⟩ := not_or.mp h
  rw [afterMatches, if_neg hff, if_neg hle]

end ScheduleEntry

namespace ScheduleRepeat

open EventRun State ScheduleEntry ScheduleTurn

/-- Idles of the loop over the schedule, each with the clock at its six checks. -/
def passes (s : State) (is : List Inputs) : State := run (fun s i => s.processLightSchedule i) s is

def Fires (level : Byte) (s : State) (i : Inputs) (k : Fin lightScheduleCountMax) : Prop :=
  Sets level (checkSchedule (i.clock k) k) (beforeTurn i k s)

def Idles (s : State) (i : Inputs) (k : Fin lightScheduleCountMax) : Prop :=
  Leaves (checkSchedule (i.clock k) k) (beforeTurn i k s)

def matching (e : ScheduleEntry) (k : Fin lightScheduleCountMax) (is : List Inputs) : ℕ :=
  is.countP fun i => e.comesDue (i.clock k)

variable {s : State} {k : Fin lightScheduleCountMax}

theorem passes_append (s : State) (is : List Inputs) (i : Inputs) :
    passes s (is ++ [i]) = (passes s is).processLightSchedule i := by
  unfold passes
  rw [run_append, run_cons, run_nil]

theorem matching_append (e : ScheduleEntry) (k : Fin lightScheduleCountMax) (is : List Inputs)
    (i : Inputs) : matching e k (is ++ [i]) =
      matching e k is + if e.comesDue (i.clock k) = true then 1 else 0 := by
  unfold matching
  rw [List.countP_append, List.countP_singleton]

theorem passes_schedule (henable : (s.schedule k).enable ≠ 0) (is : List Inputs) :
    (passes s is).schedule k =
      (s.schedule k).afterMatches (matching (s.schedule k) k is) := by
  induction is using List.reverseRecOn with
  | nil => exact (afterMatches_zero _).symm
  | append_singleton is i ih =>
    rw [passes_append, ScheduleStore.processLightSchedule_schedule, matching_append]
    dsimp only
    rw [ih]
    by_cases hmatch : (s.schedule k).comesDue (i.clock k) = true
    · rw [if_pos hmatch]
      by_cases hlasts : (s.schedule k).Lasts (matching (s.schedule k) k is)
      · rw [if_pos ((due_afterMatches henable _).mpr ⟨hmatch, hlasts⟩), fired_afterMatches hlasts]
      · have hnext : ¬(s.schedule k).Lasts (matching (s.schedule k) k is + 1) := fun h =>
          hlasts (h.imp id Nat.le_of_succ_le)
        rw [if_neg fun h => hlasts ((due_afterMatches henable _).mp h).2,
          afterMatches_cleared hlasts, afterMatches_cleared hnext]
    · rw [if_neg hmatch, if_neg fun h => hmatch ((due_afterMatches henable _).mp h).1, Nat.add_zero]

theorem due_passes_iff (henable : (s.schedule k).enable ≠ 0) (is : List Inputs) (i : Inputs) :
    ((passes s is).schedule k).due (i.clock k) = true ↔
      (s.schedule k).comesDue (i.clock k) = true ∧
        (s.schedule k).Lasts (matching (s.schedule k) k is) := by
  rw [passes_schedule henable, due_afterMatches henable]

theorem afterMatches_dim {e : ScheduleEntry} {n : ℕ} (h : e.Lasts n) :
    (e.afterMatches n).dim = e.dim := by
  unfold afterMatches
  split_ifs with hff hle
  · rfl
  · rfl
  · exact absurd h (not_or.mpr ⟨hff, hle⟩)

theorem fires_passes (henable : (s.schedule k).enable ≠ 0) {is : List Inputs} {i : Inputs}
    (hmatch : (s.schedule k).comesDue (i.clock k) = true)
    (hlasts : (s.schedule k).Lasts (matching (s.schedule k) k is)) :
    Fires (s.schedule k).dim (passes s is) i k := by
  have hdue := (due_passes_iff henable is i).mpr ⟨hmatch, hlasts⟩
  rw [← beforeTurn_schedule i k] at hdue
  have hsets := checkSchedule_sets hdue
  rwa [beforeTurn_schedule, passes_schedule henable, afterMatches_dim hlasts] at hsets

theorem idles_passes (henable : (s.schedule k).enable ≠ 0) {is : List Inputs} {i : Inputs}
    (h : ¬((s.schedule k).comesDue (i.clock k) = true ∧
      (s.schedule k).Lasts (matching (s.schedule k) k is))) :
    Idles (passes s is) i k := by
  apply checkSchedule_leaves
  rwa [beforeTurn_schedule, due_passes_iff henable]

def twice : State := (boot fun _ => none).updateLightSchedule ScheduleStore.twiceAtMinute34

section Run

def iterations (es : List Event) : List Inputs :=
  es.filterMap fun | .iterate i => some i | _ => none

def Undisturbed (s : State) (e : Event) : Prop :=
  restarts s e = false ∧ ∀ buff, e = .lightSchedule buff → buff.length ≠ ScheduleGroup.buffLen

def passOf (s : State) : Event → State
  | .iterate i => s.processLightSchedule i
  | _ => s

theorem passes_iterations (s : State) (e : Event) (es : List Event) :
    passes s (iterations (e :: es)) = passes (passOf s e) (iterations es) := by
  cases e with
  | iterate i =>
    have hcons : iterations (.iterate i :: es) = i :: iterations es := rfl
    unfold passes
    rw [hcons, run_cons, passOf]
  | _ => rfl

theorem step_schedule {e : Event} (h : Undisturbed s e) :
    (s.step e).schedule = (passOf s e).schedule := by
  obtain ⟨hr, hbuff⟩ := h
  cases e with
  | config put =>
    have hs := config_keeps State.schedule (fun _ _ _ _ => rfl) put s
    exact hs
  | threshold put =>
    have hs := threshold_keeps State.schedule (fun _ _ _ _ _ _ => rfl) put s
    exact hs
  | lightSchedule buff =>
    rw [step, updateLightSchedule, if_neg (hbuff buff rfl), passOf]
    exact fun _ => Event.noConfusion
  | timer t =>
    have hs := expire_keeps State.schedule (fun _ _ _ _ _ _ _ _ => rfl) t s (fun _ => rfl) hr
    exact hs
  | iterate i =>
    rw [step, ScheduleStore.iterate_schedule hr, passOf, ScheduleStore.processLightSchedule_schedule]
  | reboot => exact absurd hr Bool.noConfusion
  | lightDim | customAtCmd | fwUpdateTriggered | fwUpdateTerminated | kickAppTimer => rfl

theorem passes_congr {t : State} (h : s.schedule = t.schedule) (is : List Inputs) :
    (passes s is).schedule = (passes t is).schedule := by
  induction is generalizing s t with
  | nil => exact h
  | cons i is ih =>
    apply ih
    rw [ScheduleStore.processLightSchedule_schedule, ScheduleStore.processLightSchedule_schedule, h]

theorem run_schedule {es : List Event} (h : Throughout step Undisturbed s es) :
    (run step s es).schedule = (passes s (iterations es)).schedule := by
  induction es generalizing s with
  | nil => rfl
  | cons e es ih =>
    rw [run_cons, ih h.2, passes_iterations]
    exact passes_congr (step_schedule h.1) _

end Run

end ScheduleRepeat

end SlcNode
