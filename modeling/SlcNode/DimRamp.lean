import SlcNode.Library.LittleEndian
import Mathlib.Tactic.Linarith

namespace SlcNode

def trueStep (diff : ℤ) (step : Byte) : ℕ :=
  if diff < 20 then 1 else if diff ≤ 35 then 2 else step.toNat

def rampDim (current new diff gap : ℤ) (trueStep i : ℕ) (dim : ℤ) : ℤ :=
  if (0 < diff ∧ new < dim) ∨ (diff < 0 ∧ dim < new) ∨ i = trueStep then new
  else current + i * gap

def rampDims (current new diff gap : ℤ) (trueStep : ℕ) : ℕ → ℕ → ℤ → List ℤ
  | 0, _, _ => []
  | turns + 1, i, dim =>
    let dim := rampDim current new diff gap trueStep i dim
    dim :: rampDims current new diff gap trueStep turns (i + 1) dim

def setPWMGradually (dim : ℤ) (currentDim newDim step : Byte) : List ℤ :=
  if newDim = currentDim ∨ step = 0 then [dim]
  else
    let diff : ℤ := (newDim.toNat : ℤ) - currentDim.toNat
    let n := trueStep diff step
    rampDims currentDim.toNat newDim.toNat diff (diff.tdiv n) n n 1 dim

def dimMax : Byte := 100

def voltageoutPwmDelayStep : Byte := 4

inductive LightOutput where
  | acPower (on : Bool)
  | duty (dim : ℤ)
deriving DecidableEq

def lightSetDim (uninit : ℤ) (dim currentDim : Byte) : Byte × List LightOutput :=
  if dim = 0 then
    (dim, (setPWMGradually uninit currentDim dim voltageoutPwmDelayStep).map .duty ++
      [.acPower false])
  else
    let dim := if dim > dimMax then dimMax else dim
    (dim, .acPower true ::
      (setPWMGradually uninit currentDim dim voltageoutPwmDelayStep).map .duty)

structure RampsTo (current new : ℤ) (levels : List ℤ) : Prop where
  last : levels.getLast? = some new
  between : ∀ l ∈ levels, min current new ≤ l ∧ l ≤ max current new
  rising : current ≤ new → (current :: levels).Pairwise (· ≤ ·)
  falling : new ≤ current → (current :: levels).Pairwise (· ≥ ·)

namespace DimRamp

variable {current new gap dim : ℤ} {n : ℕ}

theorem rampsTo_single_iff : RampsTo current new [dim] ↔ dim = new := by
  constructor
  · intro h
    exact Option.some.inj h.last
  · rintro rfl
    refine ⟨rfl, ?_, ?_, ?_⟩
    · rw [List.forall_mem_singleton]
      exact ⟨min_le_right _ _, le_max_right _ _⟩
    · intro h
      simpa using h
    · intro h
      simpa using h

theorem rampsTo_of_rising {levels : List ℤ} (hlt : current < new)
    (hlast : levels.getLast? = some new) (hbetween : ∀ l ∈ levels, current ≤ l ∧ l ≤ new)
    (hrising : levels.Pairwise (· ≤ ·)) : RampsTo current new levels := by
  refine ⟨hlast, ?_, ?_, ?_⟩
  · rw [min_eq_left hlt.le, max_eq_right hlt.le]
    exact hbetween
  · exact fun _ => List.pairwise_cons.mpr ⟨fun l hl => (hbetween l hl).1, hrising⟩
  · intro hle
    omega

theorem rampDim_last (diff : ℤ) (n : ℕ) (dim : ℤ) :
    rampDim current new diff gap n n dim = new := if_pos (.inr (.inr rfl))

theorem rampDim_beyond {diff : ℤ} {i : ℕ} (hdiff : 0 < diff) (hdim : new < dim) :
    rampDim current new diff gap n i dim = new := if_pos (.inl ⟨hdiff, hdim⟩)

theorem rampDim_below {diff : ℤ} {i : ℕ} (hdiff : 0 < diff) (hdim : dim ≤ new) (hi : i ≠ n) :
    rampDim current new diff gap n i dim = current + i * gap := by
  refine if_neg ?_
  rintro (⟨-, h⟩ | ⟨h, -⟩ | h)
  · omega
  · omega
  · exact hi h

theorem mul_gap_le (hgap : 0 ≤ gap) (hn : n * gap ≤ new - current) {i : ℕ} (hi : i ≤ n) :
    current + i * gap ≤ new := by
  have hle : (i : ℤ) * gap ≤ n * gap := mul_le_mul_of_nonneg_right (by exact_mod_cast hi) hgap
  omega

theorem rampDims_rising (hlt : current < new) (hgap : 0 ≤ gap) (hn : n * gap ≤ new - current)
    (turns i : ℕ) (hi : i + turns = n) (hdim : dim ≤ new) :
    let levels := rampDims current new (new - current) gap n (turns + 1) i dim
    levels.getLast? = some new ∧ (∀ l ∈ levels, current + i * gap ≤ l ∧ l ≤ new) ∧
      levels.Pairwise (· ≤ ·) := by
  intro levels
  have hdiff : 0 < new - current := by omega
  induction turns generalizing i dim with
  | zero =>
    obtain rfl : i = n := hi
    have hlevels : levels = [new] := by
      change [rampDim ..] = _
      rw [rampDim_last]
    have hle := mul_gap_le hgap hn le_rfl
    rw [hlevels]
    exact ⟨rfl, List.forall_mem_singleton.mpr ⟨hle, le_rfl⟩, List.pairwise_singleton _ _⟩
  | succ turns ih =>
    have hle := mul_gap_le hgap hn (show i ≤ n by omega)
    have hlevels : levels = (current + i * gap) ::
        rampDims current new (new - current) gap n (turns + 1) (i + 1) (current + i * gap) := by
      change _ :: rampDims _ _ _ _ _ (turns + 1) (i + 1) _ = _
      rw [rampDim_below hdiff hdim (by omega)]
    obtain ⟨hlast, hbetween, hrising⟩ := ih (i + 1) (by omega) hle
    have hsucc : current + i * gap ≤ current + (i + 1 : ℕ) * gap := by
      push_cast
      linarith
    rw [hlevels]
    refine ⟨?_, ?_, ?_⟩
    · exact hlast
    · refine List.forall_mem_cons.mpr ⟨⟨le_rfl, hle⟩, fun l hl => ?_⟩
      exact ⟨hsucc.trans (hbetween l hl).1, (hbetween l hl).2⟩
    · exact List.pairwise_cons.mpr ⟨fun l hl => hsucc.trans (hbetween l hl).1, hrising⟩

theorem rampDims_beyond_iff (hlt : current < new) (hgap : 0 ≤ gap) (hn : n * gap ≤ new - current)
    (hpos : n ≠ 0) (hdim : new < dim) :
    RampsTo current new (rampDims current new (new - current) gap n n 1 dim) ↔ n < 3 := by
  have hdiff : 0 < new - current := by omega
  have hfirst (turns : ℕ) : rampDims current new (new - current) gap n (turns + 1) 1 dim =
      new :: rampDims current new (new - current) gap n turns 2 new := by
    change rampDim .. :: rampDims _ _ _ _ _ turns 2 (rampDim ..) = _
    rw [rampDim_beyond hdiff hdim]
  match n, hpos with
  | 1, _ =>
    rw [hfirst]
    exact iff_of_true (rampsTo_single_iff.mpr rfl) (by omega)
  | 2, _ =>
    have hlast : rampDims current new (new - current) gap 2 1 2 new = [new] := by
      change [rampDim ..] = _
      rw [rampDim_last]
    rw [hfirst, hlast]
    refine iff_of_true (rampsTo_of_rising hlt rfl ?_ ?_) (by omega)
    · exact List.forall_mem_cons.mpr ⟨⟨hlt.le, le_rfl⟩,
        List.forall_mem_singleton.mpr ⟨hlt.le, le_rfl⟩⟩
    · exact List.pairwise_pair.mpr le_rfl
  | n + 3, _ =>
    have hsecond : rampDims current new (new - current) gap (n + 3) (n + 2) 2 new =
        (current + 2 * gap) :: rampDims current new (new - current) gap (n + 3) (n + 1) 3
          (current + 2 * gap) := by
      change rampDim .. :: rampDims _ _ _ _ _ (n + 1) 3 (rampDim ..) = _
      rw [rampDim_below hdiff le_rfl (by omega)]
      rfl
    have hthird : current + 3 * gap ≤ new := mul_gap_le hgap hn (show 3 ≤ n + 3 by omega)
    rw [hfirst, hsecond]
    refine iff_of_false (fun h => ?_) (by omega)
    have hrising := (List.pairwise_cons.mp (List.pairwise_cons.mp (h.rising hlt.le)).2).1 _
      List.mem_cons_self
    omega

theorem rampDims_iff (hlt : current < new) (hgap : 0 ≤ gap) (hn : n * gap ≤ new - current)
    (hpos : n ≠ 0) (dim : ℤ) :
    RampsTo current new (rampDims current new (new - current) gap n n 1 dim) ↔
      ¬(3 ≤ n ∧ new < dim) := by
  rcases lt_or_ge new dim with hdim | hdim
  · rw [rampDims_beyond_iff hlt hgap hn hpos hdim]
    omega
  · obtain ⟨turns, rfl⟩ := Nat.exists_eq_succ_of_ne_zero hpos
    obtain ⟨hlast, hbetween, hrising⟩ := rampDims_rising hlt hgap hn turns 1 (by omega) hdim
    refine iff_of_true (rampsTo_of_rising hlt hlast (fun l hl => ?_) hrising) (by omega)
    have hl := hbetween l hl
    omega

theorem trueStep_ne_zero {step : Byte} (hstep : step ≠ 0) (diff : ℤ) : trueStep diff step ≠ 0 := by
  have hpos : step.toNat ≠ 0 := fun h => hstep (BitVec.eq_of_toNat_eq h)
  unfold trueStep
  split_ifs <;> omega

theorem three_le_trueStep_iff (diff : ℤ) (step : Byte) :
    3 ≤ trueStep diff step ↔ 35 < diff ∧ 3 ≤ step.toNat := by
  unfold trueStep
  split_ifs <;> omega

theorem tdiv_gap {diff : ℤ} (hdiff : 0 ≤ diff) (hn : n ≠ 0) :
    0 ≤ diff.tdiv n ∧ n * diff.tdiv n ≤ diff := by
  rw [Int.tdiv_eq_ediv_of_nonneg hdiff]
  have hne : (n : ℤ) ≠ 0 := by exact_mod_cast hn
  exact ⟨Int.ediv_nonneg hdiff (Int.natCast_nonneg n), Int.mul_ediv_self_le hne⟩

theorem rampsTo_iff {step : Byte} (hstep : 0 < step) (dim : ℤ) (currentDim newDim : Byte) :
    RampsTo currentDim.toNat newDim.toNat (setPWMGradually dim currentDim newDim step) ↔
      (newDim = currentDim → dim = newDim.toNat) ∧
        ¬(35 < (newDim.toNat : ℤ) - currentDim.toNat ∧ 3 ≤ step.toNat ∧
          (newDim.toNat : ℤ) < dim) := by
  have hstep : step ≠ 0 := by
    rintro rfl
    exact absurd hstep (by decide)
  by_cases heq : newDim = currentDim
  · subst heq
    rw [setPWMGradually, if_pos (.inl rfl), rampsTo_single_iff]
    exact ⟨fun h => ⟨fun _ => h, by omega⟩, fun h => h.1 rfl⟩
  · have hne : newDim.toNat ≠ currentDim.toNat := fun h => heq (BitVec.eq_of_toNat_eq h)
    have hn := trueStep_ne_zero hstep ((newDim.toNat : ℤ) - currentDim.toNat)
    have hthree := three_le_trueStep_iff ((newDim.toNat : ℤ) - currentDim.toNat) step
    rw [setPWMGradually, if_neg (not_or.mpr ⟨heq, hstep⟩), ← and_assoc, ← hthree]
    dsimp only
    rcases Nat.lt_or_gt_of_ne hne with hlt | hgt
    · have hone : trueStep ((newDim.toNat : ℤ) - currentDim.toNat) step = 1 := if_pos (by omega)
      rw [hone]
      refine iff_of_true ?_ ⟨fun h => absurd h heq, by omega⟩
      change RampsTo _ _ [rampDim ..]
      rw [rampDim_last]
      exact rampsTo_single_iff.mpr rfl
    · obtain ⟨hgap, hle⟩ := tdiv_gap (show 0 ≤ (newDim.toNat : ℤ) - currentDim.toNat by omega) hn
      rw [rampDims_iff (by omega) hgap hle hn]
      exact (and_iff_right fun h => absurd h heq).symm

theorem rampsTo_off_full : RampsTo 0 100 (setPWMGradually 0 0 100 4) :=
  (rampsTo_iff (by decide) 0 0 100).mpr (by decide)

theorem same_level_garbage : ¬RampsTo 50 50 (setPWMGradually 0 50 50 4) := by
  intro h
  exact absurd h.last (by decide)

section Light

def dutyOf : LightOutput → Option ℤ
  | .duty dim => some dim
  | .acPower _ => none

def duties (out : List LightOutput) : List ℤ := out.filterMap dutyOf

theorem duties_map (levels : List ℤ) : duties (levels.map .duty) = levels := by
  rw [duties, List.filterMap_map]
  exact List.filterMap_some

theorem lightSetDim_duties (uninit : ℤ) (dim currentDim : Byte) :
    duties (lightSetDim uninit dim currentDim).2 =
      setPWMGradually uninit currentDim (lightSetDim uninit dim currentDim).1
        voltageoutPwmDelayStep := by
  unfold lightSetDim
  split
  case isTrue =>
    dsimp only
    rw [duties, List.filterMap_append]
    exact (List.append_nil _).trans (duties_map _)
  case isFalse => exact duties_map _

end Light

end DimRamp

end SlcNode
