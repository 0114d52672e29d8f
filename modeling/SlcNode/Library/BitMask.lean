import Mathlib.Tactic.Common

namespace SlcNode.BitMask

variable {α : Type*} {w : ℕ}

theorem ne_zero_iff {x : BitVec w} : x ≠ 0 ↔ ∃ k < w, x.getLsbD k = true := by
  constructor
  · intro hx
    by_contra hnone
    refine hx (BitVec.eq_of_getLsbD_eq fun k hk => ?_)
    rw [BitVec.ofNat_eq_ofNat, BitVec.getLsbD_zero, ← Bool.not_eq_true]
    exact fun hbit => hnone ⟨k, hk, hbit⟩
  · rintro ⟨k, -, hbit⟩ rfl
    exact Bool.false_ne_true (BitVec.getLsbD_zero.symm.trans hbit)

theorem meet_iff {x y : BitVec w} :
    x &&& y ≠ 0 ↔ ∃ k < w, x.getLsbD k = true ∧ y.getLsbD k = true := by
  rw [ne_zero_iff]
  simp only [BitVec.getLsbD_and, Bool.and_eq_true]

theorem meet_self_iff {x : BitVec w} : x &&& x ≠ 0 ↔ x ≠ 0 := by rw [BitVec.and_self]

theorem single_bit_iff {j k : ℕ} (hk : k < w) : (1#w <<< k).getLsbD j = true ↔ j = k := by
  simp [BitVec.getLsbD_shiftLeft, BitVec.getLsbD_one]
  omega

theorem single_meet_iff {x : BitVec w} {k : ℕ} (hk : k < w) :
    1#w <<< k &&& x ≠ 0 ↔ x.getLsbD k = true := by
  simp only [meet_iff, single_bit_iff hk]
  constructor
  · rintro ⟨j, -, rfl, hbit⟩
    exact hbit
  · exact fun hbit => ⟨k, hk, rfl, hbit⟩

theorem signExtend_ne_zero_iff {v : ℕ} (h : w ≤ v) {x : BitVec w} : x.signExtend v ≠ 0 ↔ x ≠ 0 := by
  constructor
  · rintro hne rfl
    refine hne (BitVec.eq_of_getLsbD_eq fun k _ => ?_)
    simp [BitVec.getLsbD_signExtend]
  · intro hne
    obtain ⟨k, hk, hbit⟩ := ne_zero_iff.mp hne
    refine ne_zero_iff.mpr ⟨k, by omega, ?_⟩
    rw [BitVec.getLsbD_signExtend, if_pos hk, hbit, Bool.and_true]
    exact decide_eq_true (by omega)

theorem signExtend_meet_iff {v : ℕ} (h : w ≤ v) {x y : BitVec w} :
    x.signExtend v &&& y.signExtend v ≠ 0 ↔ x &&& y ≠ 0 := by
  rw [← BitVec.signExtend_and]
  exact signExtend_ne_zero_iff h

theorem union_meet_iff (f : α → BitVec w) (l : List α) (m x : BitVec w) :
    l.foldl (fun mask a => mask ||| f a) m &&& x ≠ 0 ↔ m &&& x ≠ 0 ∨ ∃ a ∈ l, f a &&& x ≠ 0 := by
  induction l generalizing m with
  | nil => simp
  | cons a l ih =>
    rw [List.foldl_cons, ih]
    simp only [BitVec.and_or_distrib_right, ne_eq, BitVec.ofNat_eq_ofNat, BitVec.or_eq_zero_iff,
      not_and_or, List.mem_cons, exists_eq_or_imp, or_assoc]

end SlcNode.BitMask
