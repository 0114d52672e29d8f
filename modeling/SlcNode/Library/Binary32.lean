import Mathlib.Data.BitVec

namespace SlcNode

abbrev Binary32 := BitVec 32

namespace Binary32

def isNaN (x : Binary32) : Bool :=
  x.extractLsb' 23 8 == 255#8 && x.extractLsb' 0 23 != 0#23

def key (x : Binary32) : ℤ :=
  if x.msb then -(x.extractLsb' 0 31).toNat else (x.extractLsb' 0 31).toNat

def eq (x y : Binary32) : Bool := !x.isNaN && !y.isNaN && decide (x.key = y.key)

def lt (x y : Binary32) : Bool := !x.isNaN && !y.isNaN && decide (x.key < y.key)

theorem eq_iff {x y : Binary32} :
    x.eq y = true ↔ x.isNaN = false ∧ y.isNaN = false ∧ x.key = y.key := by
  simp [eq, and_assoc]

theorem eq_refl {x : Binary32} (h : x.isNaN = false) : x.eq x = true := by
  simp [eq, h]

theorem eq_symm {x y : Binary32} (h : x.eq y = true) : y.eq x = true := by
  obtain ⟨hx, hy, hk⟩ := eq_iff.mp h
  exact eq_iff.mpr ⟨hy, hx, hk.symm⟩

theorem eq_trans {x y z : Binary32} (hxy : x.eq y = true) (hyz : y.eq z = true) :
    x.eq z = true := by
  obtain ⟨hx, _, hk⟩ := eq_iff.mp hxy
  obtain ⟨_, hz, hk'⟩ := eq_iff.mp hyz
  exact eq_iff.mpr ⟨hx, hz, hk.trans hk'⟩

end Binary32

end SlcNode
