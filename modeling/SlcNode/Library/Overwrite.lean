import Mathlib.Data.List.Basic

namespace SlcNode

variable {α : Type*}

def overwrite (pos : ℕ) (new old : List α) : List α :=
  old.take pos ++ new ++ old.drop (pos + new.length)

namespace Overwrite

variable {new old : List α}

theorem overwrite_zero (new old : List α) : overwrite 0 new old = new ++ old.drop new.length := by
  simp [overwrite]

theorem overwrite_end (new old : List α) : overwrite old.length new old = old ++ new := by
  simp [overwrite]

theorem length_overwrite_zero (new old : List α) :
    (overwrite 0 new old).length = max new.length old.length := by
  rw [overwrite_zero, List.length_append, List.length_drop]
  omega

theorem take_overwrite_zero (new old : List α) : (overwrite 0 new old).take new.length = new := by
  rw [overwrite_zero, List.take_left]

theorem overwrite_zero_eq_new_iff : overwrite 0 new old = new ↔ old.length ≤ new.length := by
  rw [overwrite_zero]
  constructor
  · intro h
    have hdrop := List.append_right_eq_self.mp h
    exact List.drop_eq_nil_iff.mp hdrop
  · intro h
    rw [List.drop_eq_nil_iff.mpr h, List.append_nil]

end Overwrite

end SlcNode
