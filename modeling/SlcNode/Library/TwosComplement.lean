import SlcNode.Library.LittleEndian
import Mathlib.Tactic.Positivity
import Mathlib.Tactic.Zify

namespace SlcNode.TwosComplement

open LittleEndian

def Fits (n : ℕ) (v : ℤ) : Prop := -(256 : ℤ) ^ n ≤ 2 * v ∧ 2 * v < (256 : ℤ) ^ n

instance (n : ℕ) (v : ℤ) : Decidable (Fits n v) := inferInstanceAs (Decidable (_ ∧ _))

def bytesOf (n : ℕ) (v : ℤ) : List Byte := bytes n (v % (256 : ℤ) ^ n).toNat

variable {n : ℕ} {v : ℤ}

theorem bytesOf_length (n : ℕ) (v : ℤ) : (bytesOf n v).length = n := bytes_length n _

theorem value_bytesOf (n : ℕ) (v : ℤ) : (value (bytesOf n v) : ℤ) = v % (256 : ℤ) ^ n := by
  have hpos : (0 : ℤ) < 256 ^ n := by positivity
  have hnonneg := Int.emod_nonneg v hpos.ne'
  have hlt : (v % (256 : ℤ) ^ n).toNat < 256 ^ n := by
    zify
    rw [Int.toNat_of_nonneg hnonneg]
    exact Int.emod_lt_of_pos v hpos
  rw [bytesOf, value_bytes_of_lt hlt, Int.toNat_of_nonneg hnonneg]

theorem value_bytesOf_eq_iff (h : Fits n v) : (value (bytesOf n v) : ℤ) = v ↔ 0 ≤ v := by
  obtain ⟨-, hlt⟩ := h
  rw [value_bytesOf]
  constructor
  · intro heq
    rw [← heq]
    exact Int.emod_nonneg v (by positivity)
  · intro hv
    exact Int.emod_eq_of_lt hv (by omega)

end SlcNode.TwosComplement
