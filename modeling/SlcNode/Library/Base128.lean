import Mathlib.Tactic.Ring
import SlcNode.Library.LittleEndian

namespace SlcNode.Base128

def value : List Byte → ℕ
  | [] => 0
  | b :: bs => b.toNat % 128 + 128 * value bs

def More (b : Byte) : Prop := 128 ≤ b.toNat

instance (b : Byte) : Decidable (More b) := inferInstanceAs (Decidable (_ ≤ _))

inductive Whole : List Byte → Prop
  | last {b : Byte} : ¬More b → Whole [b]
  | more {b : Byte} {bs : List Byte} : More b → Whole bs → Whole (b :: bs)

def encode : ℕ → ℕ → Option (List Byte)
  | 0, _ => none
  | n + 1, v =>
    if v / 128 = 0 then some [BitVec.ofNat 8 v]
    else (encode n (v / 128)).map (BitVec.ofNat 8 (v % 128 + 128) :: ·)

variable {n v : ℕ} {bs : List Byte}

theorem encode_succ (h : encode (n + 1) v = some bs) :
    v < 128 ∧ bs = [BitVec.ofNat 8 v] ∨
      128 ≤ v ∧ ∃ cs, encode n (v / 128) = some cs ∧ bs = BitVec.ofNat 8 (v % 128 + 128) :: cs := by
  rw [encode] at h
  split at h
  · next hv => exact .inl ⟨by omega, (Option.some.inj h).symm⟩
  · next hv =>
    obtain ⟨cs, hcs, hbs⟩ := Option.map_eq_some_iff.mp h
    exact .inr ⟨by omega, cs, hcs, hbs.symm⟩

theorem whole_encode (h : encode n v = some bs) : Whole bs := by
  induction n generalizing v bs with
  | zero => cases h
  | succ n ih =>
    rcases encode_succ h with ⟨hv, rfl⟩ | ⟨-, cs, hcs, rfl⟩
    · refine .last ?_
      rw [More, BitVec.toNat_ofNat]
      omega
    · refine .more ?_ (ih hcs)
      rw [More, BitVec.toNat_ofNat]
      omega

theorem value_encode (h : encode n v = some bs) : value bs = v := by
  induction n generalizing v bs with
  | zero => cases h
  | succ n ih =>
    rcases encode_succ h with ⟨hv, rfl⟩ | ⟨-, cs, hcs, rfl⟩
    · simp only [value, BitVec.toNat_ofNat]
      omega
    · simp only [value, BitVec.toNat_ofNat, ih hcs]
      omega

theorem length_encode_le {m : ℕ} (hm : 0 < m) (h : encode n v = some bs) :
    bs.length ≤ m ↔ v < 128 ^ m := by
  induction n generalizing v bs m with
  | zero => cases h
  | succ n ih =>
    obtain ⟨m, rfl⟩ := Nat.exists_eq_succ_of_ne_zero hm.ne'
    have hpos : 0 < 128 ^ m := Nat.pow_pos (by decide)
    rw [Nat.succ_eq_add_one, pow_succ]
    rcases encode_succ h with ⟨hv, rfl⟩ | ⟨hv, cs, hcs, rfl⟩
    · exact iff_of_true (Nat.succ_pos m) (hv.trans_le (Nat.le_mul_of_pos_left _ hpos))
    · rw [List.length_cons, Nat.add_le_add_iff_right, mul_comm]
      cases m with
      | zero =>
        have hne := whole_encode hcs
        refine iff_of_false (fun hlen => ?_) (by omega)
        rw [List.length_eq_zero_iff.mp (Nat.le_zero.mp hlen)] at hne
        cases hne
      | succ m =>
        rw [ih (Nat.succ_pos m) hcs]
        exact Nat.div_lt_iff_lt_mul (by decide) |>.trans (by rw [mul_comm])

theorem encode_of_lt (hn : 0 < n) (hv : v < 128 ^ n) : ∃ bs, encode n v = some bs := by
  induction n generalizing v with
  | zero => exact absurd hn (lt_irrefl 0)
  | succ n ih =>
    rw [encode]
    split
    · exact ⟨_, rfl⟩
    · next hq =>
      have hn : 0 < n := by
        rcases Nat.eq_zero_or_pos n with rfl | hn
        · exact absurd (Nat.div_eq_of_lt (by simpa using hv)) hq
        · exact hn
      have hlt : v / 128 < 128 ^ n := by
        rw [pow_succ] at hv
        exact Nat.div_lt_of_lt_mul (by rwa [mul_comm])
      obtain ⟨cs, hcs⟩ := ih hn hlt
      exact ⟨_, by rw [hcs]; rfl⟩

theorem value_lt (bs : List Byte) : value bs < 128 ^ bs.length := by
  induction bs with
  | nil => exact Nat.one_pos
  | cons b bs ih =>
    rw [value, List.length_cons, pow_succ]
    omega

theorem value_append (xs ys : List Byte) :
    value (xs ++ ys) = value xs + 128 ^ xs.length * value ys := by
  induction xs with
  | nil => simp [value]
  | cons x xs ih =>
    rw [List.cons_append, value, ih, value, List.length_cons, pow_succ]
    ring

end SlcNode.Base128
