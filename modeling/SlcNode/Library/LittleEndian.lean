import Mathlib.Tactic.Ring
import Mathlib.Data.BitVec

namespace SlcNode

abbrev Byte := BitVec 8

namespace LittleEndian

def value : List Byte → ℕ
  | [] => 0
  | b :: bs => b.toNat + 256 * value bs

def bytes : ℕ → ℕ → List Byte
  | 0, _ => []
  | n + 1, v => BitVec.ofNat 8 v :: bytes n (v / 256)

@[simp] theorem bytes_length (n v : ℕ) : (bytes n v).length = n := by
  induction n generalizing v with
  | zero => rfl
  | succ n ih => simp [bytes, ih]

theorem value_lt (bs : List Byte) : value bs < 256 ^ bs.length := by
  induction bs with
  | nil => simp [value]
  | cons b bs ih =>
    have hb := b.isLt
    rw [value, List.length_cons, pow_succ]
    omega

theorem value_zeros (n : ℕ) : value (List.replicate n 0) = 0 := by
  induction n with
  | zero => rfl
  | succ n ih =>
    rw [List.replicate_succ, value, ih]
    rfl

theorem value_append (xs ys : List Byte) :
    value (xs ++ ys) = value xs + 256 ^ xs.length * value ys := by
  induction xs with
  | nil => simp [value]
  | cons x xs ih =>
    rw [List.cons_append, value, ih, value, List.length_cons, pow_succ]
    ring

theorem value_append_zeros (bs : List Byte) (n : ℕ) :
    value (bs ++ List.replicate n 0) = value bs := by
  rw [value_append, value_zeros, Nat.mul_zero, Nat.add_zero]

theorem value_bytes (n v : ℕ) : value (bytes n v) = v % 256 ^ n := by
  induction n generalizing v with
  | zero => simp [bytes, value, Nat.mod_one]
  | succ n ih =>
    have hp : 256 ^ (n + 1) = 256 * 256 ^ n := by rw [pow_succ, mul_comm]
    rw [bytes, value, ih, BitVec.toNat_ofNat, hp, Nat.mod_mul]

theorem take_bytes {m n : ℕ} (h : m ≤ n) (v : ℕ) : (bytes n v).take m = bytes m v := by
  induction n generalizing m v with
  | zero => rw [Nat.le_zero.mp h, List.take_zero, bytes]
  | succ n ih =>
    cases m with
    | zero => rfl
    | succ m => rw [bytes, List.take_succ_cons, ih (Nat.le_of_succ_le_succ h), bytes]

theorem value_bytes_of_lt {n v : ℕ} (h : v < 256 ^ n) : value (bytes n v) = v := by
  rw [value_bytes, Nat.mod_eq_of_lt h]

theorem bytes_value (bs : List Byte) : bytes bs.length (value bs) = bs := by
  induction bs with
  | nil => rfl
  | cons b bs ih =>
    have hb := b.isLt
    have hhead : BitVec.ofNat 8 (b.toNat + 256 * value bs) = b := by
      apply BitVec.eq_of_toNat_eq
      rw [BitVec.toNat_ofNat]
      omega
    have htail : (b.toNat + 256 * value bs) / 256 = value bs := by omega
    rw [List.length_cons, value, bytes, hhead, htail, ih]

theorem bytes_value_of_length {bs : List Byte} {n : ℕ} (h : bs.length = n) :
    bytes n (value bs) = bs := h ▸ bytes_value bs

def field (bs : List Byte) (offset n : ℕ) : ℕ := value ((bs.drop offset).take n)

theorem field_skip {xs ys : List Byte} {offset n : ℕ} (h : xs.length ≤ offset) :
    field (xs ++ ys) offset n = field ys (offset - xs.length) n := by
  rw [field, List.drop_append, List.drop_eq_nil_of_le h, List.nil_append, field]

theorem field_here {xs ys : List Byte} {n : ℕ} (h : xs.length = n) :
    field (xs ++ ys) 0 n = value xs := by
  rw [field, List.drop_zero, List.take_left' h]

theorem field_end {xs : List Byte} {n : ℕ} (h : xs.length = n) : field xs 0 n = value xs := by
  rw [field, List.drop_zero, List.take_of_length_le h.le]

theorem field_lt (bs : List Byte) (offset n : ℕ) : field bs offset n < 256 ^ n := by
  refine (value_lt _).trans_le (Nat.pow_le_pow_right (by decide) ?_)
  rw [List.length_take]
  omega

theorem bytes_field_append {bs : List Byte} {offset n next : ℕ} (hn : offset + n = next)
    (h : next ≤ bs.length) : bytes n (field bs offset n) ++ bs.drop next = bs.drop offset := by
  have hlen : ((bs.drop offset).take n).length = n := by
    rw [List.length_take, List.length_drop]
    omega
  rw [field, bytes_value_of_length hlen, ← hn, ← List.drop_drop, List.take_append_drop]

end LittleEndian

end SlcNode
