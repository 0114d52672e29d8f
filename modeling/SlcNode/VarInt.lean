import SlcNode.Library.Base128

namespace SlcNode

inductive VarIntOpCode
  | errParameters
  | operationCompleted
  | operationNeedsMoreData
deriving DecidableEq, Repr

namespace VarInt

def topBitOnByte : Byte := 128

def topBitOffByte : Byte := 127

/-- The loop over `BUFF_SIZE_MAX - pos`; `none` is `ERR_BUFFER_TOO_SMALL`. -/
def encodeUnsignedLoop : ℕ → BitVec 64 → Option (List Byte)
  | 0, _ => none
  | n + 1, value =>
    let rest := value >>> 7
    if 0 < rest then (encodeUnsignedLoop n rest).map ((value.setWidth 8 ||| topBitOnByte) :: ·)
    else some [value.setWidth 8 &&& topBitOffByte]

def encodeUnsignedVarint (value : BitVec 64) (buffSizeMax : ℕ) : Option (List Byte) :=
  encodeUnsignedLoop buffSizeMax value

/-- The same loop on an `int64_t`, whose test and shift are signed. -/
def encodeSignedLoop : ℕ → BitVec 64 → Option (List Byte)
  | 0, _ => none
  | n + 1, value =>
    let rest := value.sshiftRight 7
    if 0 < rest.toInt then
      (encodeSignedLoop n rest).map ((value.setWidth 8 ||| topBitOnByte) :: ·)
    else some [value.setWidth 8 &&& topBitOffByte]

def encodeSignedVarint (value : BitVec 64) (buffSizeMax : ℕ) : Option (List Byte) :=
  encodeSignedLoop buffSizeMax
    (if value.toInt < 0 then (value * -1) <<< 1 ||| 1 else value <<< 1)

def shiftByte : ℕ → BitVec 64 → BitVec 64
  | 0, byteAs64int => byteAs64int
  | count + 1, byteAs64int => shiftByte count (byteAs64int <<< 7)

def decodeByte (varIntByte : Byte) (varIntValue : BitVec 64) (count : ℕ) :
    VarIntOpCode × BitVec 64 :=
  if count > 9 then (.errParameters, varIntValue)
  else
    let varIntValue := if count = 0 then 0 else varIntValue
    (if varIntByte &&& topBitOnByte ≠ 0 then .operationNeedsMoreData else .operationCompleted,
      varIntValue ||| shiftByte count ((varIntByte &&& topBitOffByte).setWidth 64))

def decodeUnsignedVarint (varIntByte : Byte) (varIntValue : BitVec 64) (count : ℕ) :
    VarIntOpCode × BitVec 64 := decodeByte varIntByte varIntValue count

def decodeSignedVarint (varIntByte : Byte) (varIntValue : BitVec 64) (count : ℕ) :
    VarIntOpCode × BitVec 64 :=
  match decodeByte varIntByte varIntValue count with
  | (.operationCompleted, varIntValue) =>
    (.operationCompleted,
      if varIntValue &&& 1 ≠ 0 then varIntValue.sshiftRight 1 * -1 else varIntValue.sshiftRight 1)
  | r => r

open Base128

theorem toNat_topBitOff (b : Byte) : (b &&& topBitOffByte).toNat = b.toNat % 128 := by
  rw [BitVec.toNat_and]
  exact Nat.and_two_pow_sub_one_eq_mod b.toNat 7

theorem topBitOn_iff (b : Byte) : b &&& topBitOnByte ≠ 0 ↔ More b := by
  revert b
  decide

theorem or_topBitOn (b : Byte) : b ||| topBitOnByte = BitVec.ofNat 8 (b.toNat % 128 + 128) := by
  revert b
  decide

theorem shiftByte_eq (count : ℕ) (x : BitVec 64) : shiftByte count x = x <<< (7 * count) := by
  induction count generalizing x with
  | zero => simp [shiftByte]
  | succ count ih =>
    rw [shiftByte, ih, ← BitVec.shiftLeft_add]
    congr 1
    omega

theorem toNat_shiftRight_seven (value : BitVec 64) : (value >>> 7).toNat = value.toNat / 128 := by
  rw [BitVec.toNat_ushiftRight, Nat.shiftRight_eq_div_pow]

theorem lastByte {value : BitVec 64} (h : value.toNat / 128 = 0) :
    value.setWidth 8 &&& topBitOffByte = BitVec.ofNat 8 value.toNat := by
  apply BitVec.eq_of_toNat_eq
  rw [toNat_topBitOff, BitVec.toNat_setWidth, BitVec.toNat_ofNat]
  omega

theorem moreByte (value : BitVec 64) :
    value.setWidth 8 ||| topBitOnByte = BitVec.ofNat 8 (value.toNat % 128 + 128) := by
  rw [or_topBitOn, BitVec.toNat_setWidth]
  congr 2
  omega

theorem encodeUnsignedVarint_eq (value : BitVec 64) (n : ℕ) :
    encodeUnsignedVarint value n = encode n value.toNat := by
  unfold encodeUnsignedVarint
  induction n generalizing value with
  | zero => rfl
  | succ n ih =>
    have hrest : (0 : BitVec 64) < value >>> 7 ↔ ¬value.toNat / 128 = 0 := by
      rw [BitVec.lt_def, toNat_shiftRight_seven]
      exact Nat.pos_iff_ne_zero
    rw [encodeUnsignedLoop, encode]
    by_cases h : value.toNat / 128 = 0
    · rw [if_neg (fun hr => hrest.mp hr h), if_pos h, lastByte h]
    · rw [if_pos (hrest.mpr h), if_neg h, ih, moreByte, toNat_shiftRight_seven]

theorem toInt_of_lt {value : BitVec 64} (h : value.toNat < 2 ^ 63) : value.toInt = value.toNat :=
  BitVec.toInt_eq_toNat_of_lt (by omega)

theorem sshiftRight_of_lt {value : BitVec 64} (h : value.toNat < 2 ^ 63) (k : ℕ) :
    value.sshiftRight k = value >>> k :=
  BitVec.sshiftRight_eq_of_msb_false (BitVec.msb_eq_false_iff_two_mul_lt.mpr (by omega))

theorem encodeSignedLoop_eq {value : BitVec 64} (h : value.toNat < 2 ^ 63) (n : ℕ) :
    encodeSignedLoop n value = encode n value.toNat := by
  induction n generalizing value with
  | zero => rfl
  | succ n ih =>
    have hlt : (value >>> 7).toNat < 2 ^ 63 := by
      rw [toNat_shiftRight_seven]
      omega
    have hrest : (0 : ℤ) < (value >>> 7).toInt ↔ ¬value.toNat / 128 = 0 := by
      rw [toInt_of_lt hlt, toNat_shiftRight_seven]
      omega
    rw [encodeSignedLoop, encode, sshiftRight_of_lt h]
    by_cases hq : value.toNat / 128 = 0
    · rw [if_neg (fun hr => hrest.mp hr hq), if_pos hq, lastByte hq]
    · rw [if_pos (hrest.mpr hq), if_neg hq, ih hlt, moreByte, toNat_shiftRight_seven]

/-- The number that stands for a signed one: twice its size, and one more below zero. -/
def zigzag (v : ℤ) : ℕ := 2 * v.natAbs + if v < 0 then 1 else 0

theorem mul_minus_one (x : BitVec 64) : x * -1 = -x := by
  rw [BitVec.mul_neg]
  exact congrArg _ (BitVec.mul_one x)

theorem encodeSignedVarint_eq {value : BitVec 64} (h : value.toInt.natAbs < 2 ^ 62) (n : ℕ) :
    encodeSignedVarint value n = encode n (zigzag value.toInt) := by
  have hcond := BitVec.toInt_eq_toNat_cond value
  have hlt := value.isLt
  unfold encodeSignedVarint zigzag
  by_cases hneg : value.toInt < 0
  · have habs : (value * -1).toNat = value.toInt.natAbs := by
      rw [mul_minus_one, BitVec.toNat_neg]
      split at hcond <;> omega
    have htwice : ((value * -1) <<< 1 ||| 1).toNat = 2 * value.toInt.natAbs + 1 := by
      rw [BitVec.toNat_or, BitVec.toNat_shiftLeft, habs, Nat.shiftLeft_eq,
        Nat.mod_eq_of_lt (by omega), mul_comm]
      exact (Nat.two_pow_add_eq_or_of_lt (by decide : 1 < 2 ^ 1) _).symm
    rw [if_pos hneg, if_pos hneg, encodeSignedLoop_eq (by omega), htwice]
  · have habs : value.toNat = value.toInt.natAbs := by
      split at hcond <;> omega
    have htwice : (value <<< 1).toNat = 2 * value.toInt.natAbs := by
      rw [BitVec.toNat_shiftLeft, habs, Nat.shiftLeft_eq, Nat.mod_eq_of_lt (by omega), mul_comm]
    rw [if_neg hneg, if_neg hneg, encodeSignedLoop_eq (by omega), htwice, Nat.add_zero]

theorem toNat_decodeByte {b : Byte} {x : BitVec 64} {count : ℕ} (hc : count ≤ 8)
    (hx : (if count = 0 then 0 else x).toNat < 128 ^ count) :
    (decodeByte b x count).2.toNat =
      (if count = 0 then 0 else x).toNat + 128 ^ count * (b.toNat % 128) := by
  have hpow : (128 : ℕ) ^ count = 2 ^ (7 * count) := by rw [pow_mul, show (2 : ℕ) ^ 7 = 128 from rfl]
  have hb : b.toNat % 128 < 2 ^ 7 := Nat.mod_lt _ (by decide)
  have hfit : b.toNat % 128 * 2 ^ (7 * count) < 2 ^ 64 := by
    have hle : 2 ^ (7 * count) ≤ 2 ^ 56 := Nat.pow_le_pow_right (by decide) (by omega)
    calc b.toNat % 128 * 2 ^ (7 * count) ≤ 2 ^ 7 * 2 ^ 56 := Nat.mul_le_mul hb.le hle
      _ < 2 ^ 64 := by decide
  have hset : ((b &&& topBitOffByte).setWidth 64).toNat = b.toNat % 128 := by
    rw [BitVec.toNat_setWidth, toNat_topBitOff]
    omega
  rw [decodeByte, if_neg (by omega)]
  dsimp only
  rw [BitVec.toNat_or, shiftByte_eq, BitVec.toNat_shiftLeft, hset, Nat.shiftLeft_eq,
    Nat.mod_eq_of_lt hfit, hpow, Nat.or_comm, mul_comm, add_comm]
  exact (Nat.two_pow_add_eq_or_of_lt (hpow ▸ hx) _).symm

theorem decodeByte_lt {b : Byte} {x : BitVec 64} {count : ℕ} (hc : count ≤ 7)
    (hx : (if count = 0 then 0 else x).toNat < 128 ^ count) :
    (decodeByte b x count).2.toNat < 128 ^ (count + 1) := by
  have hb : b.toNat % 128 ≤ 127 := Nat.le_of_lt_succ (Nat.mod_lt _ (by decide))
  rw [toNat_decodeByte (by omega) hx, pow_succ]
  calc (if count = 0 then 0 else x).toNat + 128 ^ count * (b.toNat % 128)
      < 128 ^ count + 128 ^ count * (b.toNat % 128) := Nat.add_lt_add_right hx _
    _ ≤ 128 ^ count + 128 ^ count * 127 := Nat.add_le_add_left (Nat.mul_le_mul_left _ hb) _
    _ = 128 ^ count * 128 := by ring

theorem decodeByte_code {b : Byte} (x : BitVec 64) {count : ℕ} (hc : count ≤ 9) :
    (decodeByte b x count).1 =
      if More b then .operationNeedsMoreData else .operationCompleted := by
  rw [decodeByte, if_neg (by omega)]
  exact if_congr (topBitOn_iff b) rfl rfl

theorem and_one_ne_zero_iff (x : BitVec 64) : x &&& 1 ≠ 0 ↔ x.toNat % 2 = 1 := by
  have hand : (x &&& 1).toNat = x.toNat % 2 := by
    rw [BitVec.toNat_and]
    exact Nat.and_two_pow_sub_one_eq_mod x.toNat 1
  rw [ne_eq, ← BitVec.toNat_inj, hand]
  exact Nat.mod_two_ne_zero

theorem unzigzag {x : BitVec 64} {v : ℤ} (hx : x.toNat < 2 ^ 63) (hv : x.toNat = zigzag v) :
    (if x &&& 1 ≠ 0 then x.sshiftRight 1 * -1 else x.sshiftRight 1).toInt = v := by
  have hhalf : (x >>> 1).toNat = x.toNat / 2 := by
    rw [BitVec.toNat_ushiftRight, Nat.shiftRight_eq_div_pow]
  have hint : (x >>> 1).toInt = (x.toNat / 2 : ℕ) := by
    rw [toInt_of_lt (by omega), hhalf]
  rw [sshiftRight_of_lt hx]
  unfold zigzag at hv
  split at hv
  · rw [if_pos ((and_one_ne_zero_iff x).mpr (by omega)), mul_minus_one, BitVec.toInt_neg,
      hint, Int.bmod_eq_of_le (by omega) (by omega)]
    omega
  · rw [if_neg (mt (and_one_ne_zero_iff x).mp (by omega)), hint]
    omega

end VarInt

end SlcNode
