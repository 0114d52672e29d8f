import SlcNode.CellularAt
import SlcNode.Library.BitMask

namespace SlcNode.CellularAt

open BitMask

def found (tgt : Target) (mask : BitVec 64) (i : ℕ) : Bool := mask &&& bandBit tgt i ≠ 0

def bitsFound (tgt : Target) (mask : BitVec 64) : List ℕ := (List.range' 0 64).filter (found tgt mask)

def bandOfBit (i : ℕ) : Byte := BitVec.ofNat 8 (i + 1)

variable {tgt : Target} {size : ℕ} {band : List Byte}

theorem bandsFrom_eq {mask : BitVec 64} {n i : ℕ} (hi : i + n = 64) (band : List Byte)
    (h : band.length + ((List.range' i n).filter (found tgt mask)).length ≤ size) :
    bandsFrom tgt mask size n band =
      band ++ ((List.range' i n).filter (found tgt mask)).map bandOfBit := by
  induction n generalizing i band with
  | zero => simp [bandsFrom]
  | succ n ih =>
    have hbit : (63 - n : ℤ) = i := by omega
    have hband : BitVec.ofNat 8 (64 - n) = bandOfBit i := by
      rw [bandOfBit]
      congr 1
      omega
    rw [bandsFrom, hband, hbit]
    rw [List.range'_succ, List.filter_cons] at h ⊢
    by_cases hm : found tgt mask i = true
    · rw [if_pos (of_decide_eq_true hm)]
      rw [if_pos hm] at h ⊢
      rw [List.length_cons] at h
      split_ifs with hfull
      · have hnil : (List.range' (i + 1) n).filter (found tgt mask) = [] :=
          List.eq_nil_of_length_eq_zero (by omega)
        rw [hnil]
        rfl
      · rw [ih (i := i + 1) (by omega) _ (by rw [List.length_append, List.length_singleton]; omega),
          List.append_assoc]
        rfl
    · rw [if_neg (fun hne => hm (decide_eq_true hne))]
      rw [if_neg hm] at h ⊢
      exact ih (i := i + 1) (by omega) band h

theorem bandsOf_eq {mask : BitVec 64} (h : (bitsFound tgt mask).length ≤ size) :
    bandsOf tgt mask size = (bitsFound tgt mask).map bandOfBit := by
  by_cases hm : mask ≠ 0
  · rw [bandsOf, if_pos hm]
    exact bandsFrom_eq rfl [] (by rwa [List.length_nil, Nat.zero_add])
  · rw [bandsOf, if_neg hm, bitsFound, List.filter_eq_nil_iff.mpr]
    · rfl
    · intro i _
      rw [not_not] at hm
      simp [found, hm]

theorem bandOfBit_toNat {i : ℕ} (hi : i < 64) : (bandOfBit i).toNat = i + 1 := by
  rw [bandOfBit, BitVec.toNat_ofNat]
  omega

theorem bandsOf_increasing {mask : BitVec 64} (h : (bitsFound tgt mask).length ≤ size) :
    (bandsOf tgt mask size).Pairwise (· < ·) := by
  rw [bandsOf_eq h, List.pairwise_map]
  have hsorted : (bitsFound tgt mask).Pairwise (· < ·) := (List.pairwise_lt_range' ..).filter _
  refine hsorted.imp_of_mem fun {i j} hi hj hij => ?_
  have hi' := (List.mem_range'_1.mp (List.mem_of_mem_filter hi)).2
  have hj' := (List.mem_range'_1.mp (List.mem_of_mem_filter hj)).2
  rw [BitVec.lt_def, bandOfBit_toNat (by omega), bandOfBit_toNat (by omega)]
  omega

theorem mem_bandsOf_iff {mask : BitVec 64} (h : (bitsFound tgt mask).length ≤ size) (b : Byte) :
    b ∈ bandsOf tgt mask size ↔ ∃ i < 64, found tgt mask i = true ∧ bandOfBit i = b := by
  simp only [bandsOf_eq h, bitsFound, List.mem_map, List.mem_filter, List.mem_range'_1, Nat.zero_le,
    true_and, Nat.zero_add, and_assoc]

def RoundTrip (tgt : Target) (band : List Byte) (size : ℕ) : Prop :=
  (∀ b, b ∈ bandsOf tgt (bandmask tgt band) size ↔ b ∈ band) ∧
    (bandsOf tgt (bandmask tgt band) size).Pairwise (· < ·)

/-- What the target makes of `1 << i` for a bit beyond an `int` has bits of given bands only, and
at least one, or of none. -/
def Harmless (tgt : Target) (band : List Byte) (i : ℕ) : Prop :=
  (bandOfBit i ∈ band → tgt.shl i ≠ 0) ∧
    ∀ k < 32, (tgt.shl i).getLsbD k = true → (bandOfBit k ∈ band ↔ bandOfBit i ∈ band)

theorem shl_of_lt {i : ℕ} (hi : i < 32) : shl tgt i = 1#32 <<< i := by
  rw [shl, if_pos (by omega), Int.toNat_natCast]

theorem shl_of_ge {i : ℕ} (hi : 32 ≤ i) : shl tgt i = tgt.shl i := by
  rw [shl, if_neg (by omega)]

theorem bandBit_meet_iff (i j : ℤ) :
    bandBit tgt i &&& bandBit tgt j ≠ 0 ↔ shl tgt i &&& shl tgt j ≠ 0 :=
  signExtend_meet_iff (by decide)

theorem bit_shl_iff {j k : ℕ} (hk : k < 32) : (shl tgt k).getLsbD j = true ↔ j = k := by
  rw [shl_of_lt hk, single_bit_iff hk]

theorem shl_meet_iff {k : ℕ} (hk : k < 32) (x : BitVec 32) :
    x &&& shl tgt k ≠ 0 ↔ x.getLsbD k = true := by
  rw [shl_of_lt hk, BitVec.and_comm, single_meet_iff hk]

theorem exists_bit (hband : ∀ b ∈ band, 1 ≤ b.toNat ∧ b.toNat ≤ 64) {b : Byte} (hb : b ∈ band) :
    ∃ i < 64, bandOfBit i = b ∧ ((b.toNat : ℤ) - 1 = i) := by
  obtain ⟨hpos, hle⟩ := hband b hb
  refine ⟨b.toNat - 1, by omega, ?_, by omega⟩
  apply BitVec.eq_of_toNat_eq
  rw [bandOfBit_toNat (by omega)]
  omega

theorem found_bandmask_iff (hband : ∀ b ∈ band, 1 ≤ b.toNat ∧ b.toNat ≤ 64) (i : ℕ) :
    found tgt (bandmask tgt band) i = true ↔
      ∃ j < 64, bandOfBit j ∈ band ∧ shl tgt j &&& shl tgt i ≠ 0 := by
  rw [found, decide_eq_true_iff, bandmask, union_meet_iff]
  simp only [bandBit_meet_iff]
  constructor
  · rintro (hz | ⟨b, hb, hmeet⟩)
    · exact absurd BitVec.zero_and hz
    · obtain ⟨j, hj, rfl, hcast⟩ := exists_bit hband hb
      exact ⟨j, hj, hb, hcast ▸ hmeet⟩
  · rintro ⟨j, hj, hb, hmeet⟩
    refine .inr ⟨_, hb, ?_⟩
    rwa [bandOfBit_toNat hj, Nat.cast_add, Nat.cast_one, add_sub_cancel_right]

theorem roundTrip_iff_found (hband : ∀ b ∈ band, 1 ≤ b.toNat ∧ b.toNat ≤ 64)
    (hsize : (bitsFound tgt (bandmask tgt band)).length ≤ size) :
    RoundTrip tgt band size ↔
      ∀ i < 64, found tgt (bandmask tgt band) i = true ↔ bandOfBit i ∈ band := by
  constructor
  · rintro ⟨hmem, -⟩ i hi
    rw [← hmem, mem_bandsOf_iff hsize]
    constructor
    · exact fun hf => ⟨i, hi, hf, rfl⟩
    · rintro ⟨j, hj, hf, heq⟩
      have hnat := congrArg BitVec.toNat heq
      rw [bandOfBit_toNat hj, bandOfBit_toNat hi] at hnat
      rwa [← Nat.succ.inj hnat]
  · intro h
    refine ⟨fun b => ?_, bandsOf_increasing hsize⟩
    rw [mem_bandsOf_iff hsize]
    constructor
    · rintro ⟨i, hi, hf, rfl⟩
      exact (h i hi).mp hf
    · intro hb
      obtain ⟨i, hi, rfl, -⟩ := exists_bit hband hb
      exact ⟨i, hi, (h i hi).mpr hb, rfl⟩

theorem bit_given {j k : ℕ} (h : ∀ i, 32 ≤ i → i < 64 → Harmless tgt band i) (hj : j < 64)
    (hgiven : bandOfBit j ∈ band) (hk : k < 32) (hbit : (shl tgt j).getLsbD k = true) :
    bandOfBit k ∈ band := by
  rcases Nat.lt_or_ge j 32 with hlow | hwide
  · obtain rfl := (bit_shl_iff hlow).mp hbit
    exact hgiven
  · rw [shl_of_ge hwide] at hbit
    exact ((h j hwide hj).2 k hk hbit).mpr hgiven

theorem roundTrip_iff (hband : ∀ b ∈ band, 1 ≤ b.toNat ∧ b.toNat ≤ 64)
    (hsize : (bitsFound tgt (bandmask tgt band)).length ≤ size) :
    RoundTrip tgt band size ↔ ∀ i, 32 ≤ i → i < 64 → Harmless tgt band i := by
  rw [roundTrip_iff_found hband hsize]
  simp only [found_bandmask_iff hband]
  constructor
  · intro h i hwide hi
    rw [Harmless, ← shl_of_ge hwide]
    refine ⟨fun hgiven hz => ?_, fun k hk hbit => ⟨fun hk' => ?_, fun hgiven => ?_⟩⟩
    · obtain ⟨j, -, -, hmeet⟩ := (h i hi).mpr hgiven
      exact hmeet (by rw [hz]; exact BitVec.and_zero)
    · refine (h i hi).mp ⟨k, by omega, hk', ?_⟩
      rw [BitVec.and_comm]
      exact (shl_meet_iff hk _).mpr hbit
    · exact (h k (by omega)).mp ⟨i, hi, hgiven, (shl_meet_iff hk _).mpr hbit⟩
  · intro h i hi
    constructor
    · rintro ⟨j, hj, hgiven, hmeet⟩
      obtain ⟨k, hk, hbitj, hbiti⟩ := meet_iff.mp hmeet
      have hk' := bit_given h hj hgiven hk hbitj
      rcases Nat.lt_or_ge i 32 with hlow | hwide
      · exact (bit_shl_iff hlow).mp hbiti ▸ hk'
      · rw [shl_of_ge hwide] at hbiti
        exact ((h i hwide hi).2 k hk hbiti).mp hk'
    · intro hgiven
      refine ⟨i, hi, hgiven, meet_self_iff.mpr ?_⟩
      rcases Nat.lt_or_ge i 32 with hlow | hwide
      · exact ne_zero_iff.mpr ⟨i, hlow, (bit_shl_iff hlow).mpr rfl⟩
      · rw [shl_of_ge hwide]
        exact (h i hwide hi).1 hgiven

theorem roundTrip_iff_of_shl_zero (hshl : ∀ i : ℕ, 32 ≤ i → i < 64 → tgt.shl i = 0)
    (hband : ∀ b ∈ band, 1 ≤ b.toNat ∧ b.toNat ≤ 64)
    (hsize : (bitsFound tgt (bandmask tgt band)).length ≤ size) :
    RoundTrip tgt band size ↔ ∀ b ∈ band, b.toNat ≤ 32 := by
  rw [roundTrip_iff hband hsize]
  constructor
  · intro h b hb
    obtain ⟨i, hi, rfl, -⟩ := exists_bit hband hb
    rw [bandOfBit_toNat hi]
    by_contra hwide
    exact (h i (by omega) hi).1 hb (hshl i (by omega) hi)
  · intro h i hwide hi
    have hn : bandOfBit i ∉ band := by
      intro hb
      have hle := h _ hb
      rw [bandOfBit_toNat hi] at hle
      omega
    refine ⟨fun hgiven => absurd hgiven hn, fun k _ hbit => ?_⟩
    rw [hshl i hwide hi, BitVec.ofNat_eq_ofNat, BitVec.getLsbD_zero] at hbit
    exact absurd hbit Bool.false_ne_true

theorem bandmask_roundTrip (hband : ∀ b ∈ band, 1 ≤ b.toNat ∧ b.toNat ≤ 64)
    (hsize : (bitsFound tgt (bandmask tgt band)).length ≤ size) :
    (RoundTrip tgt band size ↔ ∀ i, 32 ≤ i → i < 64 → Harmless tgt band i) ∧
      ((∀ i : ℕ, 32 ≤ i → i < 64 → tgt.shl i = 0) →
        (RoundTrip tgt band size ↔ ∀ b ∈ band, b.toNat ≤ 32)) :=
  ⟨roundTrip_iff hband hsize, fun hshl => roundTrip_iff_of_shl_zero hshl hband hsize⟩

def shiftedOut : Target := ⟨fun _ => 0, fun _ => 0⟩

theorem lab_bands_roundTrip : RoundTrip shiftedOut [28, 3, 8, 3] 3 :=
  ((bandmask_roundTrip (by decide) (by decide)).2 fun _ _ _ => rfl).mpr (by decide)

theorem band_33_lost : ¬RoundTrip shiftedOut [33] 64 := by
  rintro ⟨h, -⟩
  have hread : (33 : Byte) ∈ bandsOf shiftedOut (bandmask shiftedOut [33]) 64 :=
    (h 33).mpr (List.mem_singleton_self _)
  exact absurd hread (by decide)

end SlcNode.CellularAt
