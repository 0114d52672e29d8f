import Mathlib.Data.List.Basic

namespace SlcNode.Hex

def digit (c : BitVec 8) : Option (BitVec 8) :=
  if 0x30 ≤ c ∧ c ≤ 0x39 then some (c - 0x30)
  else if 0x41 ≤ c ∧ c ≤ 0x46 then some (c - 0x41 + 10)
  else if 0x61 ≤ c ∧ c ≤ 0x66 then some (c - 0x61 + 10)
  else none

def IsDigit (c : BitVec 8) : Prop := (digit c).isSome

instance (c : BitVec 8) : Decidable (IsDigit c) := inferInstanceAs (Decidable (_ = true))

def pair (hi lo : BitVec 8) : BitVec 8 := (hi <<< 4) + lo

def decode : List (BitVec 8) → Option (List (BitVec 8))
  | [] => some []
  | [_] => none
  | c :: d :: text => do
    let hi ← digit c
    let lo ← digit d
    let bytes ← decode text
    return pair hi lo :: bytes

def fill (text : List (BitVec 8)) : List (BitVec 8) :=
  text.map fun c => if IsDigit c then c else 0x30

theorem decode_cons₂ {c d : BitVec 8} {hi lo : BitVec 8} (hc : digit c = some hi)
    (hd : digit d = some lo) (text : List (BitVec 8)) :
    decode (c :: d :: text) = (decode text).map (pair hi lo :: ·) := by
  rw [decode, hc, hd]
  cases decode text <;> rfl

theorem decode_some {text bytes : List (BitVec 8)} (h : decode text = some bytes) :
    text.length = 2 * bytes.length ∧ ∀ c ∈ text, IsDigit c := by
  fun_induction decode text generalizing bytes with
  | case1 =>
    obtain rfl := Option.some.inj h
    exact ⟨rfl, fun c hc => absurd hc List.not_mem_nil⟩
  | case2 => cases h
  | case3 c d text ih =>
    cases hc : digit c with
    | none => simp [hc] at h
    | some hi =>
      cases hd : digit d with
      | none => simp [hc, hd] at h
      | some lo =>
        cases ht : decode text with
        | none => simp [hc, hd, ht] at h
        | some rest =>
          obtain ⟨hlen, hall⟩ := ih ht
          have hb : pair hi lo :: rest = bytes := by simpa [hc, hd, ht] using h
          subst hb
          have hcd : IsDigit c ∧ IsDigit d := by simp [IsDigit, hc, hd]
          refine ⟨by simp only [List.length_cons, hlen]; omega, ?_⟩
          simpa only [List.forall_mem_cons] using ⟨hcd.1, hcd.2, hall⟩

def char (n : BitVec 8) : BitVec 8 := if n < 10 then 0x30 + n else 0x61 + (n - 10)

def encodeByte (b : BitVec 8) : List (BitVec 8) := [char (b >>> 4), char (b &&& 15)]

def encode (bytes : List (BitVec 8)) : List (BitVec 8) := bytes.flatMap encodeByte

def toLower (c : BitVec 8) : BitVec 8 := if 0x41 ≤ c ∧ c ≤ 0x5A then c + 0x20 else c

theorem digit_char (n : BitVec 8) (h : n < 16) : digit (char n) = some n := by
  revert n
  decide

theorem char_digit {c n : BitVec 8} (h : digit c = some n) : n < 16 ∧ char n = toLower c := by
  have hall : ∀ c, (digit c).all (fun n => n < 16 && char n == toLower c) = true := by decide
  have hn := hall c
  rw [h, Option.all_some, Bool.and_eq_true, decide_eq_true_iff, beq_iff_eq] at hn
  exact hn

theorem half_lt (b : BitVec 8) : b >>> 4 < 16 ∧ b &&& 15 < 16 ∧ pair (b >>> 4) (b &&& 15) = b := by
  revert b
  decide

theorem pair_toNat {hi lo : BitVec 8} (hhi : hi < 16) (hlo : lo < 16) :
    (pair hi lo).toNat = 16 * hi.toNat + lo.toNat := by
  have h16 : (16 : BitVec 8).toNat = 16 := rfl
  rw [BitVec.lt_def, h16] at hhi hlo
  rw [pair, BitVec.toNat_add, BitVec.toNat_shiftLeft, Nat.shiftLeft_eq]
  omega

theorem encodeByte_pair {hi lo : BitVec 8} (hhi : hi < 16) (hlo : lo < 16) :
    encodeByte (pair hi lo) = [char hi, char lo] := by
  obtain ⟨hhi', hlo', hsplit⟩ := half_lt (pair hi lo)
  have hvalue := congrArg BitVec.toNat hsplit
  rw [pair_toNat hhi' hlo', pair_toNat hhi hlo] at hvalue
  have h16 : (16 : BitVec 8).toNat = 16 := rfl
  rw [BitVec.lt_def, h16] at hhi hlo hhi' hlo'
  have hh : pair hi lo >>> 4 = hi := BitVec.eq_of_toNat_eq (by omega)
  have hl : pair hi lo &&& 15 = lo := BitVec.eq_of_toNat_eq (by omega)
  rw [encodeByte, hh, hl]

theorem decode_encode (bytes : List (BitVec 8)) : decode (encode bytes) = some bytes := by
  induction bytes with
  | nil => rfl
  | cons b bytes ih =>
    obtain ⟨hhi, hlo, hb⟩ := half_lt b
    have hcons : encode (b :: bytes) = char (b >>> 4) :: char (b &&& 15) :: encode bytes := rfl
    rw [hcons, decode_cons₂ (digit_char _ hhi) (digit_char _ hlo), ih, Option.map_some, hb]

theorem encode_length (bytes : List (BitVec 8)) : (encode bytes).length = 2 * bytes.length :=
  (decode_some (decode_encode bytes)).1

theorem encode_decode {text bytes : List (BitVec 8)} (h : decode text = some bytes) :
    encode bytes = text.map toLower := by
  fun_induction decode text generalizing bytes with
  | case1 =>
    obtain rfl := Option.some.inj h
    rfl
  | case2 => cases h
  | case3 c d text ih =>
    simp only [Option.bind_eq_bind, Option.bind_eq_some_iff, Option.pure_def, Option.some.injEq] at h
    obtain ⟨hi, hc, lo, hd, rest, ht, rfl⟩ := h
    obtain ⟨hhi, hc'⟩ := char_digit hc
    obtain ⟨hlo, hd'⟩ := char_digit hd
    have hcons : encode (pair hi lo :: rest) = encodeByte (pair hi lo) ++ encode rest := rfl
    rw [hcons, encodeByte_pair hhi hlo, ih ht, hc', hd']
    rfl

theorem fill_of_digits {text : List (BitVec 8)} (h : ∀ c ∈ text, IsDigit c) : fill text = text := by
  unfold fill
  conv_rhs => rw [← List.map_id text]
  exact List.map_congr_left fun c hc => if_pos (h c hc)

theorem digit_fill (c : BitVec 8) :
    digit (if IsDigit c then c else 0x30) = some ((digit c).getD 0) := by
  split
  case isTrue h =>
    obtain ⟨v, hv⟩ := Option.isSome_iff_exists.mp h
    rw [hv, Option.getD_some]
  case isFalse h =>
    rw [IsDigit, Bool.not_eq_true, Option.isSome_eq_false_iff, Option.isNone_iff_eq_none] at h
    rw [h]
    rfl

end SlcNode.Hex
