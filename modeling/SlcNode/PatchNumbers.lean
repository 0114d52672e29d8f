import SlcNode.BsdiffFormat
import SlcNode.PatchApply

namespace SlcNode.Bspatch

def readNumber (isSigned : Bool) : List Byte → BspatchStream → Option (BitVec 64 × List Byte)
  | [], _ => none
  | b :: bs, s =>
    let r := readVarIntEventified isSigned (toNonCompressed [b] s)
    if r.1 = .operationDoneImmediately then
      if r.2.varIntLen = 0 then some (r.2.varInt, bs) else readNumber isSigned bs r.2
    else none

def taken (b : Byte) (s : BspatchStream) : BspatchStream :=
  { toNonCompressed [b] s with
    varInt := (VarInt.decodeByte b s.varInt s.varIntLen).2
    varIntLen := s.varIntLen + 1
    nextState := .readVarintPiece }

section Reading

variable {s : BspatchStream} {b : Byte} {bs rest : List Byte}

theorem readNumber_more (isSigned : Bool) (hlen : s.varIntLen < 7) (hb : Base128.More b) :
    readNumber isSigned (b :: bs) s = readNumber isSigned bs (taken b s) := by
  rw [readNumber, readVarInt_more (s := toNonCompressed [b] s) rfl hlen hb isSigned]
  exact (if_pos rfl).trans (if_neg (Nat.succ_ne_zero _))

theorem readNumber_last (isSigned : Bool) (hlen : s.varIntLen < 7) (hb : ¬ Base128.More b) :
    readNumber isSigned (b :: bs) s = some
      (if isSigned then signedValue (VarInt.decodeByte b s.varInt s.varIntLen).2
        else (VarInt.decodeByte b s.varInt s.varIntLen).2, bs) := by
  rw [readNumber, readVarInt_last (s := toNonCompressed [b] s) rfl hlen hb isSigned]
  exact (if_pos rfl).trans (if_pos rfl)

theorem readNumber_full (isSigned : Bool) (hlen : s.varIntLen = 7) :
    readNumber isSigned (b :: bs) s = none := by
  rw [readNumber]
  refine if_neg ?_
  unfold readVarIntEventified
  dsimp only
  rw [if_pos (.inl (by simp [toNonCompressed, hlen]))]
  simp

theorem readNumber_whole (isSigned : Bool) (hb : Base128.Whole bs)
    (hlen : s.varIntLen + bs.length ≤ 7) (hsofar : (soFar s).toNat < 128 ^ s.varIntLen) :
    ∃ x : BitVec 64, x.toNat = (soFar s).toNat + 128 ^ s.varIntLen * Base128.value bs ∧
      readNumber isSigned (bs ++ rest) s = some (if isSigned then signedValue x else x, rest) := by
  induction hb generalizing s with
  | @last b hlast =>
    rw [List.length_singleton] at hlen
    have hdec := VarInt.toNat_decodeByte (b := b) (by omega : s.varIntLen ≤ 8) hsofar
    refine ⟨_, ?_, readNumber_last isSigned (by omega) hlast⟩
    rw [hdec, Base128.value, Base128.value, Nat.mul_zero, Nat.add_zero]
    rfl
  | @more b bs hmore hrest ih =>
    rw [List.length_cons] at hlen
    have hdec := VarInt.toNat_decodeByte (b := b) (by omega : s.varIntLen ≤ 8) hsofar
    have hlt := VarInt.decodeByte_lt (b := b) (by omega : s.varIntLen ≤ 7) hsofar
    have hle : s.varIntLen + 1 + bs.length ≤ 7 := by omega
    obtain ⟨x, hx, hread⟩ := ih (s := taken b s) hle hlt
    refine ⟨x, hx.trans ?_, (readNumber_more isSigned (by omega) hmore).trans hread⟩
    rw [Base128.value, Nat.mul_add, ← Nat.add_assoc, ← Nat.mul_assoc, ← pow_succ]
    exact congrArg (· + _) hdec

theorem readNumber_lt {isSigned : Bool} {v : BitVec 64} (hlen : s.varIntLen ≤ 7)
    (hsofar : (soFar s).toNat < 128 ^ s.varIntLen)
    (h : readNumber isSigned bs s = some (v, rest)) :
    ∃ x : BitVec 64, x.toNat < 2 ^ 49 ∧ v = if isSigned then signedValue x else x := by
  induction bs generalizing s with
  | nil => cases h
  | cons b bs ih =>
    rcases Nat.lt_or_eq_of_le hlen with hlt | hfull
    · have hx := VarInt.decodeByte_lt (b := b) hlen hsofar
      by_cases hb : Base128.More b
      · rw [readNumber_more isSigned hlt hb] at h
        exact ih (s := taken b s) hlt hx h
      · rw [readNumber_last isSigned hlt hb] at h
        obtain ⟨rfl, -⟩ := Prod.mk.inj (Option.some_inj.mp h)
        have hle : s.varIntLen + 1 ≤ 7 := hlt
        exact ⟨_, hx.trans_le (Nat.pow_le_pow_right (by decide) hle), rfl⟩
    · rw [readNumber_full isSigned hfull] at h
      cases h

end Reading

section ReadBack

variable (mem : BsMemoryBuffer)

theorem signedValue_lt {x : BitVec 64} (h : x.toNat < 2 ^ 49) :
    (signedValue x).toInt.natAbs < 2 ^ 48 := by
  have hvalue : x.toNat =
      VarInt.zigzag (if x.toNat % 2 = 1 then -(x.toNat / 2 : ℕ) else (x.toNat / 2 : ℕ)) ∨
      x.toNat = 1 := by
    unfold VarInt.zigzag
    split_ifs <;> omega
  rcases hvalue with hvalue | hone
  · rw [signedValue, VarInt.unzigzag (by omega) hvalue]
    split_ifs <;> omega
  · obtain rfl : x = 1 := BitVec.eq_of_toNat_eq hone
    decide

theorem soFar_init : (soFar (init mem)).toNat < 128 ^ (init mem).varIntLen := Nat.zero_lt_one

theorem readNumber_numeral (isSigned : Bool) {bs : List Byte} {n : ℕ} (hb : Numeral bs n)
    (rest : List Byte) : ∃ x : BitVec 64, x.toNat = n ∧
      readNumber isSigned (bs ++ rest) (init mem) = some (if isSigned then signedValue x else x, rest) := by
  have hlen : (init mem).varIntLen + bs.length ≤ 7 := (Nat.zero_add _).le.trans hb.length_le
  obtain ⟨x, hx, hread⟩ := readNumber_whole isSigned hb.whole hlen (soFar_init mem)
  refine ⟨x, hx.trans ?_, hread⟩
  rw [hb.value]
  exact (Nat.zero_add _).trans (Nat.one_mul n)

theorem unsigned_readBack_iff (v : BitVec 64) (rest : List Byte) :
    ((VarInt.encodeUnsignedVarint v 8).bind fun bs => readNumber false (bs ++ rest) (init mem)) =
      some (v, rest) ↔ v.toNat < 2 ^ 49 := by
  constructor
  · intro h
    obtain ⟨bs, -, hread⟩ := Option.bind_eq_some_iff.mp h
    obtain ⟨x, hx, rfl⟩ := readNumber_lt (Nat.zero_le _) (soFar_init mem) hread
    exact hx
  · intro h
    obtain ⟨bs, hbs, hnumeral⟩ := Bsdiff.numeral_unsigned h
    obtain ⟨x, hx, hread⟩ := readNumber_numeral mem false hnumeral rest
    rw [BitVec.ofNat_toNat, BitVec.setWidth_eq] at hbs
    rw [hbs, Option.bind_some, hread, BitVec.eq_of_toNat_eq hx]
    rfl

theorem signed_readBack_iff (v : BitVec 64) (rest : List Byte) :
    ((VarInt.encodeSignedVarint v 8).bind fun bs => readNumber true (bs ++ rest) (init mem)) =
      some (v, rest) ↔ v.toInt.natAbs < 2 ^ 48 := by
  constructor
  · intro h
    obtain ⟨bs, -, hread⟩ := Option.bind_eq_some_iff.mp h
    obtain ⟨x, hx, rfl⟩ := readNumber_lt (Nat.zero_le _) (soFar_init mem) hread
    exact signedValue_lt hx
  · intro h
    obtain ⟨bs, hbs, hnumeral⟩ := Bsdiff.numeral_signed h
    obtain ⟨x, hx, hread⟩ := readNumber_numeral mem true hnumeral rest
    have hlt : x.toNat < 2 ^ 63 := by
      rw [hx, VarInt.zigzag]
      split_ifs <;> omega
    have hvalue : signedValue x = v := BitVec.eq_of_toInt_eq (VarInt.unzigzag hlt hx)
    rw [BitVec.ofInt_toInt] at hbs
    rw [hbs, Option.bind_some, hread, if_pos rfl, hvalue]

theorem readBack_iff (v : BitVec 64) (rest : List Byte) :
    (((VarInt.encodeUnsignedVarint v 8).bind fun bs => readNumber false (bs ++ rest) (init mem)) =
        some (v, rest) ↔ v.toNat < 2 ^ 49) ∧
      (((VarInt.encodeSignedVarint v 8).bind fun bs => readNumber true (bs ++ rest) (init mem)) =
        some (v, rest) ↔ v.toInt.natAbs < 2 ^ 48) :=
  ⟨unsigned_readBack_iff mem v rest, signed_readBack_iff mem v rest⟩

end ReadBack

end SlcNode.Bspatch
