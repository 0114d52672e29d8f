import SlcNode.ConfigText
import SlcNode.Library.Print

namespace SlcNode

open Print

def sizeofBuff : ℕ := configBuffLen * 2

/-- `tosend`; the comparison is of the 32-bit product. -/
def lwm2mUploadTosend (valueLength : BitVec 32) : BitVec 32 :=
  if (valueLength * 2).toNat > sizeofBuff then BitVec.ofNat 32 (sizeofBuff / 2) else valueLength

def hexText (b : Byte) : List Char := (Hex.encodeByte b).map fun c => Char.ofNat c.toNat

def lwm2mUploadBuff (value : ℕ → Byte) (valueLength : BitVec 32) : Buffer :=
  (Buffer.zeroed sizeofBuff).sprintAll 0
    ((List.range (lwm2mUploadTosend valueLength).toNat).map fun i => hexText (value i))

namespace ConfigPrint

@[simp] theorem hexText_length (b : Byte) : (hexText b).length = 2 := rfl

theorem printed_length (value : ℕ → Byte) (n : ℕ) :
    ((List.range n).map fun i => hexText (value i)).flatten.length = 2 * n := by
  induction n with
  | zero => rfl
  | succ n ih =>
    rw [List.range_succ, List.map_append, List.flatten_append, List.length_append, ih]
    rfl

theorem tosend_toNat (valueLength : BitVec 32) : (lwm2mUploadTosend valueLength).toNat =
    if valueLength.toNat * 2 % 2 ^ 32 > 72 then 36 else valueLength.toNat := by
  have hmul : (valueLength * 2).toNat = valueLength.toNat * 2 % 2 ^ 32 := BitVec.toNat_mul _ _
  have hsize : sizeofBuff = 72 := rfl
  unfold lwm2mUploadTosend
  rw [hmul, hsize]
  split <;> rfl

/-- From `2 ^ 31` on the product starts over at zero and the clamp lets the length pass. -/
theorem tosend_lt_iff (valueLength : BitVec 32) :
    2 * (lwm2mUploadTosend valueLength).toNat < sizeofBuff ↔ valueLength.toNat < configBuffLen := by
  have hsize : sizeofBuff = 72 := rfl
  have hlen : configBuffLen = 36 := rfl
  have hlt := valueLength.isLt
  rw [tosend_toNat, hsize, hlen]
  split <;> omega

theorem buff_inside_iff (value : ℕ → Byte) (valueLength : BitVec 32) :
    (∀ p ∈ (lwm2mUploadBuff value valueLength).written, p < sizeofBuff) ↔
      2 * (lwm2mUploadTosend valueLength).toNat < sizeofBuff := by
  rw [lwm2mUploadBuff, Buffer.sprintAll_inside_iff, printed_length]
  constructor
  · rintro ⟨-, hnil | hlt⟩
    · have hn := congrArg List.length hnil
      rw [List.length_map, List.length_range, List.length_nil] at hn
      rw [hn]
      decide
    · omega
  · intro h
    exact ⟨Buffer.zeroed_inside, .inr (by omega)⟩

theorem upload_inside_iff (value : ℕ → Byte) (valueLength : BitVec 32) :
    (∀ p ∈ (lwm2mUploadBuff value valueLength).written, p < sizeofBuff) ↔
      valueLength.toNat < configBuffLen := by
  rw [buff_inside_iff, tosend_lt_iff]

theorem upload_image_outside :
    ¬∀ p ∈ (lwm2mUploadBuff (fun _ => 0) 36).written, p < sizeofBuff := by
  rw [buff_inside_iff]
  decide

theorem map_getD_range (value : List Byte) {n : ℕ} (h : n ≤ value.length) :
    (List.range n).map (fun i => value.getD i 0) = value.take n := by
  refine List.ext_getElem (by simp [h]) fun i hi _ => ?_
  rw [List.length_map, List.length_range] at hi
  rw [List.getElem_map, List.getElem_range, List.getElem_take,
    List.getD_eq_getElem?_getD, List.getElem?_eq_getElem (by omega), Option.getD_some]

theorem buff_text (value : List Byte) (h : value.length < 2 ^ 31) :
    (lwm2mUploadBuff (fun i => value.getD i 0) (BitVec.ofNat 32 value.length)).cells.take
        (2 * (lwm2mUploadTosend (BitVec.ofNat 32 value.length)).toNat) =
      (lwm2mUploadConfig value).map fun c => Char.ofNat c.toNat := by
  have hsize : sizeofBuff = 72 := rfl
  have hlen : configBuffLen = 36 := rfl
  have hvalue : (BitVec.ofNat 32 value.length).toNat = value.length := by
    rw [BitVec.toNat_ofNat, Nat.mod_eq_of_lt (by omega)]
  obtain ⟨n, hn⟩ : ∃ n, (lwm2mUploadTosend (BitVec.ofNat 32 value.length)).toNat = n := ⟨_, rfl⟩
  have htosend : n = if value.length * 2 > configBuffLen * 2 then configBuffLen * 2 / 2
      else value.length := by
    rw [← hn, tosend_toNat, hvalue, hlen, Nat.mod_eq_of_lt (by omega)]
  have hle : n ≤ value.length := by
    rw [htosend, hlen]
    split <;> omega
  have hmax : n ≤ 36 := by
    rw [htosend, hlen]
    split <;> omega
  have hprinted : ((List.range n).map fun i => hexText (value.getD i 0)).flatten =
      (Hex.encode (value.take n)).map fun c => Char.ofNat c.toNat := by
    rw [Hex.encode, ← map_getD_range value hle, List.flatMap_map, List.map_flatMap, List.flatMap_def]
    rfl
  have hfit : 0 + ((List.range n).map fun i => hexText (value.getD i 0)).flatten.length ≤
      (Buffer.zeroed sizeofBuff).cells.length := by
    rw [printed_length]
    change 0 + 2 * n ≤ 72
    omega
  have htake := Buffer.sprintAll_take hfit
  rw [printed_length, Nat.zero_add, List.take_zero, List.nil_append, hprinted] at htake
  have hall : (Hex.encode (value.take n)).length ≤ n * 2 := by
    rw [Hex.encode_length, List.length_take]
    omega
  rw [lwm2mUploadBuff, hn, htake, lwm2mUploadConfig, ← htosend, List.take_of_length_le hall]

end ConfigPrint

end SlcNode
