import SlcNode.Library.LittleEndian

namespace SlcNode

open LittleEndian

/-- `_SlcApp_CycleTimeStruct`: one little-endian word, bit-fields from the low end. -/
structure CycleTime where
  cycleTime : BitVec 15
  random : Bool
  diffTime : BitVec 8
  reserved : BitVec 8
deriving DecidableEq, Repr

namespace CycleTime

def word (t : CycleTime) : ℕ :=
  t.cycleTime.toNat + 2 ^ 15 * t.random.toNat + 2 ^ 16 * t.diffTime.toNat +
    2 ^ 24 * t.reserved.toNat

def ofWord (w : ℕ) : CycleTime where
  cycleTime := BitVec.ofNat 15 w
  random := w / 2 ^ 15 % 2 == 1
  diffTime := BitVec.ofNat 8 (w / 2 ^ 16)
  reserved := BitVec.ofNat 8 (w / 2 ^ 24)

theorem word_lt (t : CycleTime) : t.word < 256 ^ 4 := by
  have := t.cycleTime.isLt
  have := t.diffTime.isLt
  have := t.reserved.isLt
  have := Bool.toNat_le t.random
  unfold word
  omega

theorem ofWord_word (t : CycleTime) : ofWord t.word = t := by
  obtain ⟨c, r, d, p⟩ := t
  have hc := c.isLt
  have hd := d.isLt
  have hp := p.isLt
  simp only [ofWord, word, CycleTime.mk.injEq]
  refine ⟨?_, ?_, ?_, ?_⟩
  · apply BitVec.eq_of_toNat_eq
    rw [BitVec.toNat_ofNat]
    omega
  · cases r <;> simp <;> omega
  · apply BitVec.eq_of_toNat_eq
    rw [BitVec.toNat_ofNat]
    cases r <;> simp <;> omega
  · apply BitVec.eq_of_toNat_eq
    rw [BitVec.toNat_ofNat]
    cases r <;> simp <;> omega

theorem word_ofWord {w : ℕ} (h : w < 256 ^ 4) : (ofWord w).word = w := by
  have hb : (w / 2 ^ 15 % 2 == 1).toNat = w / 2 ^ 15 % 2 := by
    rcases Nat.mod_two_eq_zero_or_one (w / 2 ^ 15) with h | h <;> rw [h] <;> rfl
  simp only [word, ofWord, hb, BitVec.toNat_ofNat]
  omega

end CycleTime

structure Deregister where
  keepOnline : Bool
  disconnectType : BitVec 2
  keepOnlineTime : BitVec 13
deriving DecidableEq, Repr

namespace Deregister

def word (d : Deregister) : ℕ :=
  d.keepOnline.toNat + 2 * d.disconnectType.toNat + 2 ^ 3 * d.keepOnlineTime.toNat

def ofWord (w : ℕ) : Deregister where
  keepOnline := w % 2 == 1
  disconnectType := BitVec.ofNat 2 (w / 2)
  keepOnlineTime := BitVec.ofNat 13 (w / 2 ^ 3)

theorem word_lt (d : Deregister) : d.word < 256 ^ 2 := by
  have := d.disconnectType.isLt
  have := d.keepOnlineTime.isLt
  have := Bool.toNat_le d.keepOnline
  unfold word
  omega

theorem ofWord_word (d : Deregister) : ofWord d.word = d := by
  obtain ⟨k, t, s⟩ := d
  have ht := t.isLt
  have hs := s.isLt
  simp only [ofWord, word, Deregister.mk.injEq]
  refine ⟨?_, ?_, ?_⟩
  · cases k <;> simp <;> omega
  · apply BitVec.eq_of_toNat_eq
    rw [BitVec.toNat_ofNat]
    cases k <;> simp <;> omega
  · apply BitVec.eq_of_toNat_eq
    rw [BitVec.toNat_ofNat]
    cases k <;> simp <;> omega

theorem word_ofWord {w : ℕ} (h : w < 256 ^ 2) : (ofWord w).word = w := by
  have hb : (w % 2 == 1).toNat = w % 2 := by
    rcases Nat.mod_two_eq_zero_or_one w with h | h <;> rw [h] <;> rfl
  simp only [word, ofWord, hb, BitVec.toNat_ofNat]
  omega

end Deregister

/-- `_SlcApp_Config`. A `bool` member is the byte that holds it. -/
structure Config where
  version : BitVec 16
  storeNodeRegistered : Byte
  reserved : Byte
  sysWatchdogTimeoutSec : BitVec 32
  regWatchdogTimeoutSec : BitVec 16
  lightSensorTimeoutSec : BitVec 16
  firstUploadProcedure : CycleTime
  cycleUploadProcedure : CycleTime
  cycleUploadNoderegister : CycleTime
  cycleUploadStatus : CycleTime
  cycleUploadData : CycleTime
  deregister : Deregister
  cycleUploadDataEnable : Byte
  nodeRegistered : Byte
deriving DecidableEq, Repr

def configBuffLen : ℕ := 36

namespace Config

def buff (c : Config) : List Byte :=
  bytes 2 c.version.toNat ++ (bytes 1 c.storeNodeRegistered.toNat ++ (bytes 1 c.reserved.toNat ++
  (bytes 4 c.sysWatchdogTimeoutSec.toNat ++ (bytes 2 c.regWatchdogTimeoutSec.toNat ++
  (bytes 2 c.lightSensorTimeoutSec.toNat ++ (bytes 4 c.firstUploadProcedure.word ++
  (bytes 4 c.cycleUploadProcedure.word ++ (bytes 4 c.cycleUploadNoderegister.word ++
  (bytes 4 c.cycleUploadStatus.word ++ (bytes 4 c.cycleUploadData.word ++
  (bytes 2 c.deregister.word ++ (bytes 1 c.cycleUploadDataEnable.toNat ++
  bytes 1 c.nodeRegistered.toNat))))))))))))

def ofBuff (b : List Byte) : Config where
  version := BitVec.ofNat 16 (field b 0 2)
  storeNodeRegistered := BitVec.ofNat 8 (field b 2 1)
  reserved := BitVec.ofNat 8 (field b 3 1)
  sysWatchdogTimeoutSec := BitVec.ofNat 32 (field b 4 4)
  regWatchdogTimeoutSec := BitVec.ofNat 16 (field b 8 2)
  lightSensorTimeoutSec := BitVec.ofNat 16 (field b 10 2)
  firstUploadProcedure := CycleTime.ofWord (field b 12 4)
  cycleUploadProcedure := CycleTime.ofWord (field b 16 4)
  cycleUploadNoderegister := CycleTime.ofWord (field b 20 4)
  cycleUploadStatus := CycleTime.ofWord (field b 24 4)
  cycleUploadData := CycleTime.ofWord (field b 28 4)
  deregister := Deregister.ofWord (field b 32 2)
  cycleUploadDataEnable := BitVec.ofNat 8 (field b 34 1)
  nodeRegistered := BitVec.ofNat 8 (field b 35 1)

@[simp] theorem buff_length (c : Config) : c.buff.length = configBuffLen := by
  simp [buff, configBuffLen]

theorem ofNat_value_bytes {w n : ℕ} (x : BitVec w) (h : 2 ^ w = 256 ^ n) :
    BitVec.ofNat w (value (bytes n x.toNat)) = x := by
  rw [value_bytes_of_lt (h ▸ x.isLt), BitVec.ofNat_toNat, BitVec.setWidth_eq]

theorem ofBuff_buff (c : Config) : ofBuff c.buff = c := by
  simp (disch := simp) only [ofBuff, buff, field_skip, field_here, field_end, bytes_length,
    Nat.reduceSub]
  simp only [ofNat_value_bytes _ (show 2 ^ 8 = 256 ^ 1 by rfl),
    ofNat_value_bytes _ (show 2 ^ 16 = 256 ^ 2 by rfl),
    ofNat_value_bytes _ (show 2 ^ 32 = 256 ^ 4 by rfl),
    value_bytes_of_lt (CycleTime.word_lt _), CycleTime.ofWord_word,
    value_bytes_of_lt (Deregister.word_lt _), Deregister.ofWord_word]

theorem buff_injective {c d : Config} (h : c.buff = d.buff) : c = d := by
  rw [← ofBuff_buff c, h, ofBuff_buff]

theorem toNat_ofNat_field {w n : ℕ} (b : List Byte) (offset : ℕ) (h : 2 ^ w = 256 ^ n) :
    (BitVec.ofNat w (field b offset n)).toNat = field b offset n := by
  rw [BitVec.toNat_ofNat, h, Nat.mod_eq_of_lt (field_lt _ _ _)]

theorem buff_ofBuff {b : List Byte} (h : b.length = configBuffLen) : (ofBuff b).buff = b := by
  rw [configBuffLen] at h
  have hend : bytes 1 (field b 35 1) = b.drop 35 := by
    have hwhole : bytes 1 (field b 35 1) ++ b.drop 36 = b.drop 35 :=
      bytes_field_append rfl (by omega)
    rwa [List.drop_eq_nil_of_le (by omega), List.append_nil] at hwhole
  simp only [ofBuff, buff, CycleTime.word_ofWord (field_lt _ _ _),
    Deregister.word_ofWord (field_lt _ _ _), toNat_ofNat_field _ _ (show 2 ^ 8 = 256 ^ 1 by rfl),
    toNat_ofNat_field _ _ (show 2 ^ 16 = 256 ^ 2 by rfl),
    toNat_ofNat_field _ _ (show 2 ^ 32 = 256 ^ 4 by rfl), hend]
  simp (disch := omega) only [bytes_field_append, List.drop_zero]

end Config

end SlcNode
