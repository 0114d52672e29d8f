import SlcNode.Library.Layout
import SlcNode.SpiReceiver

namespace SlcNode

inductive SpiMaster where
  | firstCheckByte
  | voltage
  | freq
  | pwrFactor
  | current
  | watt
  | totalWatt
  | dimLevel
  | luxLo
  | luxHi
  | system
  | reserved
  | mcuVer
  | nodeRssi
  | nodeVer
  | gpsData
  | lastCheckByte
deriving DecidableEq, Repr

namespace SpiMaster

def order : List SpiMaster :=
  [.firstCheckByte, .voltage, .freq, .pwrFactor, .current, .watt, .totalWatt, .dimLevel, .luxLo,
    .luxHi, .system, .reserved, .mcuVer, .nodeRssi, .nodeVer, .gpsData, .lastCheckByte]

/-- `lamps` is `LIGHT_ADDR_MAX`, `gps` the length of the GPS data. -/
def len (lamps gps : ℕ) : SpiMaster → ℕ
  | .firstCheckByte | .lastCheckByte => 1
  | .voltage | .freq | .pwrFactor => 2
  | .current | .watt => 4
  | .totalWatt => 8
  | .dimLevel => lamps
  | .luxLo | .luxHi | .system | .reserved | .mcuVer | .nodeRssi | .nodeVer => 1
  | .gpsData => gps

def layout (lamps gps : ℕ) : Layout SpiMaster where
  order := order
  len := len lamps gps
  nodup := by decide
  complete := by
    intro f
    cases f <;> decide

def index (lamps gps : ℕ) : SpiMaster → ℕ := (layout lamps gps).offset

example : order.map (index 1 0) =
    [0, 1, 3, 5, 7, 11, 15, 23, 24, 25, 26, 27, 28, 29, 30, 31, 31] := by decide

example : order.map (index 64 80) =
    [0, 1, 3, 5, 7, 11, 15, 23, 87, 88, 89, 90, 91, 92, 93, 94, 174] := by decide

def transferSize (lamps gps : ℕ) : ℕ := index lamps gps .lastCheckByte + 1

end SpiMaster

section Getters

variable (b : List Byte) (idx : ℕ)

def getMasterByte : Option Byte := b[idx]?

def getMasterWord : Option (BitVec 16) := do
  let hi ← b[idx + 1]?
  let lo ← b[idx]?
  return hi.setWidth 16 <<< 8 ||| lo.setWidth 16

def getMasterLoop {w : ℕ} : ℕ → BitVec w → Option (BitVec w)
  | 0, value => some value
  | i + 1, value => do
    let c ← b[idx + i]?
    getMasterLoop i (value <<< 8 ||| c.setWidth w)

def getMasterInt : Option (BitVec 32) := getMasterLoop b idx 4 0

def getMasterLong : Option (BitVec 64) := getMasterLoop b idx 8 0

def getMasterBuff (buffSize : ℕ) : Option (List Byte) :=
  if idx + buffSize ≤ b.length then some ((b.drop idx).take buffSize) else none

end Getters

section Readings

variable (lamps gps : ℕ) (b : List Byte)

open SpiMaster

def getVoltage : Option (BitVec 16) := getMasterWord b (index lamps gps .voltage)

def getFreq : Option (BitVec 16) := getMasterWord b (index lamps gps .freq)

def getPF : Option (BitVec 16) := getMasterWord b (index lamps gps .pwrFactor)

def getCurrent : Option (BitVec 32) := getMasterInt b (index lamps gps .current)

def getWatt : Option (BitVec 32) := getMasterInt b (index lamps gps .watt)

def getTotalWatt : Option (BitVec 64) := getMasterLong b (index lamps gps .totalWatt)

def getDimLevel (buffSize : ℕ) : Option (List Byte) := do
  let value ← getMasterByte b (index lamps gps .dimLevel)
  return List.replicate buffSize value

def getDimLevelDali (buffSize : ℕ) : Option (List Byte) :=
  getMasterBuff b (index lamps gps .dimLevel) (if buffSize < lamps then buffSize else lamps)

def getLux : Option (BitVec 16) := do
  let lo ← getMasterByte b (index lamps gps .luxLo)
  let hi ← getMasterByte b (index lamps gps .luxHi)
  return hi.setWidth 16 <<< 8 ||| lo.setWidth 16

def getMcuMode : Option Byte := getMasterByte b (index lamps gps .system)

def getMcuVersion : Option Byte := getMasterByte b (index lamps gps .mcuVer)

end Readings

inductive Getter where
  | voltage
  | freq
  | pf
  | current
  | watt
  | totalWatt
  | dimLevel
  | dimLevelDali
  | lux
  | mcuMode
  | mcuVersion
deriving DecidableEq, Repr

inductive Reading where
  | word (value : Option (BitVec 16))
  | int (value : Option (BitVec 32))
  | long (value : Option (BitVec 64))
  | byte (value : Option Byte)
  | buff (value : Option (List Byte))
deriving DecidableEq

namespace Getter

def read (lamps gps buffSize : ℕ) (b : List Byte) : Getter → Reading
  | .voltage => .word (getVoltage lamps gps b)
  | .freq => .word (getFreq lamps gps b)
  | .pf => .word (getPF lamps gps b)
  | .current => .int (getCurrent lamps gps b)
  | .watt => .int (getWatt lamps gps b)
  | .totalWatt => .long (getTotalWatt lamps gps b)
  | .dimLevel => .buff (getDimLevel lamps gps b buffSize)
  | .dimLevelDali => .buff (getDimLevelDali lamps gps b buffSize)
  | .lux => .word (getLux lamps gps b)
  | .mcuMode => .byte (getMcuMode lamps gps b)
  | .mcuVersion => .byte (getMcuVersion lamps gps b)

def fields : Getter → List SpiMaster
  | .voltage => [.voltage]
  | .freq => [.freq]
  | .pf => [.pwrFactor]
  | .current => [.current]
  | .watt => [.watt]
  | .totalWatt => [.totalWatt]
  | .dimLevel | .dimLevelDali => [.dimLevel]
  | .lux => [.luxLo, .luxHi]
  | .mcuMode => [.system]
  | .mcuVersion => [.mcuVer]

def ofFields (buffSize : ℕ) (s : SpiMaster → List Byte) : Getter → Reading
  | .voltage => .word (some (BitVec.ofNat 16 (LittleEndian.value (s .voltage))))
  | .freq => .word (some (BitVec.ofNat 16 (LittleEndian.value (s .freq))))
  | .pf => .word (some (BitVec.ofNat 16 (LittleEndian.value (s .pwrFactor))))
  | .current => .int (some (BitVec.ofNat 32 (LittleEndian.value (s .current))))
  | .watt => .int (some (BitVec.ofNat 32 (LittleEndian.value (s .watt))))
  | .totalWatt => .long (some (BitVec.ofNat 64 (LittleEndian.value (s .totalWatt))))
  | .dimLevel => .buff (some (List.replicate buffSize ((s .dimLevel).headD 0)))
  | .dimLevelDali => .buff (some ((s .dimLevel).take buffSize))
  | .lux => .word (some (BitVec.ofNat 16 (LittleEndian.value (s .luxLo ++ s .luxHi))))
  | .mcuMode => .byte (some ((s .system).headD 0))
  | .mcuVersion => .byte (some ((s .mcuVer).headD 0))

end Getter

structure Measurement (lamps gps : ℕ) where
  voltage : BitVec 16
  freq : BitVec 16
  pf : BitVec 16
  current : BitVec 32
  watt : BitVec 32
  totalWatt : BitVec 64
  dim : Vector Byte lamps
  lux : BitVec 16
  mode : Byte
  reserved : Byte
  mcuVersion : Byte
  nodeRssi : Byte
  nodeVer : Byte
  gpsData : Vector Byte gps

namespace Measurement

open LittleEndian

variable {lamps gps : ℕ} (m : Measurement lamps gps)

def content : SpiMaster → List Byte
  | .firstCheckByte => [spiFirstCheckByte]
  | .voltage => bytes 2 m.voltage.toNat
  | .freq => bytes 2 m.freq.toNat
  | .pwrFactor => bytes 2 m.pf.toNat
  | .current => bytes 4 m.current.toNat
  | .watt => bytes 4 m.watt.toNat
  | .totalWatt => bytes 8 m.totalWatt.toNat
  | .dimLevel => m.dim.toList
  | .luxLo => (bytes 2 m.lux.toNat).take 1
  | .luxHi => (bytes 2 m.lux.toNat).drop 1
  | .system => [m.mode]
  | .reserved => [m.reserved]
  | .mcuVer => [m.mcuVersion]
  | .nodeRssi => [m.nodeRssi]
  | .nodeVer => [m.nodeVer]
  | .gpsData => m.gpsData.toList
  | .lastCheckByte => [spiLastCheckByte]

def reading (buffSize : ℕ) : Getter → Reading
  | .voltage => .word (some m.voltage)
  | .freq => .word (some m.freq)
  | .pf => .word (some m.pf)
  | .current => .int (some m.current)
  | .watt => .int (some m.watt)
  | .totalWatt => .long (some m.totalWatt)
  | .dimLevel => .buff (some (List.replicate buffSize (m.dim.toList.headD 0)))
  | .dimLevelDali => .buff (some (m.dim.toList.take buffSize))
  | .lux => .word (some m.lux)
  | .mcuMode => .byte (some m.mode)
  | .mcuVersion => .byte (some m.mcuVersion)

structure LaidOut (b : List Byte) : Prop where
  length : b.length = SpiMaster.transferSize lamps gps
  slice : ∀ f, (SpiMaster.layout lamps gps).slice f b = m.content f

def frame : List Byte := (SpiMaster.layout lamps gps).build m.content

end Measurement

namespace MasterFrame

open LittleEndian

theorem shift_or {w : ℕ} {v : BitVec w} (h : (v.toNat + 1) * 256 ≤ 2 ^ w) (c : Byte) :
    (v <<< 8 ||| c.setWidth w).toNat = v.toNat * 256 + c.toNat := by
  have hc : c.toNat < 2 ^ 8 := c.isLt
  have hv : v.toNat * 2 ^ 8 < 2 ^ w := by omega
  rw [BitVec.toNat_or, BitVec.toNat_shiftLeft, BitVec.toNat_setWidth, Nat.shiftLeft_eq,
    Nat.mod_eq_of_lt hv, Nat.mod_eq_of_lt (by omega), ← Nat.shiftLeft_eq,
    ← Nat.shiftLeft_add_eq_or_of_lt hc, Nat.shiftLeft_eq]

theorem getMasterLoop_eq {w : ℕ} {b : List Byte} {idx k : ℕ} (h : idx + k ≤ b.length)
    {v : BitVec w} (hv : (v.toNat + 1) * 256 ^ k ≤ 2 ^ w) :
    getMasterLoop b idx k v =
      some (BitVec.ofNat w (v.toNat * 256 ^ k + value ((b.drop idx).take k))) := by
  induction k generalizing v with
  | zero =>
    rw [getMasterLoop, pow_zero, Nat.mul_one, List.take_zero, value, Nat.add_zero, BitVec.ofNat_toNat,
      BitVec.setWidth_eq]
  | succ k ih =>
    have hk : idx + k < b.length := by omega
    have hone : (v.toNat + 1) * 256 ≤ 2 ^ w := by
      refine (Nat.mul_le_mul_left _ ?_).trans hv
      exact Nat.le_self_pow (Nat.succ_ne_zero k) 256
    have hc := b[idx + k].isLt
    have hstep := shift_or hone b[idx + k]
    have hlen : k < (b.drop idx).length := by
      rw [List.length_drop]
      omega
    have htake : (b.drop idx).take (k + 1) = (b.drop idx).take k ++ [b[idx + k]] := by
      rw [List.take_succ_eq_append_getElem hlen, List.getElem_drop]
    rw [getMasterLoop, List.getElem?_eq_getElem hk]
    dsimp only [Option.bind_eq_bind, Option.bind_some]
    rw [ih (by omega), hstep, htake, value_append, List.length_take_of_le hlen.le, value, value]
    · congr 2
      ring
    · rw [hstep]
      have hle : v.toNat * 256 + b[idx + k].toNat + 1 ≤ (v.toNat + 1) * 256 := by omega
      calc
        _ ≤ (v.toNat + 1) * 256 * 256 ^ k := Nat.mul_le_mul_right _ hle
        _ = (v.toNat + 1) * 256 ^ (k + 1) := by rw [pow_succ]; ring
        _ ≤ 2 ^ w := hv

theorem getMasterLoop_field {w : ℕ} {b : List Byte} {idx k : ℕ} (h : idx + k ≤ b.length)
    (hk : 256 ^ k ≤ 2 ^ w) :
    getMasterLoop b idx k (0 : BitVec w) = some (BitVec.ofNat w (field b idx k)) := by
  rw [getMasterLoop_eq h, field]
  · simp
  · simpa using hk

theorem getMasterWord_eq (b : List Byte) (idx : ℕ) :
    getMasterWord b idx = getMasterLoop b idx 2 0 := by
  unfold getMasterWord getMasterLoop getMasterLoop getMasterLoop
  simp

variable {lamps gps : ℕ} {b : List Byte}

theorem transferSize_eq (lamps gps : ℕ) :
    SpiMaster.transferSize lamps gps = (SpiMaster.layout lamps gps).size := by
  have horder : (SpiMaster.layout lamps gps).order =
      SpiMaster.order.dropLast ++ [.lastCheckByte] := rfl
  exact Layout.offset_last horder

theorem index_luxHi (lamps gps : ℕ) :
    SpiMaster.index lamps gps .luxHi = SpiMaster.index lamps gps .luxLo + 1 := by
  have horder : (SpiMaster.layout lamps gps).order =
      SpiMaster.order.take 8 ++ .luxLo :: .luxHi :: SpiMaster.order.drop 10 := rfl
  exact Layout.offset_next horder

theorem index_add_len_le (h : b.length = SpiMaster.transferSize lamps gps) (f : SpiMaster) :
    SpiMaster.index lamps gps f + SpiMaster.len lamps gps f ≤ b.length := by
  rw [h, transferSize_eq]
  exact Layout.offset_add_len_le _ f

theorem content_length (m : Measurement lamps gps) (f : SpiMaster) :
    (m.content f).length = (SpiMaster.layout lamps gps).len f := by
  cases f <;> simp [Measurement.content, SpiMaster.layout, SpiMaster.len]

theorem laidOut_frame (m : Measurement lamps gps) : m.LaidOut m.frame where
  length := by rw [transferSize_eq, Measurement.frame, Layout.build_length (content_length m)]
  slice := Layout.slice_build (content_length m)

theorem getMasterByte_eq {idx k : ℕ} (h : idx + k ≤ b.length) (hk : 0 < k) :
    getMasterByte b idx = some (((b.drop idx).take k).headD 0) := by
  have hidx : idx < b.length := by omega
  obtain ⟨k, rfl⟩ := Nat.exists_eq_add_one.mpr hk
  rw [getMasterByte, List.getElem?_eq_getElem hidx, List.drop_eq_getElem_cons hidx,
    List.take_succ_cons, List.headD_cons]

theorem getLux_eq (lamps gps : ℕ) (b : List Byte) :
    getLux lamps gps b = getMasterWord b (SpiMaster.index lamps gps .luxLo) := by
  rw [getLux, index_luxHi, getMasterWord, getMasterByte, getMasterByte]
  cases b[SpiMaster.index lamps gps .luxLo]? <;>
    cases b[SpiMaster.index lamps gps .luxLo + 1]? <;> rfl

theorem getDimLevelDali_eq (h : b.length = SpiMaster.transferSize lamps gps) (buffSize : ℕ) :
    getDimLevelDali lamps gps b buffSize =
      some (((SpiMaster.layout lamps gps).slice .dimLevel b).take buffSize) := by
  have hle : SpiMaster.index lamps gps .dimLevel + lamps ≤ b.length := index_add_len_le h .dimLevel
  have hmin : (if buffSize < lamps then buffSize else lamps) = min buffSize lamps := by
    split <;> omega
  rw [getDimLevelDali, hmin, getMasterBuff, if_pos (by omega), Layout.slice, List.take_take]
  rfl

theorem getMasterLoop_slice (h : b.length = SpiMaster.transferSize lamps gps) (f : SpiMaster) {w : ℕ}
    (hw : 256 ^ SpiMaster.len lamps gps f ≤ 2 ^ w) :
    getMasterLoop b (SpiMaster.index lamps gps f) (SpiMaster.len lamps gps f) (0 : BitVec w) =
      some (BitVec.ofNat w (value ((SpiMaster.layout lamps gps).slice f b))) :=
  getMasterLoop_field (index_add_len_le h f) hw

theorem getMasterWord_slice (h : b.length = SpiMaster.transferSize lamps gps) {f : SpiMaster}
    (hf : SpiMaster.len lamps gps f = 2) : getMasterWord b (SpiMaster.index lamps gps f) =
      some (BitVec.ofNat 16 (value ((SpiMaster.layout lamps gps).slice f b))) := by
  rw [getMasterWord_eq, ← hf]
  exact getMasterLoop_slice h f (by rw [hf]; decide)

theorem getMasterByte_slice (h : b.length = SpiMaster.transferSize lamps gps) {f : SpiMaster}
    (hf : 0 < SpiMaster.len lamps gps f) : getMasterByte b (SpiMaster.index lamps gps f) =
      some (((SpiMaster.layout lamps gps).slice f b).headD 0) :=
  getMasterByte_eq (index_add_len_le h f) hf

theorem getLux_slice (h : b.length = SpiMaster.transferSize lamps gps) :
    getLux lamps gps b = some (BitVec.ofNat 16 (value
      ((SpiMaster.layout lamps gps).slice .luxLo b ++ (SpiMaster.layout lamps gps).slice .luxHi b))) := by
  have hhi : (SpiMaster.layout lamps gps).offset .luxHi = SpiMaster.index lamps gps .luxLo + 1 :=
    index_luxHi lamps gps
  have hsplit : (b.drop (SpiMaster.index lamps gps .luxLo)).take 2 =
      (SpiMaster.layout lamps gps).slice .luxLo b ++
        (SpiMaster.layout lamps gps).slice .luxHi b := by
    rw [Layout.slice, Layout.slice, hhi, ← List.drop_drop]
    exact @List.take_add _ _ 1 1
  have hle : SpiMaster.index lamps gps .luxLo + 2 ≤ b.length := by
    rw [← Nat.add_assoc _ 1 1, ← index_luxHi]
    exact index_add_len_le h .luxHi
  rw [getLux_eq, getMasterWord_eq, getMasterLoop_field hle (by decide), field, hsplit]

theorem read_eq (hlamps : 0 < lamps) (h : b.length = SpiMaster.transferSize lamps gps)
    (buffSize : ℕ) (g : Getter) : g.read lamps gps buffSize b =
      g.ofFields buffSize fun f => (SpiMaster.layout lamps gps).slice f b := by
  cases g with
  | voltage => exact congrArg Reading.word (getMasterWord_slice h rfl)
  | freq => exact congrArg Reading.word (getMasterWord_slice h rfl)
  | pf => exact congrArg Reading.word (getMasterWord_slice h rfl)
  | current =>
    exact congrArg Reading.int (getMasterLoop_slice h .current (show 256 ^ 4 ≤ 2 ^ 32 by decide))
  | watt =>
    exact congrArg Reading.int (getMasterLoop_slice h .watt (show 256 ^ 4 ≤ 2 ^ 32 by decide))
  | totalWatt =>
    exact congrArg Reading.long (getMasterLoop_slice h .totalWatt (show 256 ^ 8 ≤ 2 ^ 64 by decide))
  | dimLevel =>
    rw [Getter.read, getDimLevel, getMasterByte_slice h (show 0 < SpiMaster.len lamps gps .dimLevel from hlamps)]
    rfl
  | dimLevelDali => exact congrArg Reading.buff (getDimLevelDali_eq h buffSize)
  | lux => exact congrArg Reading.word (getLux_slice h)
  | mcuMode => exact congrArg Reading.byte (getMasterByte_slice h Nat.one_pos)
  | mcuVersion => exact congrArg Reading.byte (getMasterByte_slice h Nat.one_pos)

theorem ofFields_congr {s s' : SpiMaster → List Byte} (buffSize : ℕ) {g : Getter}
    (h : ∀ f ∈ g.fields, s f = s' f) : g.ofFields buffSize s = g.ofFields buffSize s' := by
  cases g <;> simp only [Getter.fields, List.forall_mem_cons] at h <;>
    simp only [Getter.ofFields, h]

theorem ofNat_value_bytes {w n : ℕ} (hw : 2 ^ w = 256 ^ n) (v : BitVec w) :
    BitVec.ofNat w (value (bytes n v.toNat)) = v := by
  rw [value_bytes_of_lt (hw ▸ v.isLt), BitVec.ofNat_toNat, BitVec.setWidth_eq]

theorem ofFields_content (m : Measurement lamps gps) (buffSize : ℕ) (g : Getter) :
    g.ofFields buffSize m.content = m.reading buffSize g := by
  cases g <;> simp only [Getter.ofFields, Measurement.content, Measurement.reading,
    List.take_append_drop, List.headD_cons] <;> rw [ofNat_value_bytes (by decide)]

theorem readings_exact (hlamps : 0 < lamps) (m : Measurement lamps gps) (h : m.LaidOut b)
    (buffSize : ℕ) :
    (∀ g : Getter, g.read lamps gps buffSize b = m.reading buffSize g) ∧
      ∀ (f : SpiMaster) (b' : List Byte), b'.length = b.length →
        (∀ i, ¬(SpiMaster.index lamps gps f ≤ i ∧
          i < SpiMaster.index lamps gps f + SpiMaster.len lamps gps f) → b'[i]? = b[i]?) →
        ∀ g : Getter, f ∉ g.fields → g.read lamps gps buffSize b' = g.read lamps gps buffSize b := by
  refine ⟨fun g => ?_, fun f b' hlen houtside g hg => ?_⟩
  · rw [read_eq hlamps h.length, ← ofFields_content]
    exact ofFields_congr buffSize fun f _ => h.slice f
  · rw [read_eq hlamps h.length, read_eq hlamps (hlen.trans h.length)]
    refine ofFields_congr buffSize fun f' hf' => Layout.slice_of_ne ?_ houtside
    rintro rfl
    exact hg hf'

def full : Measurement 1 0 where
  voltage := 0x1234
  freq := 0xEA6B
  pf := 0x03E8
  current := 0x89ABCDEF
  watt := 0xFE7F0102
  totalWatt := 0x0123456789ABCDEF
  dim := #v[100]
  lux := 0x01B8
  mode := 1
  reserved := 0
  mcuVersion := 7
  nodeRssi := 0
  nodeVer := 2
  gpsData := #v[]

theorem readings_exact_full :
    Getter.totalWatt.read 1 0 1 full.frame = .long (some 0x0123456789ABCDEF) ∧
      Getter.lux.read 1 0 1 full.frame = .word (some 0x01B8) :=
  have h := (readings_exact Nat.one_pos full (laidOut_frame full) 1).1
  ⟨h .totalWatt, h .lux⟩

section Received

open EventRun SpiReceiver

theorem isFrame_frame (m : Measurement lightAddrMax 0) : spiFraming.IsFrame m.frame := by
  refine ⟨⟨(laidOut_frame m).length, rfl⟩, ?_⟩
  have hsplit : m.frame = (SpiMaster.order.dropLast).flatMap m.content ++ [spiLastCheckByte] := by
    rw [Measurement.frame, Layout.build]
    simp [SpiMaster.layout, SpiMaster.order, Measurement.content]
  rw [hsplit]
  exact (closed_iff _ _).mpr rfl

theorem readings_received (m : Measurement lightAddrMax 0) {gap : List Byte}
    (hgap : spiFirstCheckByte ∉ gap) (buffSize : ℕ) (g : Getter) :
    g.read lightAddrMax 0 buffSize
        (run receive threadStart (gap ++ m.frame)).readBackupBuffer.toList =
      m.reading buffSize g := by
  have hrun : run spiFraming.receive (Framing.idle []) (gap ++ m.frame) =
      Framing.idle ([] ++ [m.frame]) := by
    rw [run_append, Framing.run_gap hgap, Framing.run_frame (isFrame_frame m)]
  obtain ⟨hsound, hview⟩ := run_sound (gap ++ m.frame)
  have hbackup : (run receive threadStart (gap ++ m.frame)).readBackupBuffer.toList = m.frame := by
    rw [backup_iff hsound (isFrame_frame m), hview, hrun]
    rfl
  rw [hbackup]
  exact (readings_exact Nat.one_pos m (laidOut_frame m) buffSize).1 g

end Received

end MasterFrame

end SlcNode
