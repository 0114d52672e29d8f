import SlcNode.MeterRead
import Mathlib.Data.Stream.Init

namespace SlcNode

namespace ADE7953

def adeWrite : Byte := 0xCA

inductive Status
  | fail
  | success
deriving DecidableEq

def writeTxb (reg : BitVec 16) (val : BitVec 32) : List Byte :=
  [adeWrite, (reg >>> 8).setWidth 8, reg.setWidth 8, val.setWidth 8, (val >>> 8).setWidth 8,
    (val >>> 16).setWidth 8, (val >>> 24).setWidth 8]

def writeFrame (reg : BitVec 16) (val : BitVec 32) : List Byte :=
  (writeTxb reg val).take (getRegisterSizeByte reg + 3)

/-- The chip after a frame: a write with as much data as the register is wide is carried out. -/
def Chip.accept (chip : Chip) : List Byte → Chip
  | op :: hi :: lo :: data =>
    if h : op = adeWrite ∧ data.length = getRegisterSizeByte (hi ++ lo) then
      { content := Function.update chip.content (hi ++ lo) data
        width := fun reg hreg => by
          by_cases heq : reg = hi ++ lo
          · rw [heq, Function.update_self]
            exact h.2
          · rw [Function.update_of_ne heq]
            exact chip.width reg hreg }
    else chip
  | _ => chip

structure Written where
  status : Status
  chip : Chip
  uart : Uart

def write (chip : Chip) (writable : Bool) (reg : BitVec 16) (val : BitVec 32) (u : Uart) : Written :=
  if getRegisterSizeByte reg < 5 then
    if writable then
      ⟨.success, chip.accept (writeFrame reg val), u.write chip (writeFrame reg val)⟩
    else ⟨.fail, chip, u⟩
  else ⟨.fail, chip, u⟩

def initWrites : List (BitVec 16 × BitVec 32) :=
  [(0x102, 0x04), (0x280, 0x489500), (0x28C, 0x499000), (0x281, 0x188500), (0x282, 0x699500),
    (0x28E, 0x295950), (0x040, 0x07)]

/-- Write after write, whatever each of them returns. -/
def writeAll : Stream' Bool → List (BitVec 16 × BitVec 32) → Chip → Uart → Chip × Uart
  | _, [], chip, u => (chip, u)
  | writable, w :: ws, chip, u =>
    let r := write chip writable.head w.1 w.2 u
    writeAll writable.tail ws r.chip r.uart

def init (chip : Chip) (idPolls : List Poll) (writable : Stream' Bool) (endPolls : List Poll)
    (u : Uart) : Option Written :=
  (read chip idPolls 0x102 u).bind fun id =>
    if id.1 ≠ 0x8004 then some ⟨.fail, chip, id.2⟩
    else
      let r := writeAll writable initWrites chip id.2
      (read r.1 endPolls 0x800 r.2).map fun voltage => ⟨.success, r.1, voltage.2⟩

end ADE7953

namespace MeterWrite

open ADE7953 MeterRead

section RoundTrip

variable {chip : Chip} {reg : BitVec 16} {val : BitVec 32} {u : Uart}

theorem writeFrame_eq (hreg : getRegisterSizeByte reg < 5) (val : BitVec 32) :
    writeFrame reg val = adeWrite :: (reg >>> 8).setWidth 8 :: reg.setWidth 8 ::
      LittleEndian.bytes (getRegisterSizeByte reg) val.toNat := by
  have hdata : [val.setWidth 8, (val >>> 8).setWidth 8, (val >>> 16).setWidth 8,
      (val >>> 24).setWidth 8] = LittleEndian.bytes 4 val.toNat := by
    have hshift : ∀ k, (val >>> k).setWidth 8 = BitVec.ofNat 8 (val.toNat / 2 ^ k) := by
      intro k
      apply BitVec.eq_of_toNat_eq
      rw [BitVec.toNat_setWidth, BitVec.toNat_ushiftRight, Nat.shiftRight_eq_div_pow,
        BitVec.toNat_ofNat]
    have hlow : val.setWidth 8 = BitVec.ofNat 8 val.toNat := by
      apply BitVec.eq_of_toNat_eq
      rw [BitVec.toNat_setWidth, BitVec.toNat_ofNat]
    simp only [hshift, hlow, LittleEndian.bytes, Nat.div_div_eq_div_mul]
    rfl
  rw [writeFrame, writeTxb, hdata]
  exact congrArg (fun data => adeWrite :: _ :: _ :: data)
    (LittleEndian.take_bytes (Nat.le_of_lt_succ hreg) val.toNat)

theorem accept_writeFrame (hreg : getRegisterSizeByte reg < 5) (chip : Chip) (val : BitVec 32) :
    (chip.accept (writeFrame reg val)).content =
      Function.update chip.content reg
        (LittleEndian.bytes (getRegisterSizeByte reg) val.toNat) := by
  rw [writeFrame_eq hreg, Chip.accept, dif_pos]
  · simp only [address_eq]
  · rw [address_eq]
    exact ⟨rfl, LittleEndian.bytes_length _ _⟩

theorem answer_writeFrame (hreg : getRegisterSizeByte reg < 5) (chip : Chip) (val : BitVec 32) :
    chip.answer (writeFrame reg val) = [] := by
  have hpos := getRegisterSizeByte_pos reg
  obtain ⟨n, hn⟩ : ∃ n, getRegisterSizeByte reg = n + 1 := ⟨getRegisterSizeByte reg - 1, by omega⟩
  rw [writeFrame_eq hreg, hn]
  rfl

theorem regValue_bytes (n v : ℕ) :
    regValue (LittleEndian.bytes n v) = (BitVec.ofNat 32 (v % 2 ^ (8 * n))).toInt := by
  rw [regValue, LittleEndian.value_append_zeros, LittleEndian.value_bytes, pow_mul]
  rfl

theorem write_success {writable : Bool} (h : (write chip writable reg val u).status = .success) :
    getRegisterSizeByte reg < 5 ∧ write chip writable reg val u =
      ⟨.success, chip.accept (writeFrame reg val), u.write chip (writeFrame reg val)⟩ := by
  by_cases hreg : getRegisterSizeByte reg < 5
  · refine ⟨hreg, ?_⟩
    cases writable with
    | false =>
      rw [write, if_pos hreg] at h
      exact absurd h (by simp)
    | true => rw [write, if_pos hreg, if_pos rfl]
  · rw [write, if_neg hreg] at h
    exact absurd h (by simp)

theorem write_read {writable : Bool} (hu : u.channel = .empty)
    (hwrite : (write chip writable reg val u).status = .success) {polls : List Poll} {p : Poll}
    (hp : readingPoll polls = some p) (harrived : getRegisterSizeByte reg ≤ p.arrived)
    (htaken : getRegisterSizeByte reg ≤ p.taken) :
    let r := write chip writable reg val u
    (read r.chip polls reg r.uart).map Prod.fst =
        some (BitVec.ofNat 32 (val.toNat % 2 ^ (8 * getRegisterSizeByte reg))).toInt ∧
      ∀ reg', reg' ≠ reg → r.chip.content reg' = chip.content reg' := by
  obtain ⟨hreg, heq⟩ := write_success hwrite
  rw [heq]
  have hline : (u.write chip (writeFrame reg val)).channel = .empty := by
    rw [Uart.write, answer_writeFrame hreg, hu]
    rfl
  have hin := (inStep_iff _ ⟨chip.accept (writeFrame reg val), reg, hreg, polls, by rw [hp]; rfl⟩
    hline).mpr fun q hq => by
      rw [hp] at hq
      obtain rfl := Option.some.inj hq
      exact ⟨harrived, htaken⟩
  rw [InStep, accept_writeFrame hreg, Function.update_self, regValue_bytes] at hin
  refine ⟨by rw [hin, Option.map_some], fun reg' hne => ?_⟩
  rw [accept_writeFrame hreg, Function.update_of_ne hne]

end RoundTrip

def zeroChip : Chip where
  content reg := List.replicate (getRegisterSizeByte reg) 0
  width _ _ := List.length_replicate

theorem write_read_gain :
    let r := write zeroChip true 0x280 0x12489500 ⟨.empty, []⟩
    (read r.chip [⟨true, 4, 4, by decide⟩] 0x280 r.uart).map Prod.fst = some 0x489500 ∧
      ∀ reg', reg' ≠ 0x280 → r.chip.content reg' = zeroChip.content reg' :=
  write_read rfl rfl (p := ⟨true, 4, 4, by decide⟩) rfl (by decide) (by decide)

section Init

variable {chip : Chip} {reg : BitVec 16} {ps : List Poll} {lock : Bool} {u : Uart}

theorem readLoop_sent {r : List Byte × Uart} (h : readLoop chip reg ps lock u = some r) :
    ∃ n, r.2.sent = u.sent ++ List.replicate n (txb reg) := by
  induction ps generalizing lock u with
  | nil => exact absurd h (by simp [readLoop])
  | cons p ps ih =>
    have hstart : ∃ n, ((if p.writable && !lock then u.write chip (txb reg) else u).deliver
        p.arrived).sent = u.sent ++ List.replicate n (txb reg) := by
      split
      · exact ⟨1, rfl⟩
      · exact ⟨0, (List.append_nil _).symm⟩
    obtain ⟨n, hn⟩ := hstart
    rw [readLoop] at h
    generalize (if p.writable && !lock then u.write chip (txb reg) else u).deliver p.arrived = w
      at h hn
    split at h
    · obtain rfl := Option.some.inj h
      exact ⟨n, hn⟩
    · obtain ⟨m, hm⟩ := ih h
      rw [hn, List.append_assoc, ← List.replicate_add] at hm
      exact ⟨n + m, hm⟩

theorem read_sent {r : ℤ × Uart} (h : ADE7953.read chip ps reg u = some r) :
    ∃ n, r.2.sent = u.sent ++ List.replicate n (txb reg) := by
  rw [ADE7953.read] at h
  split at h
  · obtain ⟨got, hgot, rfl⟩ := Option.map_eq_some_iff.mp h
    exact readLoop_sent hgot
  · obtain rfl := Option.some.inj h
    exact ⟨0, (List.append_nil _).symm⟩

theorem read_returns (chip : Chip) (hreg : getRegisterSizeByte reg < 5) (u : Uart) :
    ∃ r, ADE7953.read chip [⟨true, 1, 1, Nat.one_pos⟩] reg u = some r := by
  have hf : (u.write chip (txb reg)).channel.inFlight ≠ [] := by
    have hlen := chip.width reg hreg
    have hpos := getRegisterSizeByte_pos reg
    rw [Uart.write, chip.answer_txb]
    intro hnil
    rw [(List.append_eq_nil_iff.mp hnil).2, List.length_nil] at hlen
    omega
  rw [ADE7953.read, if_pos hreg, readLoop_send rfl, readLoop_arrive hf Nat.one_pos]
  exact ⟨_, rfl⟩

def frame (w : BitVec 16 × BitVec 32) : List Byte := writeFrame w.1 w.2

theorem writeAll_sent {ws : List (BitVec 16 × BitVec 32)}
    (hws : ∀ w ∈ ws, getRegisterSizeByte w.1 < 5) (writable : Stream' Bool) (chip : Chip) (u : Uart) :
    ∃ frames, (writeAll writable ws chip u).2.sent = u.sent ++ frames ∧
      frames.Sublist (ws.map frame) ∧
        (frames.length = ws.length ↔ ∀ b ∈ writable.take ws.length, b = true) := by
  induction ws generalizing writable chip u with
  | nil => exact ⟨[], (List.append_nil _).symm, .slnil, by simp⟩
  | cons w ws ih =>
    obtain ⟨hw, hws⟩ := List.forall_mem_cons.mp hws
    rw [writeAll, ADE7953.write, if_pos hw, List.length_cons, Stream'.take_succ,
      List.forall_mem_cons, List.map_cons]
    cases hb : writable.head with
    | false =>
      obtain ⟨frames, hsent, hsub, -⟩ := ih hws writable.tail chip u
      refine ⟨frames, hsent, hsub.cons _, ?_⟩
      have hle := hsub.length_le
      rw [List.length_map] at hle
      constructor
      · intro h
        omega
      · rintro ⟨h, -⟩
        exact absurd h (by simp)
    | true =>
      obtain ⟨frames, hsent, hsub, hlen⟩ := ih hws writable.tail
        (chip.accept (writeFrame w.1 w.2)) (u.write chip (writeFrame w.1 w.2))
      refine ⟨frame w :: frames, ?_, hsub.cons_cons _, ?_⟩
      · rw [if_pos rfl]
        exact hsent.trans (List.append_assoc ..)
      · rw [List.length_cons, Nat.succ_inj, hlen]
        simp

def Honest (chip : Chip) (idPolls : List Poll) (writable : Stream' Bool) (u : Uart) : Prop :=
  ∀ endPolls r, init chip idPolls writable endPolls u = some r → r.status = .success →
    ∃ v, ADE7953.read chip idPolls 0x102 u = some (0x8004, v) ∧
      v.sent ++ initWrites.map frame <+: r.uart.sent

variable {idPolls : List Poll} {writable : Stream' Bool}

theorem initWrites_size : ∀ w ∈ initWrites, getRegisterSizeByte w.1 < 5 := by
  have hall : (initWrites.all fun w => getRegisterSizeByte w.1 < 5) = true := by decide
  intro w hw
  exact of_decide_eq_true (List.all_eq_true.mp hall w hw)

theorem init_of_id {v : Uart} (h : ADE7953.read chip idPolls 0x102 u = some (0x8004, v))
    (writable : Stream' Bool) (endPolls : List Poll) :
    ∃ frames c w, w.sent = v.sent ++ frames ∧ frames.Sublist (initWrites.map frame) ∧
      (frames.length = 7 ↔ ∀ b ∈ writable.take 7, b = true) ∧
      init chip idPolls writable endPolls u =
        (ADE7953.read c endPolls 0x800 w).map fun voltage => ⟨.success, c, voltage.2⟩ := by
  obtain ⟨frames, hsent, hsub, hlen⟩ := writeAll_sent initWrites_size writable chip v
  refine ⟨frames, (writeAll writable initWrites chip v).1, (writeAll writable initWrites chip v).2,
    hsent, hsub, hlen, ?_⟩
  rw [init, h, Option.bind_some, if_neg (by simp)]

theorem all_writable_of_honest {v : Uart} (hid : ADE7953.read chip idPolls 0x102 u = some (0x8004, v))
    (h : Honest chip idPolls writable u) : ∀ b ∈ writable.take 7, b = true := by
  obtain ⟨frames, c, w, hsent, hsub, hlen, hinit⟩ :=
    init_of_id hid writable [⟨true, 1, 1, Nat.one_pos⟩]
  obtain ⟨r, hr⟩ := read_returns c (show getRegisterSizeByte 0x800 < 5 by decide) w
  obtain ⟨n, hn⟩ := read_sent hr
  rw [hr, Option.map_some] at hinit
  obtain ⟨v', hid', hprefix⟩ := h _ _ hinit rfl
  obtain rfl : v = v' := (Prod.mk.inj (Option.some.inj (hid.symm.trans hid'))).2
  rw [hn, hsent, List.append_assoc, List.prefix_append_right_inj] at hprefix
  have hcount := hprefix.sublist.countP_le (p := fun f => f.head? = some adeWrite)
  have hzero : (List.replicate n (txb 0x800)).countP (fun f => f.head? = some adeWrite) = 0 := by
    rw [List.countP_replicate]
    rfl
  have hall : (initWrites.map frame).countP (fun f => f.head? = some adeWrite) = 7 := by decide
  have hle := List.countP_le_length (p := fun f : List Byte => f.head? = some adeWrite) (l := frames)
  have hmax : frames.length ≤ 7 := hsub.length_le
  rw [List.countP_append, hzero, hall] at hcount
  exact hlen.mp (by omega)

theorem honest_iff (chip : Chip) (idPolls : List Poll) (writable : Stream' Bool) (u : Uart) :
    Honest chip idPolls writable u ↔
      (∀ v, ADE7953.read chip idPolls 0x102 u ≠ some (0x8004, v)) ∨
        ∀ b ∈ writable.take 7, b = true := by
  constructor
  · intro h
    by_cases hid : ∃ v, ADE7953.read chip idPolls 0x102 u = some (0x8004, v)
    · obtain ⟨v, hv⟩ := hid
      exact .inr (all_writable_of_honest hv h)
    · exact .inl (not_exists.mp hid)
  · intro h endPolls r hr hsuccess
    obtain ⟨v, hid⟩ : ∃ v, ADE7953.read chip idPolls 0x102 u = some (0x8004, v) := by
      obtain ⟨⟨id, v⟩, hid, hinit⟩ := Option.bind_eq_some_iff.mp hr
      by_cases hne : id ≠ 0x8004
      · rw [if_pos hne] at hinit
        obtain rfl := Option.some.inj hinit
        exact absurd hsuccess (by simp)
      · exact ⟨v, by rw [hid, not_not.mp hne]⟩
    refine ⟨v, hid, ?_⟩
    obtain ⟨frames, c, w, hsent, hsub, hlen, hinit⟩ := init_of_id hid writable endPolls
    rw [hr] at hinit
    obtain ⟨voltage, hvoltage, rfl⟩ := Option.map_eq_some_iff.mp hinit.symm
    obtain ⟨n, hn⟩ := read_sent hvoltage
    have hwritable := h.resolve_left fun hno => hno v hid
    have hframes := hsub.eq_of_length (hlen.mpr hwritable)
    rw [hn, hsent, hframes]
    exact List.prefix_append _ _

def idChip : Chip := zeroChip.accept (writeFrame 0x102 0x8004)

theorem init_uncalibrated :
    ¬ Honest idChip [⟨true, 4, 4, by decide⟩] (fun i => i = 0) ⟨.empty, []⟩ := by
  intro h
  obtain ⟨v, hv⟩ : ∃ v, ADE7953.read idChip [⟨true, 4, 4, by decide⟩] 0x102 ⟨.empty, []⟩ =
      some (0x8004, v) := ⟨⟨.empty, [txb 0x102]⟩, rfl⟩
  exact absurd (all_writable_of_honest hv h) (by decide)

end Init

end MeterWrite

end SlcNode
