import SlcNode.DateTime
import SlcNode.Library.Print

namespace SlcNode

open Print

/-- The conversions of `snprintf`. From its first `%f` on, the first call of
`SlcApp_Upload_SignalPowerLight` is passed an `int` where a `double` is read, so what its last nine
conversions print is any text at all. -/
structure Conversions where
  d : ℤ → List Char
  padded : ℕ → ℤ → List Char
  misread : List ℤ → ℕ → List Char

structure SignalPower where
  deviceId : List Char
  now : DateTime
  rssi : ℤ
  dimarray : List Byte
  cellid : BitVec 32
  rsrp : ℤ
  rsrq : ℤ
  snr : ℤ

namespace SignalPower

def strbuffLen : ℕ := 450

def strbuffRoom (offset : ℕ) : ℕ := (BitVec.ofNat 32 strbuffLen - BitVec.ofNat 32 offset).toNat

def tmp (r : SignalPower) : Byte := r.dimarray.headD 0

def broadcast (r : SignalPower) : ℕ := if r.dimarray.any (r.tmp != ·) then 0 else 1

variable (conv : Conversions) (r : SignalPower)

/-- `"%s;%04d-%02d-%02dT%02d:%02d:%02dZ;%f;%f;%f;%f;%f;%f;%d;0;0;%d;%d"` -/
def head : List Char :=
  let m := conv.misread [0, 0, 0, 0, 0, 0, r.rssi, 0, 0]
  r.deviceId ++ ';' :: [conv.padded 4 r.now.Y.toNat, ['-'], conv.padded 2 r.now.M.toNat, ['-'],
    conv.padded 2 r.now.D.toNat, ['T'], conv.padded 2 r.now.h.toNat, [':'],
    conv.padded 2 r.now.m.toNat, [':'], conv.padded 2 r.now.s.toNat, ['Z', ';'], m 0, [';'], m 1,
    [';'], m 2, [';'], m 3, [';'], m 4, [';'], m 5, [';'], m 6, [';', '0', ';', '0', ';'], m 7,
    [';'], m 8].flatten

def entry (n : ℕ) : List Char := ';' :: conv.d n

def entries : List (List Char) :=
  entry conv r.broadcast ::
    if r.broadcast = 0 then r.dimarray.map fun b => entry conv b.toNat
    else [entry conv r.tmp.toNat]

def cell : List Char :=
  [';'] ++ conv.d r.cellid.toInt ++ [';'] ++ conv.d r.rsrp ++ [';'] ++ conv.d r.rsrq ++ [';'] ++
    conv.d r.snr

def cellOffset : ℕ := (head conv r).length + (entries conv r).flatten.length

def calls : List Buffer.Call :=
  ⟨0, strbuffLen, head conv r⟩ ::
    Buffer.printCalls strbuffRoom (head conv r).length (entries conv r) ++
    [⟨cellOffset conv r, strbuffLen, cell conv r⟩]

def strbuff : Buffer := (Buffer.zeroed strbuffLen).run (calls conv r)

def report : List Char := head conv r ++ (entries conv r).flatten ++ cell conv r

section Sizes

variable {conv r}

theorem strbuffRoom_eq {offset : ℕ} (h : offset ≤ strbuffLen) :
    strbuffRoom offset = strbuffLen - offset :=
  Buffer.room_eq (by decide) h

theorem cellOffset_pos (conv : Conversions) (r : SignalPower) : 0 < cellOffset conv r := by
  rw [cellOffset, head, List.length_append, List.length_cons]
  omega

theorem report_length (conv : Conversions) (r : SignalPower) :
    (report conv r).length = cellOffset conv r + (cell conv r).length := by
  rw [report, List.length_append, List.length_append, cellOffset]

theorem calls_eq (conv : Conversions) (r : SignalPower) :
    calls conv r = Buffer.printCalls strbuffRoom 0 (head conv r :: entries conv r) ++
      [⟨cellOffset conv r, strbuffLen, cell conv r⟩] := by
  rw [calls, Buffer.printCalls, Nat.zero_add]
  rfl

theorem size_of_mem (h : cellOffset conv r ≤ strbuffLen) :
    ∀ c ∈ Buffer.printCalls strbuffRoom 0 (head conv r :: entries conv r),
      c.pos ≤ strbuffLen ∧ c.size = strbuffLen - c.pos := by
  refine Buffer.printCalls_size (fun _ => strbuffRoom_eq) ?_
  rwa [List.flatten_cons, List.length_append, Nat.zero_add]

theorem strbuff_inside_iff (conv : Conversions) (r : SignalPower) :
    (∀ p ∈ (strbuff conv r).written, p < strbuffLen) ↔ (report conv r).length < strbuffLen := by
  have hpos := cellOffset_pos conv r
  have hrun : strbuff conv r = ((Buffer.zeroed strbuffLen).printAll strbuffRoom 0
      (head conv r :: entries conv r)).1.snprintf (cellOffset conv r) strbuffLen (cell conv r) := by
    rw [strbuff, calls_eq, Buffer.run_append, ← Buffer.printAll_eq_run]
    rfl
  have hlen : strbuffLen = 450 := rfl
  rw [hrun, Buffer.snprintf_inside_iff (by omega), report_length]
  constructor
  · rintro ⟨-, hlast⟩
    omega
  · intro hfit
    refine ⟨Buffer.printAll_inside (t := []) (fun _ => strbuffRoom_eq) ?_ Buffer.zeroed_inside,
      by omega⟩
    rw [List.nil_append, List.flatten_cons, List.length_append]
    exact (Nat.le_add_right _ _).trans hfit.le

theorem cell_size (conv : Conversions) (r : SignalPower) :
    ∃ c ∈ calls conv r, (strbuffLen : ℤ) - c.pos < c.size := by
  have hpos := cellOffset_pos conv r
  refine ⟨⟨cellOffset conv r, strbuffLen, cell conv r⟩, ?_, by dsimp only; omega⟩
  exact List.mem_append_right _ (List.mem_singleton.mpr rfl)

theorem sizes_wrong (conv : Conversions) (r : SignalPower) :
    ¬∀ c ∈ calls conv r, (c.size : ℤ) = (strbuffLen : ℤ) - c.pos := by
  intro h
  obtain ⟨c, hc, hlt⟩ := cell_size conv r
  exact absurd (h c hc) hlt.ne'

end Sizes

def decimal (z : ℤ) : List Char :=
  if z < 0 then '-' :: Nat.toDigits 10 z.natAbs else Nat.toDigits 10 z.natAbs

def printf : Conversions where
  d := decimal
  padded width z := List.replicate (width - (decimal z).length) '0' ++ decimal z
  misread _ k := if k < 6 then "0.000000".toList else decimal 0

def attached : SignalPower where
  deviceId := "016b450fe04d00000000000100100157".toList
  now := ⟨2019, 6, 13, 4, 6, 41, 8⟩
  rssi := -69
  dimarray := [100]
  cellid := 12345
  rsrp := -95
  rsrq := -11
  snr := 120

theorem sizes_wrong_attached :
    ¬∀ c ∈ calls printf attached, (c.size : ℤ) = (strbuffLen : ℤ) - c.pos := by
  intro h
  obtain ⟨c, hc, hlt⟩ := cell_size printf attached
  exact absurd (h c hc) hlt.ne'

end SignalPower

end SlcNode
