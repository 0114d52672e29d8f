import SlcNode.CellularAt

namespace SlcNode

structure SignalStrength where
  ret : ℤ
  rsrp : ℤ
  rsrq : ℤ
  snr : ℤ
deriving DecidableEq

namespace CellularAt

def reportAttempt (h : ℕ) : At ℤ := do
  perform h [.lock, .cmdStart "AT+UCGED=5", .cmdStop, .respStart none, .respStop]
  unlockReturnError h

def enableSignalStrengthReport : At Unit := do
  if ← Handle.look fun c => (c.enSignalReport, c) then
    return
  match ← getAtHandler with
  | none => return
  | some h =>
    perform h [.flush]
    let _ ← Handle.retry (reportAttempt h) (· < 0) 2
    let ret ← releaseAtHandler h
    Handle.look fun c => ((), if ret = 0 then { c with enSignalReport := true } else c)

def signalBg96 (h : ℕ) : At SignalStrength := do
  perform h [.flush, .lock, .cmdStart "AT+QCSQ", .cmdStop, .setDelimiter 0, .respStart "+QCSQ:"]
  let _rssi ← readInt h
  let rsrp ← readInt h
  let snr ← readInt h
  let rsrq ← readInt h
  perform h [.respStop, .setDefaultDelimiter]
  let ret ← unlockReturnError h
  return ⟨ret, rsrp.toInt, rsrq.toInt, snr.toInt⟩

def signalBc95g (h : ℕ) : At SignalStrength := do
  perform h [.flush, .lock, .cmdStart "AT+NUESTATS=CELL", .cmdStop, .respStart "NUESTATS:CELL,"]
  let _earfcn ← readInt h
  let _phycellid ← readInt h
  let _primarycell ← readInt h
  let rsrp ← readInt h
  let rsrq ← readInt h
  let _rssi ← readInt h
  let snr ← readInt h
  perform h [.respStop]
  let ret ← unlockReturnError h
  return ⟨ret, rsrp.toInt, rsrq.toInt, snr.toInt⟩

/-- The comma scan: `idx_start` and `idx_end`, both at `len` until found. -/
def fieldBounds (len : ℕ) : ℕ → Bool → ℕ → List Byte → ℕ × ℕ
  | _, _, idxStart, [] => (idxStart, len)
  | i, passed, idxStart, c :: cs =>
    if c = 44 then
      if !passed then fieldBounds len (i + 1) true idxStart cs
      else if idxStart = len then fieldBounds len (i + 1) passed i cs
      else (idxStart, i)
    else fieldBounds len (i + 1) passed idxStart cs

/-- `memcpy` to the start of a buffer; what does not fit lies behind it. -/
def memcpy (buff new : List Byte) : List Byte := new ++ buff.drop new.length

def replyBuff (reply : List Byte) : List Byte := reply ++ List.replicate (200 - reply.length) 0

def replyLen : Option (List Byte) → ℤ
  | none => -1
  | some reply => reply.length

/-- The value of the field behind the second comma and what `strtmp` has afterwards; `limit` is
the length that `idx_start` is compared with. -/
def convertField (tgt : Target) (limit : ℤ) (strtmp : List Byte) :
    Option (List Byte) → ℤ × List Byte
  | none => (0, strtmp)
  | some reply =>
    if 0 < reply.length then
      let (idxStart, idxEnd) := fieldBounds reply.length 0 false reply.length reply
      if idxStart < limit then
        let strtmp :=
          memcpy strtmp (((replyBuff reply).drop (idxStart + 1)).take (idxEnd - idxStart))
        (tgt.strtof (strtmp.takeWhile (· ≠ 0)), strtmp)
      else (0, strtmp)
    else (0, strtmp)

def convertRsrp (tgt : Target) (strtmp : List Byte) (strrsrp : Option (List Byte)) :
    ℤ × List Byte := convertField tgt (replyLen strrsrp) strtmp strrsrp

/-- The start of the field is compared with the length of the other reply. -/
def convertRsrq (tgt : Target) (strtmp : List Byte) (strrsrp strrsrq : Option (List Byte)) :
    ℤ × List Byte := convertField tgt (replyLen strrsrp) strtmp strrsrq

def signalR410m (tgt : Target) (h : ℕ) : At SignalStrength := do
  perform h [.flush, .lock, .cmdStart "AT+UCGED?", .cmdStop, .setDelimiter 0, .respStart "+RSRP:"]
  let strrsrp ← readString h 200
  perform h [.respStop, .cmdStart "AT+UCGED?", .cmdStop, .setDelimiter 0, .respStart "+RSRQ:"]
  let strrsrq ← readString h 200
  perform h [.respStop, .setDefaultDelimiter]
  let ret ← unlockReturnError h
  let (rsrp, strtmp) := convertRsrp tgt (List.replicate 10 0) strrsrp
  let (rsrq, _) := convertRsrq tgt strtmp strrsrp strrsrq
  return ⟨ret, rsrp, rsrq, 0⟩

def readSignal (tgt : Target) (h : ℕ) : CellModule → At SignalStrength
  | .bg96 => signalBg96 h
  | .bc95g => signalBc95g h
  | .r410m | .n410 => signalR410m tgt h
  | .max => return ⟨-1, 0, 0, 0⟩

def getSignalStrength (tgt : Target) : At SignalStrength := do
  enableSignalStrengthReport
  match ← getAtHandler with
  | none => return ⟨-1, 0, 0, 0⟩
  | some h =>
    let module ← Handle.look fun c => (c.module, c)
    let signal ← readSignal tgt h module
    let _ ← releaseAtHandler h
    return signal

end CellularAt

end SlcNode
