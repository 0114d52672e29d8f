import SlcNode.Library.Handle
import SlcNode.Library.LittleEndian
import Mathlib.Data.Stream.Defs

namespace SlcNode

inductive AtOp
  | flush
  | setDebug (on : Bool)
  | lock
  | cmdStart (cmd : String)
  | cmdStop
  | cmdStopReadResp
  | respStart (text : Option String)
  | respStop
  | readInt
  | readString (size : ℕ)
  | setDelimiter (delimiter : Byte)
  | setDefaultDelimiter
  | unlockReturnError
deriving DecidableEq

/-- What the modem and its driver have still to answer: whether a handler is given, the numbers
and texts of the replies, `none` for a text that cannot be read, and the error codes. -/
structure Modem where
  device : Bool
  handlers : Stream' Bool
  ints : Stream' (BitVec 32)
  strings : Stream' (Option (List Byte))
  errors : Stream' ℤ

inductive CellModule
  | bg96
  | bc95g
  | r410m
  | n410
  | max
deriving DecidableEq

structure Cellular where
  modem : Modem
  module : CellModule
  enSignalReport : Bool

/-- What C leaves to the target: `1 << i` where `i` is no bit of an `int`, and `(int)strtof`. -/
structure Target where
  shl : ℤ → BitVec 32
  strtof : List Byte → ℤ

abbrev At := Handle.Client Cellular AtOp

namespace CellularAt

def perform (h : ℕ) : List AtOp → At Unit
  | [] => pure ()
  | op :: ops => do
    Handle.use h op fun c => ((), c)
    perform h ops

def readInt (h : ℕ) : At (BitVec 32) :=
  Handle.use h .readInt fun c =>
    (c.modem.ints.head, { c with modem := { c.modem with ints := c.modem.ints.tail } })

def readString (h size : ℕ) : At (Option (List Byte)) :=
  Handle.use h (.readString size) fun c =>
    (c.modem.strings.head.map (·.take (size - 1)),
      { c with modem := { c.modem with strings := c.modem.strings.tail } })

def nextError (c : Cellular) : ℤ × Cellular :=
  (c.modem.errors.head, { c with modem := { c.modem with errors := c.modem.errors.tail } })

def unlockReturnError (h : ℕ) : At ℤ := Handle.use h .unlockReturnError nextError

def releaseAtHandler (h : ℕ) : At ℤ := Handle.release h nextError

def getAtHandler : At (Option ℕ) :=
  Handle.acquire fun c =>
    if c.modem.device then
      (c.modem.handlers.head,
        { c with modem := { c.modem with handlers := c.modem.handlers.tail } })
    else (false, c)

def shl (tgt : Target) (i : ℤ) : BitVec 32 :=
  if 0 ≤ i ∧ i < 32 then 1#32 <<< i.toNat else tgt.shl i

def bandBit (tgt : Target) (i : ℤ) : BitVec 64 := (shl tgt i).signExtend 64

def bandsFrom (tgt : Target) (mask : BitVec 64) (size : ℕ) : ℕ → List Byte → List Byte
  | 0, band => band
  | n + 1, band =>
    if mask &&& bandBit tgt (63 - n) ≠ 0 then
      if size ≤ band.length + 1 then band ++ [BitVec.ofNat 8 (64 - n)]
      else bandsFrom tgt mask size n (band ++ [BitVec.ofNat 8 (64 - n)])
    else bandsFrom tgt mask size n band

def bandsOf (tgt : Target) (mask : BitVec 64) (size : ℕ) : List Byte :=
  if mask ≠ 0 then bandsFrom tgt mask size 64 [] else []

def nbiotMask (rat₀ mask₀ rat₁ mask₁ : BitVec 32) : Option (BitVec 64) :=
  if rat₀.setWidth 8 = 1#8 then some (mask₀.signExtend 64)
  else if rat₁.setWidth 8 = 1#8 then some (mask₁.signExtend 64)
  else none

structure BandResult where
  ret : ℤ
  band : List Byte
deriving DecidableEq

def queryBandmask (h : ℕ) : At (ℤ × Option (BitVec 64)) := do
  perform h [.flush, .setDebug true, .lock, .cmdStart "AT+UBANDMASK?", .cmdStop,
    .respStart "+UBANDMASK:"]
  let rat₀ ← readInt h
  let mask₀ ← readInt h
  let rat₁ ← readInt h
  let mask₁ ← readInt h
  perform h [.respStop, .setDebug false]
  let ret ← unlockReturnError h
  return (ret, nbiotMask rat₀ mask₀ rat₁ mask₁)

/-- What is sent where no answer is for RAT 1, up to the release. -/
def selectProfile (h : ℕ) : At Unit := do
  perform h [.flush, .setDebug true, .lock, .cmdStart "at+umnoprof=100", .cmdStopReadResp,
    .cmdStart "at+cfun=15", .cmdStopReadResp]
  let _ ← unlockReturnError h
  perform h [.setDebug false]

def getBandLoop (tgt : Target) (size h : ℕ) (left : ℕ) : At BandResult := do
  let (ret, nbiot) ← queryBandmask h
  let _ ← releaseAtHandler h
  match nbiot with
  | some mask => return { ret := ret, band := bandsOf tgt mask size }
  | none =>
    selectProfile h
    let _ ← releaseAtHandler h
    match left with
    | 0 => return { ret := -1, band := [] }
    | left + 1 => getBandLoop tgt size h left

def getBandR410M (tgt : Target) (band : Bool) (size : ℕ) : At BandResult := do
  if !band || size == 0 then
    return { ret := -1, band := [] }
  match ← getAtHandler with
  | none => return { ret := -1, band := [] }
  | some h => getBandLoop tgt size h 1

def bandmask (tgt : Target) (band : List Byte) : BitVec 64 :=
  band.foldl (fun mask b => mask ||| bandBit tgt (b.toNat - 1)) 0

def setBandCmd (tgt : Target) (band : List Byte) : String :=
  "AT+UBANDMASK=1," ++ toString (bandmask tgt band).toInt

def setBandAttempt (cmdstr : String) (h : ℕ) : At ℤ := do
  perform h [.flush, .setDebug true, .lock, .cmdStart cmdstr, .cmdStop, .respStart none, .respStop]
  unlockReturnError h

def setBandR410M (tgt : Target) (band : Option (List Byte)) : At ℤ := do
  match band with
  | none | some [] => return -1
  | some band =>
    match ← getAtHandler with
    | none => return -1
    | some h =>
      let ret ← Handle.retry (setBandAttempt (setBandCmd tgt band) h) (· != 0) 3
      perform h [.setDebug false]
      let _ ← releaseAtHandler h
      return ret

def psmAttempt (cmd : String) (h : ℕ) : At ℤ := do
  perform h [.flush, .lock, .cmdStart cmd, .cmdStopReadResp]
  unlockReturnError h

def psmCommand (cmd : String) : At ℤ := do
  match ← getAtHandler with
  | none => return -1
  | some h =>
    perform h [.setDebug true]
    let ret ← Handle.retry (psmAttempt cmd h) (· < 0) 2
    let _ ← releaseAtHandler h
    perform h [.setDebug false]
    return ret

def disablePsmR410M : At ℤ := psmCommand "AT+CPSMS=0"

def enablePsmNoticeR410M : At ℤ := psmCommand "AT+UPSMR=1"

end CellularAt

end SlcNode
