import SlcNode.BandCheck
import SlcNode.ConfigPayload
import SlcNode.Library.Monitor
import SlcNode.TimeSync

namespace SlcNode

inductive ExtOp
  | at (op : AtOp)
  | writeInt (n : ℤ)
  | writeString (text : List Byte)
  | readHexString (size : ℕ)
  | unlock
deriving DecidableEq

abbrev Ext := Handle.Client Cellular ExtOp

namespace CellularExt

open CellularAt Monitor

def lift {α : Type} (p : At α) : Ext α := relabel .at p

def ask (h : ℕ) (op : ExtOp) : Ext Unit := Handle.use h op fun c => ((), c)

def readHexString (h size : ℕ) : Ext (Option (List Byte)) :=
  Handle.use h (.readHexString size) fun c =>
    (c.modem.strings.head.map (·.take size),
      { c with modem := { c.modem with strings := c.modem.strings.tail } })

section Info

def getAtInfo (h : ℕ) (cmd : String) (size : ℕ) : At (ℤ × Option (List Byte)) := do
  perform h [.lock, .cmdStart cmd, .cmdStop, .setDelimiter 0, .respStart none]
  let buf ← readString h (size - 1)
  perform h [.respStop, .setDefaultDelimiter]
  let ret ← unlockReturnError h
  return (ret, buf)

def info (cmd : String) (size : ℕ) : At (ℤ × Option (List Byte)) := do
  match ← getAtHandler with
  | none => return (-1, none)
  | some h =>
    perform h [.flush]
    let r ← getAtInfo h cmd size
    let _ ← releaseAtHandler h
    return r

def getModelIdentification : ℕ → At (ℤ × Option (List Byte)) := info "AT+CGMM"

def getImei : ℕ → At (ℤ × Option (List Byte)) := info "AT+GSN"

def getImsi : ℕ → At (ℤ × Option (List Byte)) := info "AT+CIMI"

def getFwVersion : ℕ → At (ℤ × Option (List Byte)) := info "AT+CGMR"

def customAtCmd (cmd : String) : ℕ → At (ℤ × Option (List Byte)) := info cmd

def getCcid (size : ℕ) : At (ℤ × Option (List Byte)) := do
  match ← getAtHandler with
  | none => return (-1, none)
  | some h =>
    perform h [.flush, .lock, .cmdStart "AT+CCID", .cmdStop, .respStart "+CCID: "]
    let ccid ← readString h size
    perform h [.respStop]
    let ret ← unlockReturnError h
    let _ ← releaseAtHandler h
    return (ret, ccid)

end Info

section Commands

def exchange (cmd : String) : List AtOp := [.cmdStart cmd, .cmdStop, .respStart none, .respStop]

def sendAll (cmds : List String) : At ℤ := do
  match ← getAtHandler with
  | none => return -1
  | some h =>
    perform h ([.flush, .lock] ++ cmds.flatMap exchange)
    let ret ← unlockReturnError h
    let _ ← releaseAtHandler h
    return ret

def gpsEn (en : Bool) : At ℤ :=
  sendAll (if en then ["AT+QGPS=1"] else ["AT+QGPS=0", "AT+QGPSEND"])

def setNbiot : At ℤ :=
  sendAll ["AT+QCFG=\"nwscanseq\",03,1", "AT+QCFG=\"nwscanmode\",0,1", "AT+QCFG=\"iotopmode\",1,1",
    "AT+CFUN=1,1"]

def setCatM1 : At ℤ :=
  sendAll ["AT+QCFG=\"nwscanseq\",02,1", "AT+QCFG=\"nwscanmode\",3,1", "AT+QCFG=\"iotopmode\",0,1",
    "AT+CFUN=1,1"]

def setAutoCatM1Nbiot : At ℤ :=
  sendAll ["AT+QCFG=\"nwscanseq\",00,1", "AT+QCFG=\"nwscanmode\",0,1", "AT+QCFG=\"iotopmode\",2,1",
    "AT+CFUN=1,1"]

/-- The two commands that disable lack their `AT`. -/
def scramblingEn (en : Bool) : At ℤ :=
  sendAll (if en then
    ["AT+NCONFIG:CR_0354_0338_SCRAMBLING,TRUE", "AT+NCONFIG:CR_0859_SI_AVOID,TRUE"]
  else ["+NCONFIG:CR_0354_0338_SCRAMBLING,FALSE", "+NCONFIG:CR_0859_SI_AVOID,FALSE"])

def swResetReset : At ℤ := sendAll ["AT+CFUN=15"]

end Commands

section Apn

def setApn (apn : Option (List Byte)) : Ext ℤ := do
  match apn with
  | none => return -1
  | some apn =>
    match ← lift getAtHandler with
    | none => return -1
    | some h =>
      lift (perform h [.setDebug true, .flush, .lock, .cmdStart "AT+CGDCONT="])
      ask h (.writeInt 1)
      ask h (.writeString [73, 80])
      ask h (.writeString apn)
      lift (perform h [.cmdStopReadResp])
      let _ ← lift (unlockReturnError h)
      let ret ← lift (psmAttempt "AT+CGDCONT?" h)
      lift (perform h [.setDebug false])
      let _ ← lift (releaseAtHandler h)
      return ret

def clearApn : At ℤ := do
  match ← getAtHandler with
  | none => return -1
  | some h =>
    perform h [.setDebug true]
    let _ ← psmAttempt "AT+CGDCONT?" h
    let _ ← psmAttempt "AT+CGDCONT=1" h
    let ret ← psmAttempt "AT+CGDCONT=2" h
    perform h [.setDebug false]
    let _ ← releaseAtHandler h
    return ret

def queryApn : At ℤ := do
  match ← getAtHandler with
  | none => return -1
  | some h =>
    perform h [.setDebug true]
    let ret ← psmAttempt "AT+CGDCONT?" h
    let _ ← releaseAtHandler h
    return ret

end Apn

section PowerSaving

def getPsmAttempt (h : ℕ) : At (ℤ × BitVec 32) := do
  perform h [.flush, .lock, .cmdStart "AT+CPSMS?", .respStart "+CPSMS:"]
  let mode ← readInt h
  perform h [.respStop]
  let ret ← unlockReturnError h
  return (ret, mode)

def getPsm : At (ℤ × Bool) := do
  match ← getAtHandler with
  | none => return (-1, true)
  | some h =>
    let (ret, mode) ← Handle.retry (getPsmAttempt h) (·.1 < 0) 2
    let _ ← releaseAtHandler h
    return (ret, mode ≠ 0)

def getEdrx : At (ℤ × Bool) := do
  match ← getAtHandler with
  | none => return (-1, false)
  | some h =>
    perform h [.flush, .lock, .cmdStart "AT+CEDRXS?", .respStart "+CEDRXS:"]
    let mode ← readInt h
    let _reqEdrxValue ← readInt h
    perform h [.respStop]
    let ret ← unlockReturnError h
    let _ ← releaseAtHandler h
    return (ret, 0 < mode.toInt)

def getEdrxrdp : At ℤ := do
  match ← getAtHandler with
  | none => return -1
  | some h =>
    perform h [.flush, .lock, .cmdStart "AT+CEDRXRDP", .respStart "+CEDRXRDP:"]
    let _buff ← readString h 100
    perform h [.respStop]
    let ret ← unlockReturnError h
    let _ ← releaseAtHandler h
    return ret

def epsNetworkRegistrationStatus : At ℤ := psmCommand "AT+CEREG=2"

end PowerSaving

section Radio

structure SignalQuality where
  ret : ℤ
  rssi : ℤ
  ber : ℤ
deriving DecidableEq

def rssiResult (h : ℕ) (rssi ber : BitVec 32) : Ext SignalQuality := do
  if rssi.toInt < 0 then
    ask h .unlock
    return ⟨TimeSync.deviceError, rssi.toInt, ber.toInt⟩
  else
    let ret ← lift (unlockReturnError h)
    return ⟨ret, if rssi.toInt ≤ 31 then -113 + 2 * rssi.toInt else 0, ber.toInt⟩

def getSignalQuality (rssi₀ ber₀ : ℤ) : Ext SignalQuality := do
  match ← lift getAtHandler with
  | none => return ⟨-1, rssi₀, ber₀⟩
  | some h =>
    lift (perform h [.flush, .lock, .cmdStart "AT+CSQ", .cmdStop, .setDelimiter 0,
      .respStart "+CSQ:"])
    let rssi ← lift (readInt h)
    let ber ← lift (readInt h)
    lift (perform h [.respStop, .setDefaultDelimiter])
    let r ← rssiResult h rssi ber
    let _ ← lift (releaseAtHandler h)
    return r

def cellBg96 (h : ℕ) : Ext (ℤ × BitVec 32) := do
  lift (perform h [.flush, .lock, .cmdStart "AT+CEREG=2", .cmdStop, .setDelimiter 0,
    .respStart "+CEREG:"])
  let _n ← lift (readInt h)
  let _stat ← lift (readInt h)
  let _tac ← readHexString h 9
  let ci ← readHexString h 9
  let _act ← lift (readInt h)
  lift (perform h [.respStop, .setDefaultDelimiter])
  let ret ← lift (unlockReturnError h)
  return (ret, (ci.getD []).foldl (fun cellid b => cellid <<< 8 ||| b.setWidth 32) 0)

def cellBc95g (h : ℕ) : At (ℤ × BitVec 32) := do
  perform h [.flush, .lock, .cmdStart "AT+NUESTATS=CELL", .cmdStop, .respStart "NUESTATS:CELL,"]
  let _earfcn ← readInt h
  let cellid ← readInt h
  let _primarycell ← readInt h
  perform h [.respStop]
  let ret ← unlockReturnError h
  return (ret, cellid)

def cellR410m (h : ℕ) : At (ℤ × BitVec 32) := do
  perform h [.flush, .lock, .cmdStart "AT+UCGED?", .cmdStop, .setDelimiter 0, .respStart "+RSRP: "]
  let cellid ← readInt h
  perform h [.respStop, .setDefaultDelimiter]
  let ret ← unlockReturnError h
  return (ret, cellid)

def readCell (h : ℕ) : CellModule → Ext (ℤ × BitVec 32)
  | .bg96 => cellBg96 h
  | .bc95g => lift (cellBc95g h)
  | .r410m | .n410 => lift (cellR410m h)
  | .max => return (-1, 0)

def getCellId : Ext (ℤ × BitVec 32) := do
  lift enableSignalStrengthReport
  match ← lift getAtHandler with
  | none => return (-1, 0)
  | some h =>
    let module ← Handle.look fun c => (c.module, c)
    let r ← readCell h module
    let _ ← lift (releaseAtHandler h)
    return r

def nsostf (socket : BitVec 32) : String :=
  String.ofList (("AT+NSOSTF=" ++ toString socket.toInt ++
    ",13.76.154.69,5131,0x200,1,AA,1").toList.take 49)

def disconnectBc95g (h : ℕ) : Ext Unit := do
  lift (perform h [.flush, .lock, .cmdStart "AT+NSOCR=DGRAM,17,7", .cmdStop, .setDelimiter 0,
    .respStart none])
  let socket ← lift (readInt h)
  lift (perform h [.respStop, .setDefaultDelimiter])
  let _ ← lift (unlockReturnError h)
  lift (perform h [.lock, .cmdStart (nsostf socket), .cmdStop, .setDelimiter 0, .respStart none,
    .respStop, .setDefaultDelimiter])
  let _ ← lift (unlockReturnError h)
  lift (perform h [.lock, .cmdStart "AT+NSOCL="])
  ask h (.writeInt socket.toInt)
  lift (perform h [.cmdStop, .setDelimiter 0, .respStart none, .respStop, .setDefaultDelimiter])
  let _ ← lift (unlockReturnError h)

def disconnectBg96 (h : ℕ) : Ext Unit := do
  lift (perform h [.flush, .lock, .cmdStart "AT+QCFG=\"rrcabort\",1", .cmdStop, .setDelimiter 0,
    .respStart none, .respStop, .setDefaultDelimiter])
  let _ ← lift (unlockReturnError h)

/-- What both modules of `CellularExt_DisconnectRAI` have around their commands. -/
def withHandler (body : ℕ → Ext Unit) : Ext Unit := do
  match ← lift getAtHandler with
  | none => return
  | some h =>
    body h
    let _ ← lift (releaseAtHandler h)

def disconnectRAI : Ext Unit := do
  match ← Handle.look fun c => (c.module, c) with
  | .bc95g => withHandler disconnectBc95g
  | .bg96 => withHandler disconnectBg96
  | .r410m | .n410 | .max => return

end Radio

section Attachment

def attachedAttempt (h : ℕ) : At (ℤ × BitVec 32) := do
  perform h [.flush, .lock, .cmdStart "AT+CGATT?", .cmdStop, .respStart "+CGATT:"]
  let stat ← readInt h
  perform h [.respStop]
  let ret ← unlockReturnError h
  return (ret, stat)

/-- A turn of the third loop, which does not stop the response. -/
def confirmAttempt (h : ℕ) : At (BitVec 32) := do
  perform h [.flush, .lock, .cmdStart "AT+CGATT?", .cmdStop, .respStart "+CGATT:"]
  let stat ← readInt h
  let _ ← unlockReturnError h
  return stat

/-- A turn of the last loop, which does not stop the response either. -/
def registeredAttempt (h : ℕ) : At (BitVec 32) := do
  perform h [.flush, .lock, .cmdStart "AT+CEREG?", .cmdStop, .respStart "+CEREG:"]
  let _n ← readInt h
  let stat ← readInt h
  let _ ← unlockReturnError h
  return stat

def attachLoops (h : ℕ) : At Unit := do
  perform h [.setDebug true]
  let (_, stat) ← Handle.retry (attachedAttempt h) (·.1 != 0) 9
  if stat != 1 then
    let _ ← Handle.retry (sendCommand "AT+CGATT=1" h) (· != 0) 9
  let _ ← Handle.retry (confirmAttempt h) (· != 1) 9
  let _ ← Handle.retry (registeredAttempt h) (· != 1) 9
  let _ ← releaseAtHandler h

def attachFound : At Unit := do
  match ← getAtHandler with
  | none => return
  | some h => attachLoops h

def attach : At Unit := do
  if (← Handle.look fun c => (c.module, c)) = .max then
    return
  attachFound

def detach : At Unit := do
  if (← Handle.look fun c => (c.module, c)) = .max then
    return
  match ← getAtHandler with
  | none => return
  | some h =>
    let _ ← sendCommand "AT+CGATT=0" h
    let _ ← releaseAtHandler h

end Attachment

section PreInit

def asciiBytes (text : String) : List Byte := text.toList.map fun c => BitVec.ofNat 8 c.toNat

def moduleNameList : List (CellModule × List Byte) :=
  [(.bg96, asciiBytes "BG96"), (.bc95g, asciiBytes "BC95G"), (.r410m, asciiBytes "R410M-02B"),
    (.n410, asciiBytes "N410-02B")]

def detected (strbuff : List Byte) : CellModule :=
  ((moduleNameList.find? fun p => p.2 <:+: cString strbuff).map (·.1)).getD .max

def identify : At CellModule := do
  let (_, strbuff) ← getModelIdentification 50
  return detected (strbuff.getD [])

def setModule (module : CellModule) : At Unit :=
  Handle.look fun c => ((), { c with module := module })

def configure (tgt : Target) (band₀ : List Byte) : CellModule → At Bool
  | .bg96 | .max => return true
  | .bc95g => provisionBC95G band₀
  | .r410m => do
    let _ ← provisionR410M tgt band₀
    let _ ← enablePsmNoticeR410M
    let _ ← disablePsmR410M
    return true
  | .n410 => do
    let _ ← provisionR410M tgt band₀
    return true

def preInitLoop (tgt : Target) (band₀ : List Byte) : ℕ → At ℤ
  | 0 => return -1
  | left + 1 => do
    let module ← identify
    if module = .max then preInitLoop tgt band₀ left
    else do
      setModule module
      if ← configure tgt band₀ module then
        let _ ← getFwVersion 50
        return 0
      else return 1

def preInitModule (tgt : Target) (band₀ : List Byte) : At ℤ := do
  setModule .max
  preInitLoop tgt band₀ (2 * 5)

end PreInit

end CellularExt

end SlcNode
