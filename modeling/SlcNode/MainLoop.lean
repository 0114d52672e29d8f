import SlcNode.State

namespace SlcNode

/-- The result of `mcc_platform_init_connection`, told apart as the loop does. -/
inductive ConnectResult
  | success
  | timeout
  | noMemory
  | noNetworkInterface
  | failure
deriving DecidableEq, Repr

inductive MainStep
  | connect
  | initConnection
  | established
  | syncTime
  | register
  | connectDone
  | disconnect
  | pausing
  | closing
  | closed
  | network
  | disconnectDone
deriving DecidableEq, Repr

structure MainLoop where
  toNetDisconnect : Bool
  toNetConnect : Bool
  disconnectType : BitVec 2
  netState : NetState
  pelionRegistered : Bool
  paused : Bool
  clientRegistered : Bool
  err : ℕ
  errReboot : ℕ
  waitcnt : ℕ
  next : MainStep
deriving DecidableEq

inductive MainEvent
  | toRestart
  | toDeregister (disconnectType : BitVec 2)
  | clientRegistered
  | registeredCallback
  | clientUnregistered
  | loop (ret : ConnectResult)
deriving DecidableEq

def disconnectRai : BitVec 2 := 1

def disconnectDetach : BitVec 2 := 2

namespace MainLoop

def start : MainLoop where
  toNetDisconnect := false
  toNetConnect := false
  disconnectType := disconnectDetach
  netState := .disconnected
  pelionRegistered := false
  paused := false
  clientRegistered := false
  err := 0
  errReboot := 0
  waitcnt := 0
  next := .connect

def connect (m : MainLoop) : MainLoop :=
  if m.toNetConnect then
    if m.netState ≠ .connected then
      { m with netState := .connecting, err := 0, next := .initConnection }
    else { m with next := .established }
  else { m with next := .disconnect }

def giveUp (m : MainLoop) : MainLoop :=
  if m.errReboot > 3 then
    { m with errReboot := 0, netState := .errorReboot, next := .established }
  else if m.err > 3 then { m with err := 0, netState := .error, next := .established }
  else m

def initConnection (ret : ConnectResult) (m : MainLoop) : MainLoop :=
  match ret with
  | .success => { m with errReboot := 0, next := .established }
  | .timeout | .noMemory => { m with errReboot := m.errReboot + 1 }.giveUp
  | .noNetworkInterface => { m with netState := .errorReboot, next := .established }
  | .failure =>
    if m.toNetDisconnect then { m with next := .established }
    else { m with err := m.err + 1 }.giveUp

def established (m : MainLoop) : MainLoop :=
  if !m.toNetDisconnect && m.netState != .error && m.netState != .errorReboot then
    { m with next := .syncTime }
  else { m with next := .connectDone }

/-- The result of `SyncRealTime` is overwritten with zero. -/
def syncTime (m : MainLoop) : MainLoop :=
  if !m.toNetDisconnect then { m with netState := .connected, next := .register }
  else { m with next := .connectDone }

/-- `register_and_connect` leaves the flags alone, `resume` ends the pause. -/
def register (m : MainLoop) : MainLoop :=
  if !m.pelionRegistered || !m.paused then { m with next := .connectDone }
  else { m with paused := false, next := .connectDone }

def disconnect (m : MainLoop) : MainLoop :=
  if m.toNetDisconnect then
    if m.clientRegistered then { m with next := .pausing }
    else { m with waitcnt := 0, next := .closing }
  else { m with next := .connect }

def closing (m : MainLoop) : MainLoop :=
  if m.clientRegistered then
    let m := { m with waitcnt := m.waitcnt + 1 }
    if m.waitcnt > 10 then { m with next := .closed } else m
  else { m with next := .closed }

/-- After an error that asks for it the module is reset and the system reboots. -/
def network (m : MainLoop) : MainLoop :=
  if m.netState = .errorReboot then start
  else
    { m with
      netState :=
        if m.disconnectType = disconnectRai then .raiDisconnected
        else if m.disconnectType = disconnectDetach then .detachDisconnected
        else .disconnected
      next := .disconnectDone }

def loop (ret : ConnectResult) (m : MainLoop) : MainLoop :=
  match m.next with
  | .connect => m.connect
  | .initConnection => m.initConnection ret
  | .established => m.established
  | .syncTime => m.syncTime
  | .register => m.register
  | .connectDone => { m with toNetConnect := false, next := .disconnect }
  | .disconnect => m.disconnect
  | .pausing => { m with paused := true, next := .network }
  | .closing => m.closing
  | .closed => { m with pelionRegistered := false, next := .network }
  | .network => m.network
  | .disconnectDone => { m with toNetDisconnect := false, next := .connect }

def step (m : MainLoop) : MainEvent → MainLoop
  | .toRestart => { m with toNetConnect := true }
  | .toDeregister t => { m with disconnectType := t, toNetDisconnect := true }
  | .clientRegistered => { m with clientRegistered := true }
  | .registeredCallback => { m with pelionRegistered := true }
  | .clientUnregistered => { m with clientRegistered := false }
  | .loop ret => m.loop ret

def registeredUnpaused (m : MainLoop) : Bool := m.pelionRegistered && !m.paused

end MainLoop

end SlcNode
