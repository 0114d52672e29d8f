import SlcNode.Moves
import SlcNode.MainLoop

namespace SlcNode.MainLoop

def Connecting (n : MainStep) : Prop :=
  n = .initConnection ∨ n = .established ∨ n = .syncTime ∨ n = .register ∨ n = .connectDone

def Leaving (n : MainStep) : Prop := n = .pausing ∨ n = .closing ∨ n = .closed ∨ n = .network

instance (n : MainStep) : Decidable (Connecting n) := inferInstanceAs (Decidable (_ ∨ _))

instance (n : MainStep) : Decidable (Leaving n) := inferInstanceAs (Decidable (_ ∨ _))

/-- What the loop does between two accesses to what others change. -/
inductive Turns (m : MainLoop) : MainLoop → Prop
  | noConnect : m.next = .connect → m.toNetConnect = false → Turns m { m with next := .disconnect }
  | upAlready : m.next = .connect → m.toNetConnect = true → m.netState = .connected →
      Turns m { m with next := .established }
  | connect : m.next = .connect → m.toNetConnect = true → m.netState ≠ .connected →
      Turns m { m with netState := .connecting, err := 0, next := .initConnection }
  | again (err errReboot : ℕ) : m.next = .initConnection → err ≤ 3 → errReboot ≤ 3 →
      m.err + m.errReboot < err + errReboot →
      Turns m { m with err := err, errReboot := errReboot }
  | linked (errReboot : ℕ) : m.next = .initConnection →
      Turns m { m with errReboot := errReboot, next := .established }
  | failed (err errReboot : ℕ) (n : NetState) : m.next = .initConnection →
      n = .error ∨ n = .errorReboot →
      Turns m { m with err := err, errReboot := errReboot, netState := n, next := .established }
  | sync : m.next = .established → m.toNetDisconnect = false → m.netState ≠ .error →
      m.netState ≠ .errorReboot → Turns m { m with next := .syncTime }
  | noSync : m.next = .established ∨ m.next = .syncTime →
      m.toNetDisconnect = true ∨ m.netState = .error ∨ m.netState = .errorReboot →
      Turns m { m with next := .connectDone }
  | connected : m.next = .syncTime → m.toNetDisconnect = false →
      Turns m { m with netState := .connected, next := .register }
  | register : m.next = .register → m.pelionRegistered = false ∨ m.paused = false →
      Turns m { m with next := .connectDone }
  | resume : m.next = .register → m.pelionRegistered = true → m.paused = true →
      Turns m { m with paused := false, next := .connectDone }
  | connectDone : m.next = .connectDone →
      Turns m { m with toNetConnect := false, next := .disconnect }
  | noDisconnect : m.next = .disconnect → m.toNetDisconnect = false →
      Turns m { m with next := .connect }
  | pause : m.next = .disconnect → m.toNetDisconnect = true → m.clientRegistered = true →
      Turns m { m with next := .pausing }
  | close : m.next = .disconnect → m.toNetDisconnect = true → m.clientRegistered = false →
      Turns m { m with waitcnt := 0, next := .closing }
  | paused : m.next = .pausing → Turns m { m with paused := true, next := .network }
  | wait : m.next = .closing → m.waitcnt < 10 → Turns m { m with waitcnt := m.waitcnt + 1 }
  | closed (waitcnt : ℕ) : m.next = .closing → Turns m { m with waitcnt := waitcnt, next := .closed }
  | unregistered : m.next = .closed →
      Turns m { m with pelionRegistered := false, next := .network }
  | reboot : m.next = .network → m.netState = .errorReboot → Turns m start
  | down (n : NetState) : m.next = .network → m.netState ≠ .errorReboot → n.isDown = true →
      Turns m { m with netState := n, next := .disconnectDone }
  | disconnectDone : m.next = .disconnectDone →
      Turns m { m with toNetDisconnect := false, next := .connect }

theorem giveUp_turns {m : MainLoop} (err errReboot : ℕ) (hn : m.next = .initConnection)
    (hlt : m.err + m.errReboot < err + errReboot) :
    Turns m { m with err := err, errReboot := errReboot }.giveUp := by
  unfold giveUp
  split_ifs with hr he
  · exact .failed _ _ _ hn (.inr rfl)
  · exact .failed _ _ _ hn (.inl rfl)
  · exact .again err errReboot hn (Nat.le_of_not_lt he) (Nat.le_of_not_lt hr) hlt

theorem initConnection_turns (ret : ConnectResult) {m : MainLoop} (hn : m.next = .initConnection) :
    Turns m (m.initConnection ret) := by
  unfold initConnection
  cases ret with
  | success => exact .linked 0 hn
  | timeout | noMemory => exact giveUp_turns m.err (m.errReboot + 1) hn (by omega)
  | noNetworkInterface => exact .failed m.err m.errReboot _ hn (.inr rfl)
  | failure =>
    dsimp only
    split
    · exact .linked m.errReboot hn
    · exact giveUp_turns (m.err + 1) m.errReboot hn (by omega)

theorem closing_turns {m : MainLoop} (hn : m.next = .closing) : Turns m m.closing := by
  unfold closing
  split
  · dsimp only
    split
    · exact .closed _ hn
    · next hw => exact .wait hn (by omega)
  · exact .closed m.waitcnt hn

theorem network_turns {m : MainLoop} (hn : m.next = .network) : Turns m m.network := by
  unfold network
  split
  · next he => exact .reboot hn he
  · next he =>
    refine .down _ hn he ?_
    split_ifs <;> rfl

theorem loop_turns (ret : ConnectResult) (m : MainLoop) : Turns m (m.loop ret) := by
  unfold loop
  cases hn : m.next with
  | connect =>
    dsimp only [MainLoop.connect]
    split_ifs with hc hs
    · exact .connect hn hc hs
    · exact .upAlready hn hc (not_not.mp hs)
    · exact .noConnect hn (Bool.eq_false_iff.mpr hc)
  | initConnection => exact initConnection_turns ret hn
  | established =>
    dsimp only [established]
    split
    · next h =>
      have h : (m.toNetDisconnect = false ∧ m.netState ≠ .error) ∧ m.netState ≠ .errorReboot := by
        simpa using h
      exact .sync hn h.1.1 h.1.2 h.2
    · next h => exact .noSync (.inl hn) (by simpa [or_assoc, imp_iff_not_or] using h)
  | syncTime =>
    dsimp only [syncTime]
    split
    · next h => exact .connected hn (by simpa using h)
    · next h => exact .noSync (.inr hn) (.inl (by simpa using h))
  | register =>
    dsimp only [MainLoop.register]
    split
    · next h => exact .register hn (by simpa using h)
    · next h =>
      have h : m.pelionRegistered = true ∧ m.paused = true := by simpa using h
      exact .resume hn h.1 h.2
  | connectDone => exact .connectDone hn
  | disconnect =>
    dsimp only [disconnect]
    split_ifs with hd hc
    · exact .pause hn hd hc
    · exact .close hn hd (Bool.eq_false_iff.mpr hc)
    · exact .noDisconnect hn (Bool.eq_false_iff.mpr hd)
  | pausing => exact .paused hn
  | closing => exact closing_turns hn
  | closed => exact .unregistered hn
  | network => exact network_turns hn
  | disconnectDone => exact .disconnectDone hn

end SlcNode.MainLoop
