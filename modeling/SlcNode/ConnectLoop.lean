import SlcNode.Library.EventRun
import SlcNode.MainLoop

namespace SlcNode.ConnectLoop

open EventRun MainLoop

structure Request where
  attempts : ℕ
  wasConnected : Bool
  succeeded : Bool
deriving DecidableEq

def noteLoop (ret : ConnectResult) (m : MainLoop) (r : Request) : Request :=
  match m.next with
  | .connect => { attempts := 0, wasConnected := m.netState == .connected, succeeded := false }
  | .initConnection =>
    { r with attempts := r.attempts + 1, succeeded := r.succeeded || ret == .success }
  | _ => r

def note (m : MainLoop) : MainEvent → Request → Request
  | .loop ret, r => noteLoop ret m r
  | _, r => r

def Sets (m : MainLoop) (e : MainEvent) : Prop :=
  m.next = .syncTime ∧ (m.step e).next = .register

def Request.Earned (r : Request) : Prop := r.wasConnected = true ∨ r.succeeded = true

structure Fair (p : MainLoop × Request) (e : MainEvent) : Prop where
  bounded : (note p.1 e p.2).attempts ≤ 7
  connected : (p.1.step e).netState = .connected → p.1.netState = .connected ∨ Sets p.1 e
  earned : Sets p.1 e → p.2.Earned ∧ p.1.toNetDisconnect = false

/-- While the loop tries, the two counters together keep up with the attempts; once it leaves
without an error and without a request to disconnect, the connection is earned. -/
structure Inv (p : MainLoop × Request) : Prop where
  reboot : p.1.errReboot ≤ 3
  bounded : p.2.attempts ≤ 7
  trying : p.1.next = .initConnection →
    p.1.err ≤ 3 ∧ p.2.attempts ≤ p.1.err + p.1.errReboot
  left : p.1.next = .established → p.1.toNetDisconnect = false →
    p.1.netState ≠ .error → p.1.netState ≠ .errorReboot → p.2.Earned
  synced : p.1.next = .syncTime → p.2.Earned

theorem inv_idle {m : MainLoop} {r : Request} (herr : m.errReboot ≤ 3) (hr : r.attempts ≤ 7)
    (htry : m.next ≠ .initConnection) (hest : m.next ≠ .established) (hsync : m.next ≠ .syncTime) :
    Inv (m, r) where
  reboot := herr
  bounded := hr
  trying h := absurd h htry
  left h := absurd h hest
  synced h := absurd h hsync

theorem inv_connect (ret : ConnectResult) {m : MainLoop} {r : Request} (h : Inv (m, r))
    (hnext : m.next = .connect) : Inv (m.connect, noteLoop ret m r) := by
  have herr : m.errReboot ≤ 3 := h.reboot
  rw [noteLoop, hnext]
  dsimp only [connect]
  split_ifs with hto hstate
  · exact ⟨herr, Nat.zero_le _, fun _ => ⟨Nat.zero_le _, Nat.zero_le _⟩, by simp, by simp⟩
  · refine ⟨herr, Nat.zero_le _, by simp, fun _ _ _ _ => .inl ?_, by simp⟩
    simpa using hstate
  · exact inv_idle herr (Nat.zero_le _) (by simp) (by simp) (by simp)

theorem inv_giveUp {m : MainLoop} {r : Request} (hreboot : m.errReboot ≤ 4) (herr : m.err ≤ 4)
    (hone : m.errReboot ≤ 3 ∨ m.err ≤ 3) (hr : r.attempts ≤ m.err + m.errReboot)
    (hnext : m.next = .initConnection) : Inv (m.giveUp, r) := by
  have hbound : r.attempts ≤ 7 := by omega
  unfold giveUp
  split_ifs with hgive hgive'
  · exact ⟨Nat.zero_le _, hbound, by simp, by simp, by simp⟩
  · exact ⟨by dsimp only; omega, hbound, by simp, by simp, by simp⟩
  · refine ⟨?_, hbound, fun _ => ⟨?_, hr⟩, by simp [hnext], by simp [hnext]⟩
    · dsimp only
      omega
    · dsimp only
      omega

theorem inv_initConnection (ret : ConnectResult) {m : MainLoop} {r : Request} (h : Inv (m, r))
    (hnext : m.next = .initConnection) : Inv (m.initConnection ret, noteLoop ret m r) := by
  have hreboot : m.errReboot ≤ 3 := h.reboot
  obtain ⟨herr, hattempts⟩ : m.err ≤ 3 ∧ r.attempts ≤ m.err + m.errReboot := h.trying hnext
  have hbound : r.attempts + 1 ≤ 7 := by omega
  rw [noteLoop, hnext]
  dsimp only
  cases ret with
  | success =>
    exact ⟨Nat.zero_le _, hbound, by simp [initConnection], fun _ _ _ _ => .inr (by simp),
      by simp [initConnection]⟩
  | timeout | noMemory =>
    exact inv_giveUp (by dsimp only; omega) (by dsimp only; omega) (.inr herr)
      (by dsimp only; omega) hnext
  | noNetworkInterface =>
    exact ⟨hreboot, hbound, by simp [initConnection], by simp [initConnection],
      by simp [initConnection]⟩
  | failure =>
    rw [initConnection]
    split
    · next hto => exact ⟨hreboot, hbound, by simp, by simp [hto], by simp⟩
    · exact inv_giveUp (by dsimp only; omega) (by dsimp only; omega) (.inl hreboot)
        (by dsimp only; omega) hnext

theorem inv_established (ret : ConnectResult) {m : MainLoop} {r : Request} (h : Inv (m, r))
    (hnext : m.next = .established) : Inv (m.established, noteLoop ret m r) := by
  have hreboot : m.errReboot ≤ 3 := h.reboot
  have hbound : r.attempts ≤ 7 := h.bounded
  rw [noteLoop, hnext]
  dsimp only [established]
  split
  · next hgo =>
    have hgo : (m.toNetDisconnect = false ∧ m.netState ≠ .error) ∧ m.netState ≠ .errorReboot := by
      simpa using hgo
    exact ⟨hreboot, hbound, by simp, by simp, fun _ => h.left hnext hgo.1.1 hgo.1.2 hgo.2⟩
  · exact inv_idle hreboot hbound (by simp) (by simp) (by simp)

theorem inv_rest (ret : ConnectResult) {m : MainLoop} {r : Request} (h : Inv (m, r))
    (hconnect : m.next ≠ .connect) (htry : m.next ≠ .initConnection)
    (hest : m.next ≠ .established) : Inv (m.loop ret, noteLoop ret m r) := by
  have hreboot : m.errReboot ≤ 3 := h.reboot
  have hbound : r.attempts ≤ 7 := h.bounded
  unfold loop noteLoop
  cases hnext : m.next with
  | connect => exact absurd hnext hconnect
  | initConnection => exact absurd hnext htry
  | established => exact absurd hnext hest
  | syncTime =>
    dsimp only [syncTime]
    split <;> exact inv_idle hreboot hbound (by simp) (by simp) (by simp)
  | register =>
    dsimp only [register]
    split <;> exact inv_idle hreboot hbound (by simp) (by simp) (by simp)
  | disconnect =>
    dsimp only [disconnect]
    split_ifs <;> exact inv_idle hreboot hbound (by simp) (by simp) (by simp)
  | closing =>
    dsimp only [closing]
    split_ifs <;> exact inv_idle hreboot hbound (by simp [hnext]) (by simp [hnext]) (by simp [hnext])
  | network =>
    dsimp only [network]
    split
    · exact inv_idle (Nat.zero_le _) hbound (by simp [start]) (by simp [start]) (by simp [start])
    · exact inv_idle hreboot hbound (by simp) (by simp) (by simp)
  | connectDone | pausing | closed | disconnectDone =>
    exact inv_idle hreboot hbound (by simp) (by simp) (by simp)

theorem inv_loop (ret : ConnectResult) {m : MainLoop} {r : Request} (h : Inv (m, r)) :
    Inv (m.loop ret, noteLoop ret m r) := by
  by_cases hconnect : m.next = .connect
  · rw [loop, hconnect]
    exact inv_connect ret h hconnect
  · by_cases htry : m.next = .initConnection
    · rw [loop, htry]
      exact inv_initConnection ret h htry
    · by_cases hest : m.next = .established
      · rw [loop, hest]
        exact inv_established ret h hest
      · exact inv_rest ret h hconnect htry hest

theorem inv_step (p : MainLoop × Request) (e : MainEvent) (h : Inv p) :
    Inv (withHistory MainLoop.step note p e) := by
  obtain ⟨m, r⟩ := p
  cases e with
  | loop ret => exact inv_loop ret h
  | toDeregister t =>
    exact ⟨h.reboot, h.bounded, h.trying, by simp [withHistory, MainLoop.step], h.synced⟩
  | toRestart | clientRegistered | registeredCallback | clientUnregistered =>
    exact ⟨h.reboot, h.bounded, h.trying, h.left, h.synced⟩

theorem giveUp_netState (m : MainLoop) :
    m.giveUp.netState = m.netState ∨ m.giveUp.netState = .errorReboot ∨
      m.giveUp.netState = .error := by
  unfold giveUp
  split_ifs <;> simp

theorem initConnection_netState (ret : ConnectResult) (m : MainLoop) :
    (m.initConnection ret).netState = m.netState ∨ (m.initConnection ret).netState = .errorReboot ∨
      (m.initConnection ret).netState = .error := by
  cases ret with
  | success => exact .inl rfl
  | timeout | noMemory => exact giveUp_netState { m with errReboot := m.errReboot + 1 }
  | noNetworkInterface => exact .inr (.inl rfl)
  | failure =>
    rw [initConnection]
    split
    · exact .inl rfl
    · exact giveUp_netState { m with err := m.err + 1 }

theorem loop_connected {ret : ConnectResult} {m : MainLoop} (h : (m.loop ret).netState = .connected)
    (hm : m.netState ≠ .connected) : m.next = .syncTime ∧ (m.loop ret).next = .register := by
  unfold loop at h ⊢
  cases hnext : m.next with
  | syncTime =>
    simp only [hnext, syncTime] at h ⊢
    split at h
    · next hto => simp [hto]
    · exact absurd h hm
  | initConnection =>
    simp only [hnext] at h
    rcases initConnection_netState ret m with hn | hn | hn
    · exact absurd (hn.symm.trans h) hm
    · cases hn.symm.trans h
    · cases hn.symm.trans h
  | network =>
    simp only [hnext, network] at h
    split at h
    · cases h
    · dsimp only at h
      split_ifs at h
  | connect | established | register | disconnect | closing =>
    simp only [hnext, connect, established, register, disconnect, closing] at h
    split_ifs at h <;> exact absurd h hm
  | connectDone | pausing | closed | disconnectDone =>
    simp only [hnext] at h
    exact absurd h hm

theorem fair_of_inv (p : MainLoop × Request) (e : MainEvent) (h : Inv p) : Fair p e := by
  obtain ⟨m, r⟩ := p
  refine ⟨(inv_step (m, r) e h).bounded, fun hset => ?_, ?_⟩
  · by_cases hm : m.netState = .connected
    · exact .inl hm
    · cases e with
      | loop ret => exact .inr (loop_connected hset hm)
      | _ => exact absurd hset hm
  · rintro ⟨hnext, hset⟩
    refine ⟨h.synced hnext, ?_⟩
    cases e with
    | loop ret =>
      rw [MainLoop.step, loop, hnext] at hset
      dsimp only [syncTime] at hset
      split at hset
      · next hto => simpa using hto
      · exact absurd hset (by simp)
    | _ => exact absurd (hnext.symm.trans hset) (by simp)

theorem fair_run {m : MainLoop} (hnext : m.next = .connect) (herr : m.errReboot ≤ 3)
    (es : List MainEvent) :
    Throughout (withHistory MainLoop.step note) Fair (m, ⟨0, false, false⟩) es :=
  throughout_every_run inv_step fair_of_inv
    (inv_idle herr (Nat.zero_le _) (by simp [hnext]) (by simp [hnext]) (by simp [hnext])) es

theorem fair_run_failing :
    Throughout (withHistory MainLoop.step note) Fair
      ({ MainLoop.start with errReboot := 3 }, ⟨0, false, false⟩)
      [.toRestart, .loop .failure, .loop .failure, .toDeregister 2, .loop .failure, .loop .timeout] :=
  fair_run rfl (by decide) _

end SlcNode.ConnectLoop
