import SlcNode.DateTime
import SlcNode.Library.EventRun
import Mathlib.Data.List.Induction
import Mathlib.Data.Stream.Init

namespace SlcNode

def civilYear (t : ℕ) : ℕ :=
  let days := t / 86400
  let z := days + 719468
  let doe := z % 146097
  let yoe := (doe - doe / 1460 + doe / 36524 - doe / 146096) / 365
  let doy := doe - (365 * yoe + yoe / 4 - yoe / 100)
  let mp := (5 * doy + 2) / 153
  let month := if mp < 10 then mp + 3 else mp - 9
  yoe + z / 146097 * 400 + if month ≤ 2 then 1 else 0

namespace TimeSync

open EventRun

def wouldBlock : ℤ := -3001

def noSocket : ℤ := -3005

def dnsFailure : ℤ := -3009

def deviceError : ℤ := -3012

inductive Sync
  | trying (timeout retry : ℕ)
  | returned (ret : ℤ)
deriving DecidableEq

structure Turn where
  terminate : Bool
  timestamp : ℤ

def checkRetry (timestamp : ℤ) (timeout retry : ℕ) : Sync :=
  if 10 ≤ retry then .returned (BitVec.ofInt 32 timestamp).toInt else .trying timeout retry

def afterError (timestamp : ℤ) (timeout retry : ℕ) : Sync :=
  if timestamp = wouldBlock then
    if 6000 < timeout + 200 then checkRetry timestamp 6000 (retry + 1)
    else checkRetry timestamp (timeout + 200) retry
  else if timestamp = noSocket then .returned noSocket
  else if timestamp = deviceError then .returned deviceError
  else if timestamp = dnsFailure then checkRetry timestamp timeout (retry + 1)
  else checkRetry timestamp timeout retry

def syncTurn : Sync → Turn → Sync
  | .returned ret, _ => .returned ret
  | .trying timeout retry, turn =>
    if turn.terminate then .returned 0
    else if turn.timestamp < 0 then afterError turn.timestamp timeout retry
    else if 2018 < civilYear turn.timestamp.toNat then .returned 0
    else .trying timeout retry

def syncStart (net : Bool) : Sync := if net then .trying 3600 0 else .returned (-1)

def syncRealTime (net : Bool) (timestamps : List ℤ) : Sync :=
  run syncTurn (syncStart net) (timestamps.map (Turn.mk false))

def Ends (net : Bool) (timestamps : Stream' ℤ) : Prop :=
  (∃ ret, syncRealTime net (timestamps.take 64) = .returned ret) ∧
    ∀ n timeout retry, syncRealTime net (timestamps.take n) = .trying timeout retry →
      3600 ≤ timeout ∧ timeout ≤ 6000

def Settles (timestamp : ℤ) : Prop :=
  (0 ≤ timestamp ∧ 2018 < civilYear timestamp.toNat) ∨ timestamp = noSocket ∨
    timestamp = deviceError

/-- The failures that count: of the name service all, of blocking those after the twelfth, by
which the timeout has grown to its limit. -/
def retries (timestamps : List ℤ) : ℕ :=
  timestamps.count dnsFailure + (timestamps.count wouldBlock - 12)

def Settled (timestamps : List ℤ) : Prop :=
  (∃ timestamp ∈ timestamps, Settles timestamp) ∨ 10 ≤ retries timestamps

def timeoutAfter (timestamps : List ℤ) : ℕ := min 6000 (3600 + 200 * timestamps.count wouldBlock)

theorem syncRealTime_append (net : Bool) (timestamps : List ℤ) (timestamp : ℤ) :
    syncRealTime net (timestamps ++ [timestamp]) =
      syncTurn (syncRealTime net timestamps) ⟨false, timestamp⟩ := by
  rw [syncRealTime, List.map_append, run_append]
  rfl

theorem count_snoc (timestamps : List ℤ) (timestamp code : ℤ) :
    (timestamps ++ [timestamp]).count code =
      timestamps.count code + if timestamp = code then 1 else 0 := by
  rw [List.count_append, List.count_singleton]
  simp only [beq_iff_eq]

theorem settled_snoc {timestamps : List ℤ} {timestamp : ℤ} :
    Settled (timestamps ++ [timestamp]) ↔
      (∃ t ∈ timestamps, Settles t) ∨ Settles timestamp ∨ 10 ≤ retries (timestamps ++ [timestamp]) := by
  simp only [Settled, List.mem_append, List.mem_singleton, or_and_right, exists_or, exists_eq_left,
    or_assoc]

def Stands (s : Sync) (timestamps : List ℤ) : Prop :=
  ((∃ ret, s = .returned ret) ∧ Settled timestamps) ∨
    (s = .trying (timeoutAfter timestamps) (retries timestamps) ∧ ¬ Settled timestamps)

section Turn

variable {timestamps : List ℤ} {timestamp : ℤ}

theorem stands_returned (ret : ℤ) (h : Settles timestamp) :
    Stands (.returned ret) (timestamps ++ [timestamp]) :=
  .inl ⟨⟨ret, rfl⟩, settled_snoc.mpr (.inr (.inl h))⟩

theorem stands_checkRetry (h : ¬ Settled timestamps) (hts : ¬ Settles timestamp) :
    Stands (checkRetry timestamp (timeoutAfter (timestamps ++ [timestamp]))
      (retries (timestamps ++ [timestamp]))) (timestamps ++ [timestamp]) := by
  have hno := (not_or.mp h).1
  rw [checkRetry]
  split
  · next hge => exact .inl ⟨⟨_, rfl⟩, settled_snoc.mpr (.inr (.inr hge))⟩
  · next hlt =>
    refine .inr ⟨rfl, fun hsettled => ?_⟩
    rcases settled_snoc.mp hsettled with hs | hs | hs
    · exact hno hs
    · exact hts hs
    · exact hlt hs

theorem retries_snoc (timestamps : List ℤ) (timestamp : ℤ) :
    retries (timestamps ++ [timestamp]) =
      (timestamps.count dnsFailure + if timestamp = dnsFailure then 1 else 0) +
        ((timestamps.count wouldBlock + if timestamp = wouldBlock then 1 else 0) - 12) := by
  rw [retries, count_snoc, count_snoc]

theorem timeoutAfter_snoc (timestamps : List ℤ) (timestamp : ℤ) :
    timeoutAfter (timestamps ++ [timestamp]) =
      min 6000 (3600 + 200 * (timestamps.count wouldBlock +
        if timestamp = wouldBlock then 1 else 0)) := by
  rw [timeoutAfter, count_snoc]

theorem stands_afterError (h : ¬ Settled timestamps) (hneg : timestamp < 0) :
    Stands (afterError timestamp (timeoutAfter timestamps) (retries timestamps))
      (timestamps ++ [timestamp]) := by
  have hsettles : Settles timestamp → timestamp = noSocket ∨ timestamp = deviceError := by
    rintro (⟨hnonneg, -⟩ | hcode)
    · omega
    · exact hcode
  have hcheck := fun hno : ¬ Settles timestamp => stands_checkRetry h hno
  rw [retries_snoc, timeoutAfter_snoc] at hcheck
  rw [afterError]
  by_cases hblock : timestamp = wouldBlock
  · have hdns : timestamp ≠ dnsFailure := by
      rw [hblock]
      decide
    have hno : ¬ Settles timestamp := fun hs => by
      rw [hblock] at hsettles hs
      exact absurd (hsettles hs) (by decide)
    have hcheck := hcheck hno
    rw [if_neg hdns, if_pos hblock, Nat.add_zero] at hcheck
    rw [if_pos hblock, timeoutAfter, retries]
    split
    · next hlimit =>
      convert hcheck using 2
      · omega
      · omega
    · next hbelow =>
      convert hcheck using 2
      · omega
      · omega
  · rw [if_neg hblock]
    by_cases hsocket : timestamp = noSocket
    · rw [if_pos hsocket]
      exact stands_returned noSocket (.inr (.inl hsocket))
    · rw [if_neg hsocket]
      by_cases hdevice : timestamp = deviceError
      · rw [if_pos hdevice]
        exact stands_returned deviceError (.inr (.inr hdevice))
      · have hcheck := hcheck fun hs => (hsettles hs).elim hsocket hdevice
        rw [if_neg hblock, Nat.add_zero] at hcheck
        rw [if_neg hdevice, timeoutAfter, retries]
        by_cases hdns : timestamp = dnsFailure
        · rw [if_pos hdns] at hcheck ⊢
          convert hcheck using 2
          omega
        · rw [if_neg hdns] at hcheck ⊢
          exact hcheck

theorem stands_turn (h : ¬ Settled timestamps) (timestamp : ℤ) :
    Stands (syncTurn (.trying (timeoutAfter timestamps) (retries timestamps)) ⟨false, timestamp⟩)
      (timestamps ++ [timestamp]) := by
  rw [syncTurn, if_neg (by simp)]
  by_cases hneg : timestamp < 0
  · rw [if_pos hneg]
    exact stands_afterError h hneg
  · rw [if_neg hneg]
    by_cases hreal : 2018 < civilYear timestamp.toNat
    · rw [if_pos hreal]
      exact stands_returned 0 (.inl ⟨not_lt.mp hneg, hreal⟩)
    · have hcodes : timestamp ≠ dnsFailure ∧ timestamp ≠ wouldBlock ∧ timestamp ≠ noSocket ∧
          timestamp ≠ deviceError := by
        unfold dnsFailure wouldBlock noSocket deviceError
        omega
      obtain ⟨hdns, hblock, hsocket, hdevice⟩ := hcodes
      have hr : retries (timestamps ++ [timestamp]) = retries timestamps := by
        rw [retries_snoc, if_neg hdns, if_neg hblock, Nat.add_zero, Nat.add_zero, retries]
      have ht : timeoutAfter (timestamps ++ [timestamp]) = timeoutAfter timestamps := by
        rw [timeoutAfter_snoc, if_neg hblock, Nat.add_zero, timeoutAfter]
      rw [if_neg hreal]
      refine .inr ⟨by rw [hr, ht], fun hsettled => ?_⟩
      rcases settled_snoc.mp hsettled with hs | (⟨-, hs⟩ | hs | hs) | hs
      · exact h (.inl hs)
      · exact hreal hs
      · exact hsocket hs
      · exact hdevice hs
      · exact h (.inr (hr ▸ hs))

end Turn

theorem settled_append {timestamps : List ℤ} (h : Settled timestamps) (timestamp : ℤ) :
    Settled (timestamps ++ [timestamp]) := by
  rcases h with hs | hs
  · exact settled_snoc.mpr (.inl hs)
  · refine settled_snoc.mpr (.inr (.inr ?_))
    rw [retries] at hs
    rw [retries_snoc]
    omega

theorem stands_syncRealTime (timestamps : List ℤ) :
    Stands (syncRealTime true timestamps) timestamps := by
  induction timestamps using List.reverseRecOn with
  | nil => exact .inr ⟨rfl, by simp [Settled, retries]⟩
  | append_singleton timestamps timestamp ih =>
    rw [syncRealTime_append]
    rcases ih with ⟨⟨ret, hret⟩, hsettled⟩ | ⟨htrying, hsettled⟩
    · rw [hret]
      exact .inl ⟨⟨ret, rfl⟩, settled_append hsettled timestamp⟩
    · rw [htrying]
      exact stands_turn hsettled timestamp

theorem syncRealTime_offline (timestamps : List ℤ) :
    syncRealTime false timestamps = .returned (-1) := by
  induction timestamps using List.reverseRecOn with
  | nil => rfl
  | append_singleton timestamps timestamp ih =>
    rw [syncRealTime_append, ih]
    rfl

theorem timeout_bounds {timestamps : List ℤ} {timeout retry : ℕ}
    (h : syncRealTime true timestamps = .trying timeout retry) : 3600 ≤ timeout ∧ timeout ≤ 6000 := by
  rcases stands_syncRealTime timestamps with ⟨⟨ret, hret⟩, -⟩ | ⟨htrying, -⟩
  · exact absurd (hret.symm.trans h) (by simp)
  · obtain ⟨rfl, rfl⟩ := Sync.trying.inj (htrying.symm.trans h)
    rw [timeoutAfter]
    omega

theorem returned_iff (timestamps : List ℤ) :
    (∃ ret, syncRealTime true timestamps = .returned ret) ↔ Settled timestamps := by
  rcases stands_syncRealTime timestamps with ⟨hret, hsettled⟩ | ⟨htrying, hsettled⟩
  · exact iff_of_true hret hsettled
  · refine iff_of_false ?_ hsettled
    rintro ⟨ret, hret⟩
    exact absurd (htrying.symm.trans hret) (by simp)

theorem ends_iff (net : Bool) (timestamps : Stream' ℤ) :
    Ends net timestamps ↔ net = false ∨ Settled (timestamps.take 64) := by
  cases net with
  | false =>
    refine iff_of_true ⟨⟨-1, syncRealTime_offline _⟩, fun n timeout retry h => ?_⟩ (.inl rfl)
    rw [syncRealTime_offline] at h
    exact absurd h (by simp)
  | true =>
    rw [Ends, returned_iff, and_iff_left fun n timeout retry h => timeout_bounds h]
    simp

theorem never_ends : ¬ Ends true (Stream'.const (-3004)) := by
  rintro ⟨⟨ret, hret⟩, -⟩
  have htrying : syncRealTime true ((Stream'.const (-3004)).take 64) = .trying 3600 0 := by
    decide +kernel
  exact absurd (htrying.symm.trans hret) (by simp)

end TimeSync

end SlcNode
