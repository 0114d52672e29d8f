import Mathlib.Tactic.Common

namespace SlcNode

/-- A one-shot timer of the operating system together with the two flags a program keeps about
it: `launched`, set while the program believes the timer to run, and `trigger`, set by the expiry
callback. The period is that of the last start, `none` once stopped or expired. -/
structure OneShot (α : Type*) where
  period : Option α
  launched : Bool
  trigger : Bool
deriving DecidableEq

namespace OneShot

variable {α : Type*}

def idle : OneShot α := ⟨none, false, false⟩

def armed (t : OneShot α) : Bool := t.period.isSome

/-- The program stops the timer only when its own flag says that it runs. -/
def stop (t : OneShot α) : OneShot α :=
  { period := if t.launched then none else t.period, launched := false, trigger := false }

/-- Starting a running timer restarts it; the trigger of an earlier expiry stays. A start for a
period of zero is taken like any other: what becomes of it is the operating system's. -/
def launch (p : α) (t : OneShot α) : OneShot α :=
  { t with period := some p, launched := true }

def expire (t : OneShot α) : OneShot α :=
  if t.armed then { period := none, launched := false, trigger := true } else t

def consume (t : OneShot α) : OneShot α := { t with trigger := false }

def Exact (t : OneShot α) : Prop := t.launched = t.armed

def live (t : OneShot α) : Bool := t.armed || t.trigger

@[simp] theorem trigger_launch (p : α) (t : OneShot α) : (launch p t).trigger = t.trigger := rfl
@[simp] theorem trigger_stop (t : OneShot α) : t.stop.trigger = false := rfl
@[simp] theorem live_launch (p : α) (t : OneShot α) : (launch p t).live = true := rfl

@[simp] theorem live_expire (t : OneShot α) : t.expire.live = t.live := by
  unfold expire live
  split <;> simp_all [armed]

theorem exact_idle : Exact (idle : OneShot α) := rfl

theorem exact_launch (p : α) (t : OneShot α) : Exact (launch p t) := rfl

theorem exact_consume {t : OneShot α} (h : Exact t) : Exact t.consume := h

theorem exact_stop {t : OneShot α} (h : Exact t) : Exact t.stop := by
  unfold Exact armed at *
  cases hl : t.launched <;> simp_all [stop]

theorem exact_expire {t : OneShot α} (h : Exact t) : Exact t.expire := by
  unfold expire
  split
  · rfl
  · exact h

theorem armed_stop {t : OneShot α} (h : Exact t) : t.stop.armed = false := by
  unfold Exact armed at *
  cases hl : t.launched <;> simp_all [stop]

theorem live_stop {t : OneShot α} (h : Exact t) : t.stop.live = false := by
  simp [live, armed_stop h]

end OneShot

end SlcNode
