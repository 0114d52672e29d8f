import Mathlib.Data.List.Basic

namespace SlcNode

structure Channel (α : Type*) where
  waiting : List α
  inFlight : List α
deriving DecidableEq

namespace Channel

variable {α : Type*}

def empty : Channel α := ⟨[], []⟩

def pending (c : Channel α) : List α := c.waiting ++ c.inFlight

def send (xs : List α) (c : Channel α) : Channel α := { c with inFlight := c.inFlight ++ xs }

def deliver (n : ℕ) (c : Channel α) : Channel α where
  waiting := c.waiting ++ c.inFlight.take n
  inFlight := c.inFlight.drop n

def receive (n : ℕ) (c : Channel α) : List α × Channel α :=
  (c.waiting.take n, { c with waiting := c.waiting.drop n })

@[simp] theorem pending_empty : (empty : Channel α).pending = [] := rfl

theorem pending_eq_nil_iff {c : Channel α} : c.pending = [] ↔ c = empty := by
  obtain ⟨ws, fs⟩ := c
  simp [pending, empty]

@[simp] theorem pending_send (xs : List α) (c : Channel α) :
    (c.send xs).pending = c.pending ++ xs := (List.append_assoc ..).symm

@[simp] theorem pending_deliver (n : ℕ) (c : Channel α) : (c.deliver n).pending = c.pending := by
  simp [pending, deliver]

theorem receive_append_pending (n : ℕ) (c : Channel α) :
    (c.receive n).1 ++ (c.receive n).2.pending = c.pending := by
  simp [receive, pending, ← List.append_assoc]

theorem receive_length (n : ℕ) (c : Channel α) :
    (c.receive n).1.length = min n c.waiting.length := List.length_take

theorem deliver_send_empty (n : ℕ) (xs : List α) :
    ((empty.send xs).deliver n).waiting = xs.take n := rfl

end Channel

end SlcNode
