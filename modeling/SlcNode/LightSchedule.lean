import SlcNode.DateTime
import Mathlib.Data.List.FinRange
import Mathlib.Tactic.FinCases

namespace SlcNode

abbrev lightScheduleCountMax : ℕ := 6

structure ScheduleEntry where
  datetime : SlcDateTime
  enable : Byte
  dim : Byte
  repeatCount : Byte
deriving DecidableEq, Repr

namespace ScheduleEntry

def buff (e : ScheduleEntry) : List Byte :=
  [e.datetime.Y, e.datetime.M, e.datetime.D, e.datetime.WD, e.datetime.h, e.datetime.m,
    e.datetime.s, e.enable, e.dim, e.repeatCount]

def ofBuff (b : List Byte) : ScheduleEntry where
  datetime := ⟨b.getD 0 0, b.getD 1 0, b.getD 2 0, b.getD 3 0, b.getD 4 0, b.getD 5 0, b.getD 6 0⟩
  enable := b.getD 7 0
  dim := b.getD 8 0
  repeatCount := b.getD 9 0

theorem ofBuff_buff (e : ScheduleEntry) : ofBuff e.buff = e := rfl

def due (e : ScheduleEntry) (now : DateTime) : Bool :=
  e.enable != 0 && dateTimeMatch (some e.datetime) none now

def fired (e : ScheduleEntry) : ScheduleEntry :=
  if e.repeatCount = 0 then { e with enable := 0, dim := 0, datetime := ⟨0, 0, 0, 0, 0, 0, 0⟩ }
  else if e.repeatCount ≠ 0xFF then { e with repeatCount := e.repeatCount - 1 }
  else e

theorem fired_eq_self_iff {e : ScheduleEntry} (h : e.enable ≠ 0) :
    e.fired = e ↔ e.repeatCount = 0xFF := by
  obtain ⟨d, en, dim, r⟩ := e
  unfold fired
  split_ifs with h0 hff
  · constructor
    · intro he
      exact absurd (congrArg enable he).symm h
    · intro hr
      simp only at h0 hr
      rw [h0] at hr
      exact absurd hr (by decide)
  · constructor
    · intro he
      have hr : r - 1 = r := congrArg repeatCount he
      bv_omega
    · exact fun hr => absurd hr hff
  · exact ⟨fun _ => not_not.mp hff, fun _ => rfl⟩

theorem due_minute (e : ScheduleEntry) {t u : ℕ} (h : t / 60 = u / 60) :
    e.due (realTime t) = e.due (realTime u) := by
  rw [due, due, dateTimeMatch_minute e.datetime h]

theorem enable_of_due {e : ScheduleEntry} {now : DateTime} (h : e.due now = true) :
    e.enable ≠ 0 := by
  simp only [due, Bool.and_eq_true, bne_iff_ne] at h
  exact h.1

theorem due_fired {e : ScheduleEntry} (h : e.repeatCount ≠ 0) (now : DateTime) :
    e.fired.due now = e.due now := by
  unfold fired
  split_ifs <;> first | rfl | contradiction

end ScheduleEntry

abbrev ScheduleGroup := Fin lightScheduleCountMax → ScheduleEntry

namespace ScheduleGroup

def buffLen : ℕ := 60

def buff (g : ScheduleGroup) : List Byte :=
  (List.finRange lightScheduleCountMax).flatMap fun k => (g k).buff

def ofBuff (b : List Byte) : ScheduleGroup := fun k => ScheduleEntry.ofBuff (b.drop (10 * k))

theorem buff_length (g : ScheduleGroup) : (buff g).length = buffLen := rfl

theorem ofBuff_buff (g : ScheduleGroup) : ofBuff (buff g) = g := by
  funext k
  fin_cases k <;> rfl

def empty : ScheduleGroup := fun _ => ⟨⟨0, 0, 0, 0, 0, 0, 0⟩, 0, 0, 0⟩

theorem ofBuff_zero {b : List Byte} (h : ∀ x ∈ b, x = 0) : ofBuff b = empty := by
  have hget (k n : ℕ) : (b.drop k).getD n 0 = 0 := by
    rw [List.getD_eq_getElem?_getD, List.getElem?_drop]
    cases hx : b[k + n]? with
    | none => rfl
    | some x => exact h x (List.mem_of_getElem? hx)
  funext k
  simp only [ofBuff, ScheduleEntry.ofBuff, hget, empty]

end ScheduleGroup

end SlcNode
