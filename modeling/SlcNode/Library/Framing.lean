import Mathlib.Data.List.Infix
import Mathlib.Data.List.Rotate
import SlcNode.Library.EventRun

namespace SlcNode

open EventRun

variable {α : Type*} [DecidableEq α]

structure Framing (α : Type*) where
  first : α
  last : α
  length : ℕ
  two_le : 2 ≤ length

namespace Framing

/-- A block opens with the first mark; a frame also closes with the last one. -/
structure IsBlock (F : Framing α) (w : List α) : Prop where
  length : w.length = F.length
  head : w.head? = some F.first

def Closed (F : Framing α) (w : List α) : Prop := w.getLast? = some F.last

instance (F : Framing α) (w : List α) : Decidable (F.Closed w) :=
  inferInstanceAs (Decidable (_ = _))

def IsFrame (F : Framing α) (w : List α) : Prop := F.IsBlock w ∧ F.Closed w

structure Receiver (α : Type*) where
  window : List α
  published : List (List α)

def idle (p : List (List α)) : Receiver α := ⟨[], p⟩

def publish (F : Framing α) (w : List α) (p : List (List α)) : List (List α) :=
  if F.Closed w then p ++ [w] else p

def receive (F : Framing α) (r : Receiver α) (a : α) : Receiver α :=
  if r.window = [] then
    if a = F.first then { r with window := [a] } else r
  else
    let w := r.window ++ [a]
    if w.length < F.length then { r with window := w } else idle (F.publish w r.published)

variable {F : Framing α} {p : List (List α)} {w xs : List α}

theorem receive_first : F.receive (idle p) F.first = ⟨[F.first], p⟩ := by
  simp [receive, idle]

theorem receive_other {a : α} (h : a ≠ F.first) : F.receive (idle p) a = idle p := by
  simp [receive, idle, h]

theorem receive_more {a : α} (hw : w ≠ []) (h : w.length + 1 < F.length) :
    F.receive ⟨w, p⟩ a = ⟨w ++ [a], p⟩ := by
  simp [receive, hw, h]

theorem receive_last {a : α} (hw : w ≠ []) (h : w.length + 1 = F.length) :
    F.receive ⟨w, p⟩ a = idle (F.publish (w ++ [a]) p) := by
  simp [receive, hw, h]

theorem run_gap (h : F.first ∉ xs) : run F.receive (idle p) xs = idle p := by
  induction xs with
  | nil => rfl
  | cons a xs ih =>
    obtain ⟨ha, hxs⟩ := not_or.mp (mt List.mem_cons.mpr h)
    rw [run_cons, receive_other (Ne.symm ha)]
    exact ih hxs

theorem run_window (hw : w ≠ []) (h : w.length + xs.length < F.length) :
    run F.receive ⟨w, p⟩ xs = ⟨w ++ xs, p⟩ := by
  induction xs generalizing w with
  | nil => rw [run_nil, List.append_nil]
  | cons a xs ih =>
    have hlen : (w ++ [a]).length + xs.length < F.length := by
      simp only [List.length_append, List.length_cons, List.length_nil] at h ⊢
      omega
    rw [List.length_cons] at h
    rw [run_cons, receive_more hw (by omega), ih (by simp) hlen, List.append_assoc,
      List.singleton_append]

theorem run_close (hw : w ≠ []) (hx : xs ≠ []) (h : w.length + xs.length = F.length) :
    run F.receive ⟨w, p⟩ xs = idle (F.publish (w ++ xs) p) := by
  obtain ⟨ys, a, rfl⟩ := (List.eq_nil_or_concat xs).resolve_left hx
  rw [List.length_concat] at h
  have hlen : (w ++ ys).length + 1 = F.length := by
    rw [List.length_append]
    omega
  rw [List.concat_eq_append, run_append, run_window hw (by omega), run_cons, run_nil,
    receive_last (List.append_ne_nil_of_left_ne_nil hw ys) hlen, List.append_assoc]

theorem run_open (h : w.head? = some F.first) (hlen : w.length < F.length) :
    run F.receive (idle p) w = ⟨w, p⟩ := by
  obtain ⟨ws, rfl⟩ := List.head?_eq_some_iff.mp h
  rw [List.length_cons] at hlen
  rw [run_cons, receive_first, run_window (List.cons_ne_nil _ _), List.singleton_append]
  rw [List.length_singleton]
  omega

theorem run_block (h : F.IsBlock w) : run F.receive (idle p) w = idle (F.publish w p) := by
  obtain ⟨ws, rfl⟩ := List.head?_eq_some_iff.mp h.head
  have hlen := h.length
  have htwo := F.two_le
  rw [List.length_cons] at hlen
  have hws : ws ≠ [] := by
    rintro rfl
    rw [List.length_nil] at hlen
    omega
  rw [run_cons, receive_first, run_close (List.cons_ne_nil _ _) hws, List.singleton_append]
  rw [List.length_singleton]
  omega

theorem run_frame (h : F.IsFrame w) : run F.receive (idle p) w = idle (p ++ [w]) := by
  rw [run_block h.1, publish, if_pos h.2]

theorem run_frames {items : List (List α × List α)} {tail : List α}
    (hgap : ∀ x ∈ items, F.first ∉ x.1) (hframe : ∀ x ∈ items, F.IsFrame x.2)
    (htail : F.first ∉ tail) :
    run F.receive (idle p) (items.flatMap (fun x => x.1 ++ x.2) ++ tail) =
      idle (p ++ items.map Prod.snd) := by
  induction items generalizing p with
  | nil => rw [List.flatMap_nil, List.nil_append, run_gap htail, List.map_nil, List.append_nil]
  | cons x items ih =>
    obtain ⟨hg, hgap⟩ := List.forall_mem_cons.mp hgap
    obtain ⟨hf, hframe⟩ := List.forall_mem_cons.mp hframe
    rw [List.flatMap_cons, List.append_assoc, List.append_assoc, run_append, run_gap hg, run_append,
      run_frame hf, ih hgap hframe, List.map_cons, List.append_assoc, List.singleton_append]

def Splits (F : Framing α) (stream : List α) (r : Receiver α) : Prop :=
  ∃ (items : List (List α × List α)) (rest : List α),
    stream = items.flatMap (fun x => x.1 ++ x.2) ++ rest ++ r.window ∧
    items.map Prod.snd = r.published ∧ (∀ x ∈ items, F.IsFrame x.2) ∧
    (r.window ≠ [] → r.window.head? = some F.first) ∧ r.window.length < F.length

variable {stream : List α} {r : Receiver α}

theorem splits_receive (h : F.Splits stream r) (a : α) :
    F.Splits (stream ++ [a]) (F.receive r a) := by
  obtain ⟨items, rest, rfl, hpub, hframe, hhead, hlen⟩ := h
  obtain ⟨w, p⟩ := r
  dsimp only at hpub hhead hlen ⊢
  have htwo := F.two_le
  by_cases hw : w = []
  · subst hw
    by_cases ha : a = F.first
    · subst ha
      rw [show (⟨[], p⟩ : Receiver α) = idle p from rfl, receive_first]
      exact ⟨items, rest, by simp, hpub, hframe, fun _ => rfl, by simp only [List.length_singleton]; omega⟩
    · rw [show (⟨[], p⟩ : Receiver α) = idle p from rfl, receive_other ha]
      exact ⟨items, rest ++ [a], by simp [idle], hpub, hframe, hhead, hlen⟩
  · have hhead' : (w ++ [a]).head? = some F.first := by
      rw [List.head?_append_of_ne_nil _ hw, hhead hw]
    by_cases hmore : w.length + 1 < F.length
    · rw [receive_more hw hmore]
      exact ⟨items, rest, by simp, hpub, hframe, fun _ => hhead', by
        rwa [List.length_append, List.length_singleton]⟩
    · have hfull : w.length + 1 = F.length := by omega
      rw [receive_last hw hfull, publish]
      split
      case isTrue hclosed =>
        have hblock : F.IsBlock (w ++ [a]) := by
          refine ⟨?_, hhead'⟩
          rw [List.length_append, List.length_singleton, hfull]
        refine ⟨items ++ [(rest, w ++ [a])], [], by simp [idle], ?_, ?_, fun h => absurd rfl h,
          Nat.lt_of_lt_of_le Nat.two_pos F.two_le⟩
        · rw [List.map_append, hpub]
          rfl
        · intro x hx
          rcases List.mem_append.mp hx with hx | hx
          · exact hframe x hx
          · rw [List.mem_singleton.mp hx]
            exact ⟨hblock, hclosed⟩
      case isFalse =>
        exact ⟨items, rest ++ w ++ [a], by simp [idle], hpub, hframe, fun h => absurd rfl h,
          Nat.lt_of_lt_of_le Nat.two_pos F.two_le⟩

theorem splits_run (F : Framing α) (stream : List α) :
    F.Splits stream (run F.receive (idle []) stream) := by
  induction stream using List.reverseRecOn with
  | nil =>
    have hpos : 0 < F.length := Nat.lt_of_lt_of_le Nat.two_pos F.two_le
    exact ⟨[], [], rfl, rfl, fun _ h => absurd h List.not_mem_nil, fun h => absurd rfl h, hpos⟩
  | append_singleton stream a ih =>
    rw [run_append, run_cons, run_nil]
    exact splits_receive ih a

end Framing

end SlcNode
