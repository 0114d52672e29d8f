import Mathlib.Data.List.TakeWhile
import Mathlib.Algebra.BigOperators.Group.List.Basic
import Mathlib.Algebra.GroupWithZero.Nat

namespace SlcNode

structure Layout (κ : Type*) where
  order : List κ
  len : κ → ℕ
  nodup : order.Nodup
  complete : ∀ f, f ∈ order

namespace Layout

variable {κ α : Type*}

def size (L : Layout κ) : ℕ := (L.order.map L.len).sum

def build (L : Layout κ) (content : κ → List α) : List α := L.order.flatMap content

variable [DecidableEq κ]

def offset (L : Layout κ) (f : κ) : ℕ := ((L.order.takeWhile (· ≠ f)).map L.len).sum

def slice (L : Layout κ) (f : κ) (b : List α) : List α := (b.drop (L.offset f)).take (L.len f)

variable {L : Layout κ} {f g : κ} {content : κ → List α} {b b' : List α} {before after : List κ}

omit [DecidableEq κ] in
theorem notMem_before (horder : L.order = before ++ f :: after) : f ∉ before := by
  have hnodup := L.nodup
  rw [horder] at hnodup
  exact fun h => (List.nodup_append.mp hnodup).2.2 f h f List.mem_cons_self rfl

theorem offset_eq (horder : L.order = before ++ f :: after) :
    L.offset f = (before.map L.len).sum := by
  have hall : ∀ g ∈ before, decide (g ≠ f) = true := by
    intro g hg
    refine decide_eq_true ?_
    rintro rfl
    exact notMem_before horder hg
  rw [offset, horder, List.takeWhile_append_of_pos hall,
    List.takeWhile_cons_of_neg (by simp), List.append_nil]

theorem offset_next (horder : L.order = before ++ f :: g :: after) :
    L.offset g = L.offset f + L.len f := by
  have hsplit : L.order = (before ++ [f]) ++ g :: after := by
    rw [horder, List.append_assoc, List.singleton_append]
  rw [offset_eq horder, offset_eq hsplit, List.map_append, List.sum_append, List.map_singleton,
    List.sum_singleton]

theorem offset_last (horder : L.order = before ++ [f]) : L.offset f + L.len f = L.size := by
  rw [offset_eq horder, size, horder, List.map_append, List.sum_append, List.map_singleton,
    List.sum_singleton]

theorem offset_add_len_le (L : Layout κ) (f : κ) : L.offset f + L.len f ≤ L.size := by
  obtain ⟨before, after, horder⟩ := List.append_of_mem (L.complete f)
  rw [offset_eq horder, size, horder, List.map_append, List.sum_append, List.map_cons,
    List.sum_cons]
  omega

theorem le_offset_of_mem (horder : L.order = before ++ f :: after) (hg : g ∈ after) :
    L.offset f + L.len f ≤ L.offset g := by
  obtain ⟨between, rest, rfl⟩ := List.append_of_mem hg
  have hsplit : L.order = (before ++ f :: between) ++ g :: rest := by
    rw [horder, List.append_assoc, List.cons_append]
  rw [offset_eq horder, offset_eq hsplit, List.map_append, List.sum_append, List.map_cons,
    List.sum_cons]
  omega

theorem disjoint (h : f ≠ g) :
    L.offset f + L.len f ≤ L.offset g ∨ L.offset g + L.len g ≤ L.offset f := by
  obtain ⟨before, after, horder⟩ := List.append_of_mem (L.complete f)
  have hg := L.complete g
  rw [horder, List.mem_append, List.mem_cons] at hg
  rcases hg with hg | rfl | hg
  · obtain ⟨first, between, rfl⟩ := List.append_of_mem hg
    rw [List.append_assoc, List.cons_append] at horder
    exact .inr (le_offset_of_mem horder (List.mem_append_right between List.mem_cons_self))
  · exact absurd rfl h
  · exact .inl (le_offset_of_mem horder hg)

omit [DecidableEq κ] in
theorem flatMap_length (hlen : ∀ f, (content f).length = L.len f) (fs : List κ) :
    (fs.flatMap content).length = (fs.map L.len).sum := by
  rw [List.length_flatMap]
  exact congrArg List.sum (List.map_congr_left fun f _ => hlen f)

omit [DecidableEq κ] in
theorem build_length (hlen : ∀ f, (content f).length = L.len f) :
    (L.build content).length = L.size := flatMap_length hlen _

theorem slice_build (hlen : ∀ f, (content f).length = L.len f) (f : κ) :
    L.slice f (L.build content) = content f := by
  obtain ⟨before, after, horder⟩ := List.append_of_mem (L.complete f)
  rw [slice, build, offset_eq horder, horder, List.flatMap_append, List.flatMap_cons,
    ← flatMap_length hlen before, List.drop_left, ← hlen f, List.take_left]

theorem slice_congr (h : ∀ i, L.offset f ≤ i → i < L.offset f + L.len f → b[i]? = b'[i]?) :
    L.slice f b = L.slice f b' := by
  refine List.ext_getElem? fun i => ?_
  rw [slice, slice, List.getElem?_take, List.getElem?_take]
  split
  · rw [List.getElem?_drop, List.getElem?_drop]
    exact h _ (Nat.le_add_right _ _) (by omega)
  · rfl

theorem slice_of_ne (hne : f ≠ g)
    (h : ∀ i, ¬(L.offset g ≤ i ∧ i < L.offset g + L.len g) → b[i]? = b'[i]?) :
    L.slice f b = L.slice f b' := by
  have hdisjoint := L.disjoint hne
  exact slice_congr fun i hle hlt => h i (by omega)

end Layout

end SlcNode
