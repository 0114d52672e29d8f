import Mathlib.Logic.Function.Basic
import Mathlib.Data.List.Basic

namespace SlcNode.Stores

variable {α : Type*}

def storeAll (m : ℕ → α) (stores : List (ℕ × α)) : ℕ → α :=
  stores.foldl (fun m s => Function.update m s.1 s.2) m

def copy (pos : ℕ) : List α → List (ℕ × α)
  | [] => []
  | v :: vs => (pos, v) :: copy (pos + 1) vs

def view (n : ℕ) (m : ℕ → α) (k : Fin n) : α := m k

def put {n : ℕ} (a : Fin n → α) (s : ℕ × α) : Fin n → α := fun k => if k = s.1 then s.2 else a k

variable {m : ℕ → α} {stores : List (ℕ × α)} {pos k n : ℕ} {values : List α}

theorem storeAll_cons (m : ℕ → α) (s : ℕ × α) (stores : List (ℕ × α)) :
    storeAll m (s :: stores) = storeAll (Function.update m s.1 s.2) stores := rfl

theorem put_view (m : ℕ → α) (s : ℕ × α) :
    view n (Function.update m s.1 s.2) = put (view n m) s := by
  funext k
  simp only [view, put, Function.update_apply]

theorem view_storeAll (m : ℕ → α) (stores : List (ℕ × α)) :
    view n (storeAll m stores) = stores.foldl put (view n m) := by
  induction stores generalizing m with
  | nil => rfl
  | cons s stores ih => rw [storeAll_cons, ih, put_view, List.foldl_cons]

theorem put_of_le {a : Fin n → α} {s : ℕ × α} (h : n ≤ s.1) : put a s = a := by
  funext k
  exact if_neg (by omega)

theorem foldl_put_filter (a : Fin n → α) (stores : List (ℕ × α)) :
    (stores.filter (·.1 < n)).foldl put a = stores.foldl put a := by
  induction stores generalizing a with
  | nil => rfl
  | cons s stores ih =>
    rw [List.filter_cons, List.foldl_cons]
    split
    case isTrue h => rw [List.foldl_cons, ih]
    case isFalse h => rw [ih, put_of_le (Nat.le_of_not_lt fun hlt => h (decide_eq_true hlt))]

theorem storeAll_copy (m : ℕ → α) (pos : ℕ) (values : List α) (k : ℕ) :
    storeAll m (copy pos values) k = if pos ≤ k then values.getD (k - pos) (m k) else m k := by
  induction values generalizing m pos with
  | nil => simp [storeAll, copy]
  | cons v vs ih =>
    rw [copy, storeAll_cons, ih, Function.update_apply]
    rcases Nat.lt_trichotomy k pos with hlt | rfl | hgt
    · rw [if_neg (by omega), if_neg (by omega), if_neg (by omega)]
    · rw [if_neg (by omega), if_pos rfl, if_pos (Nat.le_refl _), Nat.sub_self, List.getD_cons_zero]
    · obtain ⟨d, rfl⟩ : ∃ d, k = pos + 1 + d := ⟨k - (pos + 1), by omega⟩
      have hd : pos + 1 + d - pos = d + 1 := by omega
      rw [if_pos (by omega), if_neg (by omega), if_pos (by omega), hd, Nat.add_sub_cancel_left,
        List.getD_cons_succ]

theorem pos_of_mem_copy {s : ℕ × α} (h : s ∈ copy pos values) :
    pos ≤ s.1 ∧ s.1 < pos + values.length := by
  induction values generalizing pos with
  | nil => cases h
  | cons v vs ih =>
    rw [List.length_cons]
    rcases List.mem_cons.mp h with rfl | h
    · dsimp only
      omega
    · have hs := ih h
      omega

end SlcNode.Stores
