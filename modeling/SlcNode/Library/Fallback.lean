import Mathlib.Data.List.Basic

namespace SlcNode.Fallback

variable {α β : Type*}

def ask (attempt : α → Bool × β) : List α → β → β × List α
  | [], last => (last, [])
  | a :: as, _ =>
    if (attempt a).1 then ((attempt a).2, [a])
    else
      let r := ask attempt as (attempt a).2
      (r.1, a :: r.2)

def Answer (attempt : α → Bool × β) (as : List α) (last : β) (r : β × List α) : Prop :=
  (∃ pre a post, as = pre ++ a :: post ∧ (∀ b ∈ pre, (attempt b).1 = false) ∧
      (attempt a).1 = true ∧ r = ((attempt a).2, pre ++ [a])) ∨
    (∀ b ∈ as, (attempt b).1 = false) ∧ r = ((as.map fun b => (attempt b).2).getLastD last, as)

variable {attempt exact : α → Bool × β} {as : List α} {last : β}

theorem ask_accepted {a : α} (h : (attempt a).1 = true) (as : List α) (last : β) :
    ask attempt (a :: as) last = ((attempt a).2, [a]) := if_pos h

theorem ask_refused {a : α} (h : (attempt a).1 = false) (as : List α) (last : β) :
    ask attempt (a :: as) last =
      ((ask attempt as (attempt a).2).1, a :: (ask attempt as (attempt a).2).2) :=
  if_neg (by simp [h])

theorem tried_prefix (attempt : α → Bool × β) (as : List α) (last : β) :
    (ask attempt as last).2 <+: as := by
  induction as generalizing last with
  | nil => exact List.prefix_rfl
  | cons a as ih =>
    cases h : (attempt a).1 with
    | true =>
      rw [ask_accepted h]
      exact ⟨as, rfl⟩
    | false =>
      rw [ask_refused h]
      exact List.prefix_cons_inj a |>.mpr (ih _)

theorem answer_ask (attempt : α → Bool × β) (as : List α) (last : β) :
    Answer attempt as last (ask attempt as last) := by
  induction as generalizing last with
  | nil => exact .inr ⟨by simp, rfl⟩
  | cons a as ih =>
    cases h : (attempt a).1 with
    | true =>
      rw [ask_accepted h]
      exact .inl ⟨[], a, as, rfl, by simp, h, rfl⟩
    | false =>
      rw [ask_refused h]
      rcases ih (attempt a).2 with ⟨pre, b, post, rfl, hpre, hb, hr⟩ | ⟨hall, hr⟩
      · refine .inl ⟨a :: pre, b, post, rfl, List.forall_mem_cons.mpr ⟨h, hpre⟩, hb, ?_⟩
        rw [hr]
        rfl
      · refine .inr ⟨List.forall_mem_cons.mpr ⟨h, hall⟩, ?_⟩
        rw [hr, List.map_cons, List.getLastD_cons]

theorem ask_first {pre : List α} {a : α} (hpre : ∀ b ∈ pre, (attempt b).1 = false)
    (ha : (attempt a).1 = true) (post : List α) (last : β) :
    ask attempt (pre ++ a :: post) last = ((attempt a).2, pre ++ [a]) := by
  induction pre generalizing last with
  | nil => exact ask_accepted ha post last
  | cons b pre ih =>
    obtain ⟨hb, hpre⟩ := List.forall_mem_cons.mp hpre
    rw [List.cons_append, ask_refused hb, ih hpre]
    rfl

theorem ask_none (h : ∀ b ∈ as, (attempt b).1 = false) (last : β) :
    ask attempt as last = ((as.map fun b => (attempt b).2).getLastD last, as) := by
  induction as generalizing last with
  | nil => rfl
  | cons b as ih =>
    obtain ⟨hb, has⟩ := List.forall_mem_cons.mp h
    rw [ask_refused hb, ih has, List.map_cons, List.getLastD_cons]

theorem answer_iff {r : β × List α} : Answer attempt as last r ↔ r = ask attempt as last := by
  constructor
  · rintro (⟨pre, a, post, rfl, hpre, ha, rfl⟩ | ⟨hall, rfl⟩)
    · exact (ask_first hpre ha post last).symm
    · exact (ask_none hall last).symm
  · rintro rfl
    exact answer_ask attempt as last

/-- Two rules of acceptance of which one accepts less, and gives the same where both accept or
refuse. They find the same just if it accepts what the other accepts first. -/
theorem ask_eq_iff (haccept : ∀ a, (exact a).1 = true → attempt a = exact a)
    (hrefuse : ∀ a, (attempt a).1 = false → attempt a = exact a)
    (hdiffer : ∀ a, (attempt a).1 = true → (exact a).1 = false → (attempt a).2 ≠ (exact a).2)
    (as : List α) (last : β) :
    ask attempt as last = ask exact as last ↔
      ∀ a, as.find? (fun a => (attempt a).1) = some a → (exact a).1 = true := by
  induction as generalizing last with
  | nil => simp [ask]
  | cons a as ih =>
    cases hattempt : (attempt a).1 with
    | false =>
      have heq := hrefuse a hattempt
      rw [ask_refused hattempt, ask_refused (heq ▸ hattempt), ← heq,
        List.find?_cons_of_neg (by simp [hattempt]), ← ih (attempt a).2]
      simp [Prod.ext_iff]
    | true =>
      rw [ask_accepted hattempt, List.find?_cons_of_pos (p := fun a => (attempt a).1) hattempt]
      cases hexact : (exact a).1 with
      | true =>
        rw [ask_accepted hexact, haccept a hexact]
        simp [hexact]
      | false =>
        rw [ask_refused hexact]
        simp only [Option.some_inj, forall_eq', hexact, Bool.false_eq_true, iff_false]
        intro heq
        obtain ⟨hvalue, htried⟩ := Prod.mk.inj heq
        cases as with
        | nil => exact hdiffer a hattempt hexact hvalue
        | cons b as =>
          have hnil := (List.cons.inj htried).2
          cases hb : (exact b).1 with
          | true =>
            rw [ask_accepted hb] at hnil
            exact absurd hnil.symm (List.cons_ne_nil _ _)
          | false =>
            rw [ask_refused hb] at hnil
            exact absurd hnil.symm (List.cons_ne_nil _ _)

end SlcNode.Fallback
