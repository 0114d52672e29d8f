import Mathlib.Data.List.Basic

namespace SlcNode.EventRun

variable {σ ε η : Type*}

def run (step : σ → ε → σ) (s : σ) (es : List ε) : σ := es.foldl step s

def Throughout (step : σ → ε → σ) (R : σ → ε → Prop) : σ → List ε → Prop
  | _, [] => True
  | s, e :: es => R s e ∧ Throughout step R (step s e) es

variable {step : σ → ε → σ} {R G P : σ → ε → Prop} {Inv : σ → Prop}

@[simp] theorem run_nil (s : σ) : run step s [] = s := rfl

@[simp] theorem run_cons (s : σ) (e : ε) (es : List ε) :
    run step s (e :: es) = run step (step s e) es := rfl

theorem run_append (s : σ) (es fs : List ε) :
    run step s (es ++ fs) = run step (run step s es) fs := List.foldl_append

@[simp] theorem throughout_nil (s : σ) : Throughout step R s [] := trivial

@[simp] theorem throughout_cons (s : σ) (e : ε) (es : List ε) :
    Throughout step R s (e :: es) ↔ R s e ∧ Throughout step R (step s e) es := Iff.rfl

theorem throughout_append {s : σ} {es fs : List ε} :
    Throughout step R s (es ++ fs) ↔
      Throughout step R s es ∧ Throughout step R (run step s es) fs := by
  induction es generalizing s with
  | nil => exact (true_and _).symm ▸ Iff.rfl
  | cons e es ih => rw [List.cons_append, throughout_cons, ih, throughout_cons, run_cons, and_assoc]

instance decidableThroughout [∀ s e, Decidable (R s e)] :
    ∀ s es, Decidable (Throughout step R s es)
  | _, [] => .isTrue trivial
  | s, e :: es =>
    have : Decidable (Throughout step R (step s e) es) := decidableThroughout (step s e) es
    inferInstanceAs (Decidable (R s e ∧ Throughout step R (step s e) es))

theorem inv_every_run (hstep : ∀ s e, Inv s → Inv (step s e)) {s : σ} (hs : Inv s)
    (es : List ε) : Inv (run step s es) := by
  induction es generalizing s with
  | nil => exact hs
  | cons e es ih => exact ih (hstep s e hs)

theorem inv_of_guard (hstep : ∀ s e, Inv s → G s e → Inv (step s e)) {s : σ} {es : List ε}
    (hs : Inv s) (hg : Throughout step G s es) : Inv (run step s es) := by
  induction es generalizing s with
  | nil => exact hs
  | cons e es ih => exact ih (hstep s e hs hg.1) hg.2

theorem throughout_of_guard (hstep : ∀ s e, Inv s → G s e → Inv (step s e))
    (hP : ∀ s e, Inv s → G s e → P s e) {s : σ} {es : List ε}
    (hs : Inv s) (hg : Throughout step G s es) : Throughout step P s es := by
  induction es generalizing s with
  | nil => trivial
  | cons e es ih => exact ⟨hP s e hs hg.1, ih (hstep s e hs hg.1) hg.2⟩

theorem throughout_every_run (hstep : ∀ s e, Inv s → Inv (step s e)) (hP : ∀ s e, Inv s → P s e)
    {s : σ} (hs : Inv s) (es : List ε) : Throughout step P s es := by
  induction es generalizing s with
  | nil => trivial
  | cons e es ih => exact ⟨hP s e hs, ih (hstep s e hs)⟩

theorem countP_le_rank {rank : σ → ℕ} {W : σ → Prop} {p : ε → Bool}
    (hstep : ∀ s e, Inv s → G s e → Inv (step s e))
    (hrank : ∀ s e, Inv s → G s e → W s → W (step s e) →
      rank (step s e) + (if p e then 1 else 0) ≤ rank s)
    (hpos : ∀ s, Inv s → W s → 0 < rank s) {s : σ} {es : List ε} (hs : Inv s)
    (hg : Throughout step G s es) (hw : Throughout step (fun s _ => W s) s es) :
    es.countP p ≤ rank s := by
  induction es generalizing s with
  | nil => exact Nat.zero_le _
  | cons e es ih =>
    rw [List.countP_cons]
    cases es with
    | nil =>
      have hr := hpos s hs hw.1
      rw [List.countP_nil]
      split <;> omega
    | cons e' es =>
      have hn := ih (hstep s e hs hg.1) hg.2 hw.2
      have hr := hrank s e hs hg.1 hw.1 hw.2.1
      omega

theorem throughout_iff_guard (hstep : ∀ s e, Inv s → G s e → Inv (step s e))
    (hP : ∀ s e, Inv s → (P s e ↔ G s e)) {s : σ} {es : List ε} (hs : Inv s) :
    Throughout step P s es ↔ Throughout step G s es := by
  induction es generalizing s with
  | nil => exact Iff.rfl
  | cons e es ih =>
    rw [throughout_cons, throughout_cons, hP s e hs]
    exact and_congr_right fun hg => ih (hstep s e hs hg)

theorem run_view {τ : Type*} {step' : τ → ε → τ} (view : σ → τ)
    (hstep : ∀ s e, Inv s → Inv (step s e) ∧ view (step s e) = step' (view s) e) {s : σ}
    (hs : Inv s) (es : List ε) :
    Inv (run step s es) ∧ view (run step s es) = run step' (view s) es := by
  induction es generalizing s with
  | nil => exact ⟨hs, rfl⟩
  | cons e es ih =>
    obtain ⟨hinv, hview⟩ := hstep s e hs
    rw [run_cons, run_cons, ← hview]
    exact ih hinv

theorem throughout_and {Q : σ → ε → Prop} {s : σ} {es : List ε} :
    Throughout step (fun s e => P s e ∧ Q s e) s es ↔
      Throughout step P s es ∧ Throughout step Q s es := by
  induction es generalizing s with
  | nil => exact (and_self_iff).symm
  | cons e es ih =>
    rw [throughout_cons, throughout_cons, throughout_cons, ih]
    exact and_and_and_comm

theorem throughout_view {τ : Type*} {step' : τ → ε → τ} {Q : τ → ε → Prop} (view : σ → τ)
    (hstep : ∀ s e, view (step s e) = step' (view s) e) {s : σ} {es : List ε} :
    Throughout step (fun s e => Q (view s) e) s es ↔ Throughout step' Q (view s) es := by
  induction es generalizing s with
  | nil => exact Iff.rfl
  | cons e es ih =>
    rw [throughout_cons, throughout_cons, ← hstep]
    exact and_congr_right fun _ => ih

def withHistory (step : σ → ε → σ) (note : σ → ε → η → η) (p : σ × η) (e : ε) : σ × η :=
  (step p.1 e, note p.1 e p.2)

theorem throughout_withHistory {note : σ → ε → η → η} {p : σ × η} {es : List ε} :
    Throughout (withHistory step note) (fun p e => G p.1 e) p es ↔ Throughout step G p.1 es :=
  throughout_view Prod.fst fun _ _ => rfl

end SlcNode.EventRun
