import Mathlib.Data.List.Count

namespace SlcNode.Bracketing

inductive Mark (κ : Type*)
  | neutral
  | opens (k : κ)
  | closes (k : κ)
deriving DecidableEq

variable {ε κ : Type*} {mark : ε → Mark κ}

/-- Every event that opens a resource is matched by one later event that closes it, and what is
opened in between is closed in between. -/
inductive Bracketed (mark : ε → Mark κ) : List ε → Prop
  | nil : Bracketed mark []
  | skip {e : ε} {l : List ε} : mark e = .neutral → Bracketed mark l → Bracketed mark (e :: l)
  | nest {e f : ε} {k : κ} {l m : List ε} : mark e = .opens k → mark f = .closes k →
      Bracketed mark l → Bracketed mark m → Bracketed mark (e :: (l ++ f :: m))

theorem bracketed_append {l m : List ε} (hl : Bracketed mark l) (hm : Bracketed mark m) :
    Bracketed mark (l ++ m) := by
  induction hl with
  | nil => exact hm
  | skip he _ ih => exact .skip he ih
  | nest he hf hin _ _ ih =>
    rw [List.cons_append, List.append_assoc, List.cons_append]
    exact .nest he hf hin ih

theorem bracketed_singleton {e : ε} (he : mark e = .neutral) : Bracketed mark [e] := .skip he .nil

theorem bracketed_around {e f : ε} {k : κ} {l : List ε} (he : mark e = .opens k)
    (hl : Bracketed mark l) (hf : mark f = .closes k) : Bracketed mark ([e] ++ l ++ [f]) := by
  rw [List.append_assoc]
  exact .nest he hf hl .nil

variable [DecidableEq κ]

theorem count_bracketed {l : List ε} (h : Bracketed mark l) (k : κ) :
    (l.map mark).count (.opens k) = (l.map mark).count (.closes k) := by
  induction h with
  | nil => rfl
  | skip he _ ih => simp only [List.map_cons, he, List.count_cons, ih, reduceCtorEq, beq_iff_eq]
  | nest he hf _ _ ihl ihm =>
    simp only [List.map_cons, List.map_append, he, hf, List.count_cons, List.count_append, ihl, ihm,
      beq_iff_eq, Mark.opens.injEq, Mark.closes.injEq, reduceCtorEq, if_false]
    omega

end SlcNode.Bracketing
