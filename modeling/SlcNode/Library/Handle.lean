import Mathlib.Data.List.Basic

namespace SlcNode.Handle

variable {ο σ α β : Type}

/-- What a program does with the handles it takes; every taking is given a number of its own. -/
inductive Event (ο : Type)
  | acquire (h : ℕ)
  | use (h : ℕ) (op : ο)
  | release (h : ℕ)
deriving DecidableEq

def Event.handle : Event ο → ℕ
  | .acquire h => h
  | .use h _ => h
  | .release h => h

def acquired : List (Event ο) → List ℕ
  | [] => []
  | .acquire h :: t => h :: acquired t
  | _ :: t => acquired t

def Quiet (h : ℕ) (t : List (Event ο)) : Prop := ∀ e ∈ t, e.handle ≠ h

def QuietOnceReleased [DecidableEq ο] (h : ℕ) : List (Event ο) → Prop
  | [] => True
  | e :: t => (e = .release h → Quiet h t) ∧ QuietOnceReleased h t

/-- Every handle taken is released exactly once, and nothing is done with it afterwards. -/
def Owned [DecidableEq ο] (t : List (Event ο)) : Prop :=
  ∀ h ∈ acquired t, t.count (.release h) = 1 ∧ QuietOnceReleased h t

section Trace

variable {t u : List (Event ο)} {h : ℕ}

theorem acquired_append : acquired (t ++ u) = acquired t ++ acquired u := by
  induction t with
  | nil => rfl
  | cons e t ih => cases e <;> simp [acquired, ih]

theorem mem_acquired : h ∈ acquired t ↔ .acquire h ∈ t := by
  induction t with
  | nil => simp [acquired]
  | cons e t ih => cases e <;> simp [acquired, ih]

theorem acquired_uses (h : ℕ) (ops : List ο) : acquired (ops.map (Event.use h)) = [] := by
  induction ops with
  | nil => rfl
  | cons op ops ih => exact ih

theorem quiet_append : Quiet h (t ++ u) ↔ Quiet h t ∧ Quiet h u := List.forall_mem_append

variable [DecidableEq ο]

instance (t : List (Event ο)) : Decidable (Quiet h t) := inferInstanceAs (Decidable (∀ _ ∈ _, _))

instance decidableQuietOnceReleased (h : ℕ) :
    ∀ t : List (Event ο), Decidable (QuietOnceReleased h t)
  | [] => .isTrue trivial
  | e :: t =>
    have : Decidable (QuietOnceReleased h t) := decidableQuietOnceReleased h t
    inferInstanceAs (Decidable ((e = .release h → Quiet h t) ∧ QuietOnceReleased h t))

instance (t : List (Event ο)) : Decidable (Owned t) := inferInstanceAs (Decidable (∀ _ ∈ _, _))

theorem owned_nil : Owned ([] : List (Event ο)) := by simp [Owned, acquired]

theorem quietOnceReleased_of_not_mem (ht : .release h ∉ t) : QuietOnceReleased h t := by
  induction t with
  | nil => trivial
  | cons e t ih =>
    obtain ⟨he, ht⟩ := not_or.mp (List.mem_cons.not.mp ht)
    exact ⟨fun hr => absurd hr.symm he, ih ht⟩

theorem quietOnceReleased_append_of_quiet (hu : Quiet h u) :
    QuietOnceReleased h (t ++ u) ↔ QuietOnceReleased h t := by
  induction t with
  | nil => exact ⟨fun _ => trivial, fun _ => quietOnceReleased_of_not_mem fun hr => hu _ hr rfl⟩
  | cons e t ih =>
    simp only [List.cons_append, QuietOnceReleased, ih, quiet_append, hu, and_true]

theorem quietOnceReleased_of_quiet_append (ht : Quiet h t) :
    QuietOnceReleased h (t ++ u) ↔ QuietOnceReleased h u := by
  induction t with
  | nil => exact Iff.rfl
  | cons e t ih =>
    obtain ⟨he, ht⟩ := List.forall_mem_cons.mp ht
    have hne : e ≠ .release h := fun hr => he (congrArg Event.handle hr)
    simp only [List.cons_append, QuietOnceReleased, ih ht, hne, false_implies, true_and]

theorem count_release_of_quiet (ht : Quiet h t) : t.count (.release h) = 0 :=
  List.count_eq_zero.mpr fun hr => ht _ hr rfl

theorem owned_append (ht : Owned t) (hu : Owned u) (htu : ∀ h ∈ acquired t, Quiet h u)
    (hut : ∀ h ∈ acquired u, Quiet h t) : Owned (t ++ u) := by
  intro h hh
  rcases List.mem_append.mp (acquired_append ▸ hh) with hh | hh
  · obtain ⟨hcount, hquiet⟩ := ht h hh
    rw [List.count_append, hcount, count_release_of_quiet (htu h hh)]
    exact ⟨rfl, (quietOnceReleased_append_of_quiet (htu h hh)).mpr hquiet⟩
  · obtain ⟨hcount, hquiet⟩ := hu h hh
    rw [List.count_append, hcount, count_release_of_quiet (hut h hh)]
    exact ⟨rfl, (quietOnceReleased_of_quiet_append (hut h hh)).mpr hquiet⟩

def session (h : ℕ) (ops : List ο) : List (Event ο) :=
  .acquire h :: (ops.map (.use h) ++ [.release h])

theorem owned_session (h : ℕ) (ops : List ο) : Owned (session h ops) := by
  intro k hk
  have hk : k = h := by
    simpa [session, acquired, acquired_append, acquired_uses] using hk
  have hmem : .release h ∉ ops.map (Event.use h) := by simp
  subst hk
  refine ⟨by simp [session, List.count_eq_zero.mpr hmem], by simp, ?_⟩
  clear hk
  induction ops with
  | nil => simp [QuietOnceReleased, Quiet]
  | cons op ops ih =>
    exact ⟨by simp, ih (by simp)⟩

theorem not_owned {e : Event ο} {v : List (Event ο)} (ht : h ∈ acquired t) (he : e.handle = h) :
    ¬ Owned (t ++ .release h :: (u ++ e :: v)) := by
  intro howned
  have hquiet := (howned h (acquired_append ▸ List.mem_append_left _ ht)).2
  clear howned ht
  induction t with
  | nil => exact hquiet.1 rfl e (by simp) he
  | cons d t ih => exact ih hquiet.2

end Trace

structure World (σ ο : Type) where
  env : σ
  taken : ℕ
  trace : List (Event ο)

abbrev Client (σ ο : Type) := StateM (World σ ο)

section Client

def use (h : ℕ) (op : ο) (answer : σ → α × σ) : Client σ ο α := fun w =>
  ((answer w.env).1, { w with env := (answer w.env).2, trace := w.trace ++ [.use h op] })

def release (h : ℕ) (answer : σ → α × σ) : Client σ ο α := fun w =>
  ((answer w.env).1, { w with env := (answer w.env).2, trace := w.trace ++ [.release h] })

def acquire (answer : σ → Bool × σ) : Client σ ο (Option ℕ) := fun w =>
  if (answer w.env).1 then
    (some w.taken, ⟨(answer w.env).2, w.taken + 1, w.trace ++ [.acquire w.taken]⟩)
  else (none, { w with env := (answer w.env).2 })

def look (answer : σ → α × σ) : Client σ ο α := fun w =>
  ((answer w.env).1, { w with env := (answer w.env).2 })

def retry (attempt : Client σ ο α) (again : α → Bool) : ℕ → Client σ ο α
  | 0 => attempt
  | left + 1 => do
    let a ← attempt
    if again a then retry attempt again left else pure a

def Uses (h : ℕ) (p : Client σ ο α) : Prop :=
  ∀ w, (p w).2.taken = w.taken ∧ ∃ ops : List ο, (p w).2.trace = w.trace ++ ops.map (.use h)

def Grows (p : Client σ ο α) : Prop := ∀ w, w.trace <+: (p w).2.trace

def Touches (h : ℕ) (p : Client σ ο α) : Prop :=
  ∀ w, ∃ op v, (p w).2.trace = w.trace ++ .use h op :: v

variable {h : ℕ} {p : Client σ ο α} {f : α → Client σ ο β}

theorem uses_pure (h : ℕ) (a : α) : Uses h (pure a : Client σ ο α) :=
  fun w => ⟨rfl, [], (List.append_nil w.trace).symm⟩

theorem uses_use (h : ℕ) (op : ο) (answer : σ → α × σ) : Uses h (use h op answer) :=
  fun _ => ⟨rfl, [op], rfl⟩

theorem uses_look (h : ℕ) (answer : σ → α × σ) : Uses h (look answer : Client σ ο α) :=
  fun w => ⟨rfl, [], (List.append_nil w.trace).symm⟩

theorem uses_bind (hp : Uses h p) (hf : ∀ a, Uses h (f a)) : Uses h (p >>= f) := by
  intro w
  obtain ⟨htaken, ops, htrace⟩ := hp w
  obtain ⟨htaken', ops', htrace'⟩ := hf (p w).1 (p w).2
  exact ⟨htaken'.trans htaken, ops ++ ops', by
    rw [List.map_append, ← List.append_assoc, ← htrace]; exact htrace'⟩

theorem uses_retry (hp : Uses h p) (again : α → Bool) (left : ℕ) :
    Uses h (retry p again left) := by
  induction left with
  | zero => exact hp
  | succ left ih =>
    refine uses_bind hp fun a => ?_
    split
    · exact ih
    · exact uses_pure h a

theorem grows_of_uses (hp : Uses h p) : Grows p := fun w =>
  have ⟨_, ops, htrace⟩ := hp w
  ⟨ops.map (.use h), htrace.symm⟩

theorem grows_pure (a : α) : Grows (pure a : Client σ ο α) := grows_of_uses (uses_pure 0 a)

theorem grows_release (h : ℕ) (answer : σ → α × σ) : Grows (release h answer : Client σ ο α) :=
  fun _ => ⟨[.release h], rfl⟩

theorem grows_bind (hp : Grows p) (hf : ∀ a, Grows (f a)) : Grows (p >>= f) := fun w =>
  (hp w).trans (hf (p w).1 (p w).2)

theorem touches_use (h : ℕ) (op : ο) (answer : σ → α × σ) : Touches h (use h op answer) :=
  fun _ => ⟨op, [], rfl⟩

theorem grows_of_touches (hp : Touches h p) : Grows p := fun w =>
  have ⟨op, v, hv⟩ := hp w
  ⟨.use h op :: v, hv.symm⟩

theorem touches_bind (hp : Touches h p) (hf : ∀ a, Grows (f a)) : Touches h (p >>= f) := by
  intro w
  obtain ⟨op, v, hv⟩ := hp w
  obtain ⟨u, hu⟩ := hf (p w).1 (p w).2
  exact ⟨op, v ++ u, by rw [← List.cons_append, ← List.append_assoc, ← hv, hu]; rfl⟩

def Held (w₀ w : World σ ο) : Prop :=
  w.taken = w₀.taken + 1 ∧
    ∃ ops : List ο, w.trace = w₀.trace ++ .acquire w₀.taken :: ops.map (.use w₀.taken)

def Clean [DecidableEq ο] (w₀ w : World σ ο) : Prop :=
  w₀.taken ≤ w.taken ∧ ∃ t, w.trace = w₀.trace ++ t ∧ Owned t ∧
    ∀ e ∈ t, w₀.taken ≤ e.handle ∧ e.handle < w.taken

variable {w₀ w w' : World σ ο}

theorem bind_apply (w : World σ ο) : (p >>= f) w = f (p w).1 (p w).2 := rfl

theorem acquire_none {answer : σ → Bool × σ} (hw : (answer w.env).1 = false) :
    acquire answer w = (none, { w with env := (answer w.env).2 }) := if_neg (by simp [hw])

theorem acquire_some {answer : σ → Bool × σ} (hw : (answer w.env).1 = true) :
    acquire answer w =
      (some w.taken, ⟨(answer w.env).2, w.taken + 1, w.trace ++ [.acquire w.taken]⟩) := if_pos hw

theorem held_acquire (env : σ) (w : World σ ο) :
    Held w ⟨env, w.taken + 1, w.trace ++ [.acquire w.taken]⟩ := ⟨rfl, [], rfl⟩

theorem held_uses (hw : Held w₀ w) (hp : Uses w₀.taken p) : Held w₀ (p w).2 := by
  obtain ⟨htaken, ops, htrace⟩ := hw
  obtain ⟨htaken', ops', htrace'⟩ := hp w
  exact ⟨htaken'.trans htaken, ops ++ ops', by
    rw [htrace', htrace, List.append_assoc, List.cons_append, List.map_append]⟩

variable [DecidableEq ο]

theorem clean_refl (w : World σ ο) : Clean w w :=
  ⟨Nat.le_refl _, [], (List.append_nil _).symm, owned_nil, by simp⟩

theorem clean_trans (hw : Clean w₀ w) (hw' : Clean w w') : Clean w₀ w' := by
  obtain ⟨hle, t, htrace, howned, hbound⟩ := hw
  obtain ⟨hle', t', htrace', howned', hbound'⟩ := hw'
  refine ⟨Nat.le_trans hle hle', t ++ t', by rw [htrace', htrace, List.append_assoc], ?_, ?_⟩
  · refine owned_append howned howned' (fun h hh e he heq => ?_) (fun h hh e he heq => ?_)
    · have hlt := (hbound _ (mem_acquired.mp hh)).2
      have hge := (hbound' e he).1
      simp only [Event.handle] at hlt
      omega
    · have hge := (hbound' _ (mem_acquired.mp hh)).1
      have hlt := (hbound e he).2
      simp only [Event.handle] at hge
      omega
  · intro e he
    rcases List.mem_append.mp he with he | he
    · exact ⟨(hbound e he).1, Nat.lt_of_lt_of_le (hbound e he).2 hle'⟩
    · exact ⟨Nat.le_trans hle (hbound' e he).1, (hbound' e he).2⟩

theorem clean_look (w : World σ ο) (answer : σ → α × σ) : Clean w (look answer w).2 :=
  clean_refl w

theorem clean_release (hw : Held w₀ w) (answer : σ → α × σ) :
    Clean w₀ (release w₀.taken answer w).2 := by
  obtain ⟨htaken, ops, htrace⟩ := hw
  refine ⟨by simp [release, htaken], session w₀.taken ops, by simp [release, htrace, session],
    owned_session w₀.taken ops, fun e he => ?_⟩
  have hhandle : e.handle = w₀.taken := by
    rcases List.mem_cons.mp he with rfl | he
    · rfl
    · rcases List.mem_append.mp he with he | he
      · obtain ⟨op, -, rfl⟩ := List.mem_map.mp he
        rfl
      · rw [List.mem_singleton.mp he]
        rfl
  simp [release, htaken, hhandle]

theorem owned_of_clean (hw : Clean w₀ w) (h₀ : w₀.trace = []) : Owned w.trace := by
  obtain ⟨-, t, htrace, howned, -⟩ := hw
  rwa [htrace, h₀, List.nil_append]

theorem not_owned_of_touches (hw : Held w₀ w) (h₀ : w₀.trace = []) (answer : σ → α × σ)
    (hf : ∀ a, Touches w₀.taken (f a)) :
    ¬ Owned ((release w₀.taken answer >>= f) w).2.trace := by
  obtain ⟨-, ops, htrace⟩ := hw
  obtain ⟨op, v, hv⟩ := hf (answer w.env).1 (release w₀.taken answer w).2
  have hmem : w₀.taken ∈ acquired w.trace := by
    rw [htrace, h₀]
    simp [acquired]
  have hspoiled : ((release w₀.taken answer >>= f) w).2.trace =
      w.trace ++ .release w₀.taken :: ([] ++ .use w₀.taken op :: v) :=
    hv.trans (List.append_assoc ..)
  exact hspoiled ▸ not_owned hmem rfl

end Client

end SlcNode.Handle
