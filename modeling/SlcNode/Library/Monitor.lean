import SlcNode.Library.Handle

namespace SlcNode.Monitor

open Handle

variable {σ ο ο' α β κ : Type}

def renamed (g : ο → ο') : Event ο → Event ο'
  | .acquire h => .acquire h
  | .use h op => .use h (g op)
  | .release h => .release h

def relabel (g : ο → ο') (p : Client σ ο α) : Client σ ο' α := fun w =>
  let r := p ⟨w.env, w.taken, []⟩
  (r.1, ⟨r.2.env, r.2.taken, w.trace ++ r.2.trace.map (renamed g)⟩)

def LeadsAt (m : κ → Event ο → Option κ) (k : κ) (r : Option κ) (p : Client σ ο α) (w : World σ ο) :
    Prop :=
  ∃ t, (p w).2.trace = w.trace ++ t ∧ t.foldlM m k = r

def Leads (m : κ → Event ο → Option κ) (k : κ) (r : Option κ) (p : Client σ ο α) : Prop :=
  ∀ w, LeadsAt m k r p w

variable {m : κ → Event ο → Option κ} {k k' : κ} {r : Option κ} {h : ℕ} {op : ο} {w : World σ ο}
variable {p : Client σ ο α} {f : α → Client σ ο β}

theorem leadsAt_bind (hp : LeadsAt m k (some k') p w) (hf : LeadsAt m k' r (f (p w).1) (p w).2) :
    LeadsAt m k r (p >>= f) w := by
  obtain ⟨t, htrace, ht⟩ := hp
  obtain ⟨u, hutrace, hu⟩ := hf
  refine ⟨t ++ u, ?_, ?_⟩
  · rw [bind_apply, hutrace, htrace, List.append_assoc]
  · rw [List.foldlM_append, ht]
    exact hu

theorem leadsAt_bind_none (hp : LeadsAt m k none p w) (hf : ∀ a, Grows (f a)) :
    LeadsAt m k none (p >>= f) w := by
  obtain ⟨t, htrace, ht⟩ := hp
  obtain ⟨u, hu⟩ := hf (p w).1 (p w).2
  refine ⟨t ++ u, ?_, ?_⟩
  · rw [bind_apply, ← hu, htrace, List.append_assoc]
  · rw [List.foldlM_append, ht]
    rfl

theorem leads_pure (a : α) : Leads m k (some k) (pure a : Client σ ο α) := fun w =>
  ⟨[], (List.append_nil w.trace).symm, rfl⟩

theorem leads_look (answer : σ → α × σ) : Leads m k (some k) (look answer : Client σ ο α) := fun w =>
  ⟨[], (List.append_nil w.trace).symm, rfl⟩

theorem foldlM_singleton (e : Event ο) : [e].foldlM m k = m k e := by
  rw [List.foldlM_cons]
  exact bind_pure _

theorem leads_use (answer : σ → α × σ) (hm : m k (.use h op) = r) : Leads m k r (use h op answer) :=
  fun _ => ⟨[.use h op], rfl, (foldlM_singleton _).trans hm⟩

theorem leads_release (answer : σ → α × σ) (hm : m k (.release h) = r) :
    Leads m k r (release h answer : Client σ ο α) :=
  fun _ => ⟨[.release h], rfl, (foldlM_singleton _).trans hm⟩

theorem leads_bind (hp : Leads m k (some k') p) (hf : ∀ a, Leads m k' r (f a)) :
    Leads m k r (p >>= f) := fun w => leadsAt_bind (hp w) (hf _ _)

theorem leads_bind_none (hp : Leads m k none p) (hf : ∀ a, Grows (f a)) :
    Leads m k none (p >>= f) := fun w => leadsAt_bind_none (hp w) hf

theorem leads_retry (hp : Leads m k (some k) p) (again : α → Bool) (left : ℕ) :
    Leads m k (some k) (retry p again left) := by
  induction left with
  | zero => exact hp
  | succ left ih =>
    refine leads_bind hp fun a => ?_
    split
    · exact ih
    · exact leads_pure a

theorem grows_retry (hp : Grows p) (again : α → Bool) (left : ℕ) : Grows (retry p again left) := by
  induction left with
  | zero => exact hp
  | succ left ih =>
    refine grows_bind hp fun a => ?_
    split
    · exact ih
    · exact grows_pure a

theorem leads_retry_none (hp : Leads m k none p) (again : α → Bool) (hgrows : Grows p) (left : ℕ) :
    Leads m k none (retry p again left) := by
  cases left with
  | zero => exact hp
  | succ left =>
    refine leads_bind_none hp fun a => ?_
    split
    · exact grows_retry hgrows again left
    · exact grows_pure a

theorem leadsAt_acquire_some {answer : σ → Bool × σ} {body : Option ℕ → Client σ ο α}
    (hw : (answer w.env).1 = true) (hm : m k (.acquire w.taken) = some k')
    (hsome : Leads m k' r (body (some w.taken))) : LeadsAt m k r (acquire answer >>= body) w := by
  obtain ⟨t, htrace, ht⟩ := hsome ⟨(answer w.env).2, w.taken + 1, w.trace ++ [.acquire w.taken]⟩
  refine ⟨.acquire w.taken :: t, ?_, ?_⟩
  · rw [bind_apply, acquire_some hw, htrace, List.append_assoc]
    rfl
  · rw [List.foldlM_cons, hm]
    exact ht

theorem leadsAt_acquire_none {answer : σ → Bool × σ} {body : Option ℕ → Client σ ο α}
    (hw : (answer w.env).1 = false) (hnone : Leads m k r (body none)) :
    LeadsAt m k r (acquire answer >>= body) w := by
  obtain ⟨t, htrace, ht⟩ := hnone { w with env := (answer w.env).2 }
  refine ⟨t, ?_, ht⟩
  rw [bind_apply, acquire_none hw, htrace]

theorem leads_acquire {answer : σ → Bool × σ} {body : Option ℕ → Client σ ο α}
    (hm : ∀ h, m k (.acquire h) = some k') (hnone : Leads m k r (body none))
    (hsome : ∀ h, Leads m k' r (body (some h))) : Leads m k r (acquire answer >>= body) := by
  intro w
  cases hw : (answer w.env).1 with
  | true => exact leadsAt_acquire_some hw (hm _) (hsome _)
  | false => exact leadsAt_acquire_none hw hnone

theorem leadsAt_relabel {g : ο → ο'} {m : κ → Event ο' → Option κ} {p : Client σ ο α}
    {w : World σ ο'} (hp : LeadsAt (fun k e => m k (renamed g e)) k r p ⟨w.env, w.taken, []⟩) :
    LeadsAt m k r (relabel g p) w := by
  obtain ⟨t, htrace, ht⟩ := hp
  refine ⟨t.map (renamed g), ?_, ?_⟩
  · rw [relabel, htrace]
    rfl
  · rw [List.foldlM_map]
    exact ht

theorem leads_relabel {g : ο → ο'} {m : κ → Event ο' → Option κ} {p : Client σ ο α}
    (hp : Leads (fun k e => m k (renamed g e)) k r p) : Leads m k r (relabel g p) :=
  fun _ => leadsAt_relabel (hp _)

theorem relabel_acquire (g : ο → ο') (answer : σ → Bool × σ) :
    relabel g (acquire answer : Client σ ο (Option ℕ)) = acquire answer := by
  funext w
  unfold relabel acquire
  dsimp only
  cases (answer w.env).1 with
  | true => rfl
  | false =>
    rw [if_neg Bool.false_ne_true, if_neg Bool.false_ne_true]
    simp only [List.map_nil, List.append_nil]

section Keeps

variable {τ : Type} {view : σ → τ}

def Keeps (view : σ → τ) (p : Client σ ο α) : Prop := ∀ w, view (p w).2.env = view w.env

theorem keeps_pure (a : α) : Keeps view (pure a : Client σ ο α) := fun _ => rfl

theorem keeps_use {answer : σ → α × σ} (ha : ∀ s, view (answer s).2 = view s) (h : ℕ) (op : ο) :
    Keeps view (use h op answer) := fun w => ha w.env

theorem keeps_release {answer : σ → α × σ} (ha : ∀ s, view (answer s).2 = view s) (h : ℕ) :
    Keeps view (release h answer : Client σ ο α) := fun w => ha w.env

theorem keeps_bind (hp : Keeps view p) (hf : ∀ a, Keeps view (f a)) : Keeps view (p >>= f) :=
  fun w => (hf _ _).trans (hp w)

theorem keeps_acquire {answer : σ → Bool × σ} (ha : ∀ s, view (answer s).2 = view s) :
    Keeps view (acquire answer : Client σ ο (Option ℕ)) := by
  intro w
  cases hw : (answer w.env).1 with
  | true => exact (congrArg (fun r => view r.2.env) (acquire_some hw)).trans (ha w.env)
  | false => exact (congrArg (fun r => view r.2.env) (acquire_none hw)).trans (ha w.env)

theorem keeps_retry (hp : Keeps view p) (again : α → Bool) (left : ℕ) :
    Keeps view (retry p again left) := by
  induction left with
  | zero => exact hp
  | succ left ih =>
    refine keeps_bind hp fun a => ?_
    split
    · exact ih
    · exact keeps_pure a

end Keeps

end SlcNode.Monitor
