import SlcNode.Library.EventRun
import SlcNode.Library.OneShot
import Mathlib.Data.List.Induction

namespace SlcNode.OneShot

open EventRun

variable {α : Type*}

inductive Op (α : Type*)
  | launch (p : α)
  | stop
  | expire
  | clear
  | act
deriving DecidableEq

namespace Op

def apply (t : OneShot α) : Op α → OneShot α
  | launch p => t.launch p
  | stop => t.stop
  | expire => t.expire
  | clear | act => t.consume

def onTimer : Op α → Bool
  | launch _ | stop | expire => true
  | clear | act => false

def Possible (t : OneShot α) : Op α → Prop
  | expire => t.armed = true
  | act => t.trigger = true
  | launch _ | stop | clear => True

def plain : Op α → Bool
  | launch _ | stop | clear => true
  | expire | act => false

def FindsNoTrigger (t : OneShot α) : Op α → Prop
  | launch _ => t.trigger = false
  | stop | expire | clear | act => True

instance : ∀ (t : OneShot α) (op : Op α), Decidable (op.FindsNoTrigger t)
  | t, launch _ => inferInstanceAs (Decidable (t.trigger = false))
  | _, stop | _, expire | _, clear | _, act => .isTrue trivial

end Op

theorem possible_of_plain {ops : List (Op α)} (h : ∀ op ∈ ops, op.plain = true) (t : OneShot α) :
    Throughout Op.apply Op.Possible t ops := by
  induction ops generalizing t with
  | nil => trivial
  | cons op ops ih =>
    obtain ⟨hop, hops⟩ := List.forall_mem_cons.mp h
    refine ⟨?_, ih hops _⟩
    cases op with
    | launch | stop | clear => trivial
    | expire | act => exact absurd hop Bool.false_ne_true

def lastOnTimer (ops : List (Op α)) : Option (Op α) := (ops.filter Op.onTimer).getLast?

def Timely (before ops : List (Op α)) : Prop :=
  ∀ pre post, ops = pre ++ .act :: post → lastOnTimer (before ++ pre) = some .expire

def Known (t : OneShot α) (ops : List (Op α)) : Prop :=
  t.trigger = true → lastOnTimer ops = some .expire

theorem lastOnTimer_concat (ops : List (Op α)) (op : Op α) :
    lastOnTimer (ops ++ [op]) = if op.onTimer then some op else lastOnTimer ops := by
  unfold lastOnTimer
  cases h : op.onTimer <;> simp [h]

theorem known_apply {t : OneShot α} {op : Op α} (h : op.FindsNoTrigger t) (ops : List (Op α)) :
    Known (op.apply t) (ops ++ [op]) := by
  unfold Known
  rw [lastOnTimer_concat]
  cases op with
  | launch p =>
    intro ht
    exact absurd (h.symm.trans ht) Bool.false_ne_true
  | stop => exact fun ht => absurd ht Bool.false_ne_true
  | expire => exact fun _ => rfl
  | clear | act => exact fun ht => absurd ht Bool.false_ne_true

theorem Known.run {t : OneShot α} {before ops : List (Op α)} (h : Known t before)
    (hn : Throughout Op.apply Op.FindsNoTrigger t ops) :
    Known (run Op.apply t ops) (before ++ ops) := by
  induction ops generalizing t before with
  | nil => rwa [List.append_nil]
  | cons op ops ih =>
    rw [List.append_cons]
    exact ih (known_apply hn.1 before) hn.2

theorem Known.timely {t : OneShot α} {before ops : List (Op α)} (h : Known t before)
    (hp : Throughout Op.apply Op.Possible t ops)
    (hn : Throughout Op.apply Op.FindsNoTrigger t ops) : Timely before ops := by
  induction ops generalizing t before with
  | nil =>
    intro pre post heq
    exact absurd heq (by simp)
  | cons op ops ih =>
    intro pre post heq
    cases pre with
    | nil =>
      obtain ⟨rfl, -⟩ := List.cons.inj heq
      rw [List.append_nil]
      exact h hp.1
    | cons o pre =>
      obtain ⟨rfl, hrest⟩ := List.cons.inj heq
      have hlast := ih (known_apply hn.1 before) hp.2 hn.2 pre post hrest
      rwa [List.append_assoc, List.singleton_append] at hlast

theorem exact_apply {t : OneShot α} (h : Exact t) (op : Op α) : Exact (op.apply t) := by
  cases op with
  | launch p => exact exact_launch p t
  | stop => exact exact_stop h
  | expire => exact exact_expire h
  | clear | act => exact exact_consume h

theorem exact_run {t : OneShot α} (h : Exact t) (ops : List (Op α)) :
    Exact (run Op.apply t ops) := by
  have hstep : ∀ (s : OneShot α) op, Exact s → Exact (Op.apply s op) := fun _ op hs => exact_apply hs op
  exact inv_every_run hstep h ops

theorem armed_run_iff {t : OneShot α} (h : Exact t) (hoff : t.armed = false) (ops : List (Op α)) :
    (run Op.apply t ops).armed = true ↔ ∃ p, lastOnTimer ops = some (.launch p) := by
  induction ops using List.reverseRecOn with
  | nil => simp [hoff, lastOnTimer]
  | append_singleton ops op ih =>
    have hexact := exact_run h ops
    rw [run_append, run_cons, run_nil, lastOnTimer_concat]
    cases op with
    | launch p => simp [Op.apply, Op.onTimer, launch, armed]
    | stop => simp [Op.apply, Op.onTimer, armed_stop hexact]
    | expire =>
      have hdone : (run Op.apply t ops).expire.armed = false := by
        unfold expire
        split
        · rfl
        · exact eq_false_of_ne_true ‹_›
      simp [Op.apply, Op.onTimer, hdone]
    | clear | act => exact ih

def LaunchedAndExpired (ops : List (Op α)) : Prop :=
  ∃ before after p, ops = before ++ .expire :: after ∧ lastOnTimer before = some (.launch p)

theorem LaunchedAndExpired.concat {ops : List (Op α)} (h : LaunchedAndExpired ops) (op : Op α) :
    LaunchedAndExpired (ops ++ [op]) := by
  obtain ⟨before, after, p, rfl, hlast⟩ := h
  exact ⟨before, after ++ [op], p, by simp, hlast⟩

theorem launchedAndExpired_of_trigger {t : OneShot α} (h : Exact t) (hoff : t.live = false)
    {ops : List (Op α)} (htrigger : (run Op.apply t ops).trigger = true) : LaunchedAndExpired ops := by
  have hlive : t.armed = false ∧ t.trigger = false := by
    rwa [live, Bool.or_eq_false_iff] at hoff
  induction ops using List.reverseRecOn with
  | nil => exact absurd (hlive.2.symm.trans htrigger) Bool.false_ne_true
  | append_singleton ops op ih =>
    rw [run_append, run_cons, run_nil] at htrigger
    cases op with
    | launch p => exact (ih htrigger).concat _
    | stop | clear | act => exact absurd htrigger Bool.false_ne_true
    | expire =>
      by_cases harmed : (run Op.apply t ops).armed = true
      · obtain ⟨p, hlast⟩ := (armed_run_iff h hlive.1 ops).mp harmed
        exact ⟨ops, [], p, rfl, hlast⟩
      · rw [Op.apply, expire, if_neg harmed] at htrigger
        exact (ih htrigger).concat _

/-- `t` is the timer after `ops`. The launch flag is set just while it runs: a launch is then its last
operation. A stop leaves it off, and the trigger clear until the timer is launched and expires. -/
structure Follows (t : OneShot α) (ops : List (Op α)) : Prop where
  trace : t = run Op.apply idle ops
  exact : t.launched = t.armed
  launched : t.launched = true ↔ ∃ p, lastOnTimer ops = some (.launch p)
  cancelled : ∀ before after rest, ops = before ++ .stop :: (after ++ rest) →
    (run Op.apply idle (before ++ [.stop])).armed = false ∧
      ((run Op.apply idle (before ++ .stop :: after)).trigger = true → LaunchedAndExpired after)

theorem follows_run (ops : List (Op α)) : Follows (run Op.apply idle ops) ops := by
  have hexact := exact_run (exact_idle (α := α)) ops
  refine ⟨rfl, hexact, ?_, ?_⟩
  · rw [hexact]
    exact armed_run_iff exact_idle rfl ops
  · intro before after rest _
    have hbefore := exact_run (exact_idle (α := α)) before
    rw [run_append, run_append, run_cons, run_nil, run_cons]
    exact ⟨armed_stop hbefore, launchedAndExpired_of_trigger (exact_stop hbefore) (live_stop hbefore)⟩

end SlcNode.OneShot
