import SlcNode.Library.EventRun
import SlcNode.Thread

namespace SlcNode

inductive Resource
  | configNodereg
  | configConfig
  | configWatchdogSysSec
  | configWatchdogRegSec
  | configWatchdogLightsensorSec
  | configPeriodFirstuploadSec
  | configPeriodCycleuploadSec
  | configPeriodNoderegisterSec
  | configPeriodStatusSec
  | configPeriodDataSec
  | configDeregKeeponline
  | configDeregKeeponlinetimeSec
  | infoStatus
  | infoNodeversion
  | infoMcuversion
  | infoImei
  | infoImsi
  | infoModfwversion
  | infoCcid
  | etcSignalpowerlight
  | etcCustomatcmd
deriving DecidableEq, Repr

inductive MessageStatus
  | buildError
  | resendQueueFull
  | sent
  | delivered
  | sendFailed
  | subscribed
  | unsubscribed
  | rejected
deriving DecidableEq, Repr

abbrev Subscribed := Resource → Bool

namespace Subscribed

def all : List Resource :=
  [.configNodereg, .configConfig, .configWatchdogSysSec, .configWatchdogRegSec,
    .configWatchdogLightsensorSec, .configPeriodFirstuploadSec, .configPeriodCycleuploadSec,
    .configPeriodNoderegisterSec, .configPeriodStatusSec, .configPeriodDataSec,
    .configDeregKeeponline, .configDeregKeeponlinetimeSec, .infoStatus, .infoNodeversion,
    .infoMcuversion, .infoImei, .infoImsi, .infoModfwversion, .infoCcid, .etcSignalpowerlight,
    .etcCustomatcmd]

theorem mem_all (r : Resource) : r ∈ all := by cases r <;> decide

/-- `SlcResource_AutoObservable`, which is false throughout. -/
def autoObservable : Resource → Bool := fun _ => false

def start : Subscribed := fun _ => false

/-- `SlcLwm2mDate_CreateResource`: the last assignment of the loop stands outside the test. -/
def createResource (s : Subscribed) : Subscribed :=
  all.foldl (fun s r =>
    let s := if autoObservable r then Function.update s r true else s
    Function.update s r true) s

def resetResourceSubscribed (_ : Subscribed) : Subscribed :=
  all.foldl (fun s r => if autoObservable r then Function.update s r true else s) fun _ => false

/-- The body that the `SlcRes_*_StatusCb` share, each with the index of its own resource. -/
def statusCb (r : Resource) (status : MessageStatus) (s : Subscribed) : Subscribed :=
  if status = .subscribed then Function.update s r true else s

def isAllResSubscribed (s : Subscribed) : Bool := all.all s

end Subscribed

inductive SubscriptionEvent
  | createResource
  | resetResourceSubscribed
  | status (r : Resource) (status : MessageStatus)

namespace Subscribed

def step (s : Subscribed) : SubscriptionEvent → Subscribed
  | .createResource => s.createResource
  | .resetResourceSubscribed => s.resetResourceSubscribed
  | .status r st => s.statusCb r st

theorem foldl_raise (p : Resource → Bool) (l : List Resource) (s : Subscribed) (r : Resource) :
    l.foldl (fun s a => if p a then Function.update s a true else s) s r = true ↔
      s r = true ∨ r ∈ l ∧ p r = true := by
  induction l generalizing s with
  | nil => simp
  | cons a l ih =>
    rw [List.foldl_cons, ih]
    by_cases hr : r = a
    · subst hr
      cases hp : p r <;> simp
    · have hother : (if p a then Function.update s a true else s) r = s r := by
        split
        · exact Function.update_of_ne hr ..
        · rfl
      rw [hother, List.mem_cons]
      simp [hr]

theorem createResource_eq (s : Subscribed) : s.createResource = fun _ => true := by
  have hloop : s.createResource =
      all.foldl (fun s a => if (fun _ => true) a then Function.update s a true else s) s := by
    refine congrArg (fun f => all.foldl f s) ?_
    funext s r
    exact rfl
  funext r
  rw [hloop]
  exact (foldl_raise _ _ _ _).mpr (.inr ⟨mem_all r, rfl⟩)

theorem resetResourceSubscribed_eq (s : Subscribed) :
    s.resetResourceSubscribed = autoObservable := by
  funext r
  rw [Bool.eq_iff_iff, resetResourceSubscribed, foldl_raise]
  simp [mem_all]

theorem isAllResSubscribed_iff (s : Subscribed) :
    s.isAllResSubscribed = true ↔ ∀ r, s r = true := by
  rw [isAllResSubscribed, List.all_eq_true]
  exact ⟨fun h r => h r (mem_all r), fun h r _ => h r⟩

end Subscribed

/-- Whether the last of creation and reset was a creation, and for each resource what the server
said since: true for `SUBSCRIBED`, false for `UNSUBSCRIBED`. -/
structure Verdicts where
  created : Bool
  heard : Resource → List Bool

namespace Verdicts

def start : Verdicts := ⟨false, fun _ => []⟩

def hear (r : Resource) (b : Bool) (v : Verdicts) : Verdicts :=
  { v with heard := Function.update v.heard r (v.heard r ++ [b]) }

def Earned (v : Verdicts) (r : Resource) : Prop := (v.heard r).getLast? = some true

def FromCreation (v : Verdicts) (r : Resource) : Prop := v.created = true ∧ true ∉ v.heard r

def Removed (v : Verdicts) (r : Resource) : Prop :=
  true ∈ v.heard r ∧ (v.heard r).getLast? = some false

def Unheard (v : Verdicts) (r : Resource) : Prop := v.created = false ∧ true ∉ v.heard r

theorem earned_of_true {v : Verdicts} {r : Resource} (h : true ∈ v.heard r) (hr : ¬v.Removed r) :
    v.Earned r := by
  cases hl : (v.heard r).getLast? with
  | none =>
    rw [List.getLast?_eq_none_iff] at hl
    rw [hl] at h
    exact absurd h List.not_mem_nil
  | some b =>
    cases b with
    | true => exact hl
    | false => exact absurd ⟨h, hl⟩ hr

end Verdicts

namespace SubscriptionGate

open EventRun Subscribed

def note (_ : Subscribed) (e : SubscriptionEvent) (v : Verdicts) : Verdicts :=
  match e with
  | .createResource => ⟨true, fun _ => []⟩
  | .resetResourceSubscribed => ⟨false, fun _ => []⟩
  | .status r .subscribed => v.hear r true
  | .status r .unsubscribed => v.hear r false
  | .status _ _ => v

def Gate (p : Subscribed × Verdicts) : Prop :=
  p.1.isAllResSubscribed = true → ∀ r, autoObservable r = false → p.2.Earned r

def Raised (p : Subscribed × Verdicts) : Prop :=
  ∀ r, p.1 r = true ↔ autoObservable r = true ∨ p.2.created = true ∨ true ∈ p.2.heard r

theorem raised_status {p : Subscribed × Verdicts} (h : Raised p) (r : Resource) (b : Bool) :
    Raised (if b then Function.update p.1 r true else p.1, p.2.hear r b) := by
  intro q
  have hq := h q
  by_cases hr : q = r
  · subst hr
    cases b with
    | true => simp [Verdicts.hear]
    | false => simpa [Verdicts.hear] using hq
  · have hflag : (if b then Function.update p.1 r true else p.1) q = p.1 q := by
      split
      · exact Function.update_of_ne hr ..
      · rfl
    simpa only [hflag, Verdicts.hear, Function.update_of_ne hr] using hq

theorem raised_step (p : Subscribed × Verdicts) (e : SubscriptionEvent) (h : Raised p) :
    Raised (withHistory Subscribed.step note p e) := by
  cases e with
  | createResource =>
    intro r
    simp [withHistory, note, Subscribed.step, createResource_eq]
  | resetResourceSubscribed =>
    intro r
    simp [withHistory, note, Subscribed.step, resetResourceSubscribed_eq]
  | status r st =>
    cases st with
    | subscribed => exact raised_status h r true
    | unsubscribed => exact raised_status h r false
    | buildError | resendQueueFull | sent | delivered | sendFailed | rejected => exact h

theorem raised_run (es : List SubscriptionEvent) :
    Raised (run (withHistory Subscribed.step note) (Subscribed.start, Verdicts.start) es) :=
  inv_every_run raised_step (fun r => by simp [Subscribed.start, Verdicts.start, autoObservable]) es

theorem gate_of_raised {p : Subscribed × Verdicts} (h : Raised p) :
    Gate p ↔ (∃ r, autoObservable r = false ∧ p.2.Unheard r) ∨
      ∀ r, autoObservable r = false → ¬p.2.FromCreation r ∧ ¬p.2.Removed r := by
  constructor
  · intro hg
    by_cases hall : p.1.isAllResSubscribed = true
    · refine .inr fun r hr => ?_
      have hlast : (p.2.heard r).getLast? = some true := hg hall r hr
      refine ⟨fun hc => hc.2 (List.mem_of_getLast? hlast), fun hc => ?_⟩
      cases hlast.symm.trans hc.2
    · rw [isAllResSubscribed_iff, not_forall] at hall
      obtain ⟨r, hr⟩ := hall
      rw [h r, not_or, not_or] at hr
      exact .inl ⟨r, eq_false_of_ne_true hr.1, eq_false_of_ne_true hr.2.1, hr.2.2⟩
  · intro hc hall r hr
    rw [isAllResSubscribed_iff] at hall
    rcases hc with ⟨q, hq, hcreated, hheard⟩ | hc
    · rcases (h q).mp (hall q) with ha | hb | ht
      · exact Bool.noConfusion (hq.symm.trans ha)
      · exact Bool.noConfusion (hcreated.symm.trans hb)
      · exact absurd ht hheard
    · obtain ⟨hcreation, hremoved⟩ := hc r hr
      refine Verdicts.earned_of_true ?_ hremoved
      by_contra hnot
      rcases (h r).mp (hall r) with ha | hb | ht
      · exact Bool.noConfusion (hr.symm.trans ha)
      · exact hcreation ⟨hb, hnot⟩
      · exact hnot ht

theorem gate_iff_run (es : List SubscriptionEvent) :
    let p := run (withHistory Subscribed.step note) (Subscribed.start, Verdicts.start) es
    Gate p ↔ (∃ r, autoObservable r = false ∧ p.2.Unheard r) ∨
      ∀ r, autoObservable r = false → ¬p.2.FromCreation r ∧ ¬p.2.Removed r :=
  gate_of_raised (raised_run es)

theorem created_gate_open :
    ¬Gate (run (withHistory Subscribed.step note) (Subscribed.start, Verdicts.start)
      [.createResource]) := by
  intro h
  have hearned := h (by decide) .configNodereg rfl
  exact absurd hearned (by simp [Verdicts.Earned, withHistory, note])

theorem leaves_iff {i : Inputs} {s : State} (hs : s.appState = .waitResourceSubscribed) :
    (s.switch i).appState = .waitDevReg ↔ i.allSubscribed = true := by
  unfold State.switch
  rw [hs]
  dsimp only [State.waitResourceSubscribed]
  cases ha : i.allSubscribed with
  | true => exact iff_of_true rfl rfl
  | false =>
    refine iff_of_false (fun h => ?_) Bool.false_ne_true
    simp only [Bool.false_eq_true, if_false] at h
    split_ifs at h
    · cases (show AppState.toPelionDereg = .waitDevReg from h)
    · cases hs.symm.trans h
    · cases hs.symm.trans h
    · cases hs.symm.trans h

end SubscriptionGate

end SlcNode
