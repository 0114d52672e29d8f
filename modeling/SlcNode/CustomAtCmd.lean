import SlcNode.Library.EventRun
import SlcNode.Event

namespace SlcNode

abbrev resourceMaxAtCmdStringSize : ℕ := 20

inductive AtStep
  | test
  | upload
  | clear
deriving DecidableEq, Repr

inductive AtAnswer
  | tooLong
  | response (cmd : List Byte)
deriving DecidableEq

structure CustomAt where
  customAtCmd : List Byte
  customAtCmdTooLong : Bool
  uploadCustomAtCmd : Bool
  next : AtStep
  answers : List AtAnswer
deriving DecidableEq

inductive AtEvent
  | put (buff : List Byte)
  | block

namespace CustomAt

def init : CustomAt := ⟨[], false, false, .test, []⟩

/-- What `print` makes of the command, which is the format of the `snprintf`, is cut to the buffer
and its terminator. -/
def updateCustomAtCmd (print : List Byte → List Byte) (buff : List Byte) (c : CustomAt) : CustomAt :=
  if buff.length > resourceMaxAtCmdStringSize then
    { c with customAtCmdTooLong := true, uploadCustomAtCmd := true }
  else
    { c with
      customAtCmd := (print buff).take (resourceMaxAtCmdStringSize - 1)
      uploadCustomAtCmd := true }

def answer (c : CustomAt) : AtAnswer :=
  if c.customAtCmdTooLong then .tooLong else .response c.customAtCmd

def uploadAnswer (c : CustomAt) : CustomAt := { c with answers := c.answers ++ [c.answer] }

def block (c : CustomAt) : CustomAt :=
  match c.next with
  | .test => if c.uploadCustomAtCmd then { c with next := .upload } else c
  | .upload => { c.uploadAnswer with next := .clear }
  | .clear => { c with uploadCustomAtCmd := false, next := .test }

def step (print : List Byte → List Byte) (c : CustomAt) : AtEvent → CustomAt
  | .put buff => c.updateCustomAtCmd print buff
  | .block => c.block

end CustomAt

namespace CustomAtCmd

open EventRun CustomAt

theorem run_block (print : List Byte → List Byte) {c : CustomAt} (h : c.next = .test) :
    run (CustomAt.step print) c [.block, .block, .block] =
      if c.uploadCustomAtCmd then { c.uploadAnswer with uploadCustomAtCmd := false } else c := by
  obtain ⟨cmd, long, raised, next, answers⟩ := c
  change next = .test at h
  subst h
  cases raised <;> rfl

theorem run_block_standby (print : List Byte → List Byte) {c : CustomAt} {s : State}
    (h : c.next = .test) (hs : c.uploadCustomAtCmd = s.uploadCustomAtCmd) :
    (run (CustomAt.step print) c [.block, .block, .block]).uploadCustomAtCmd =
      s.toUploadCustomAtCmd.uploadCustomAtCmd := by
  rw [run_block print h, State.toUploadCustomAtCmd, ← hs]
  cases hr : c.uploadCustomAtCmd with
  | false => exact hr.trans (hr.symm.trans hs)
  | true => rfl

/-- The last command put, whether an upload has served it since, and whether it came after the
last upload. -/
structure Past where
  last : Option (List Byte)
  served : Bool
  arrived : Bool
deriving DecidableEq

def start : Past := ⟨none, true, false⟩

def Serves (cmd : List Byte) : AtAnswer → Prop
  | .tooLong => resourceMaxAtCmdStringSize < cmd.length
  | .response sent => sent = cmd

instance (cmd : List Byte) : ∀ a, Decidable (Serves cmd a)
  | .tooLong => inferInstanceAs (Decidable (_ < _))
  | .response _ => inferInstanceAs (Decidable (_ = _))

def note (c : CustomAt) (e : AtEvent) (p : Past) : Past :=
  match e with
  | .put buff => ⟨some buff, false, true⟩
  | .block =>
    if c.next = .upload then
      { p with served := p.served || p.last.any (fun cmd => Serves cmd c.answer), arrived := false }
    else p

def Answered (print : List Byte → List Byte) (p : CustomAt × Past) (e : AtEvent) : Prop :=
  (p.1.step print e).uploadCustomAtCmd = false → (note p.1 e p.2).served = true

instance (print : List Byte → List Byte) (p : CustomAt × Past) (e : AtEvent) :
    Decidable (Answered print p e) := inferInstanceAs (Decidable (_ → _))

def Fits (print : List Byte → List Byte) (c : CustomAt) (cmd : List Byte) : Prop :=
  resourceMaxAtCmdStringSize < cmd.length ∨
    c.customAtCmdTooLong = false ∧ (print cmd).take (resourceMaxAtCmdStringSize - 1) = cmd

def ClearsServed (print : List Byte → List Byte) (p : CustomAt × Past) : AtEvent → Prop
  | .put _ => True
  | .block => p.1.next = .clear → p.2.arrived = false ∧ ∀ cmd ∈ p.2.last, Fits print p.1 cmd

structure Inv (print : List Byte → List Byte) (p : CustomAt × Past) : Prop where
  quiet : p.1.uploadCustomAtCmd = false → p.1.next = .test ∧ p.2.served = true
  raised : p.1.uploadCustomAtCmd = true → p.1.next ≠ .clear → p.2.arrived = true
  waiting : p.2.arrived = true → p.2.served = false
  long : ∀ cmd ∈ p.2.last, resourceMaxAtCmdStringSize < cmd.length → p.1.customAtCmdTooLong = true
  short : ∀ cmd ∈ p.2.last, cmd.length ≤ resourceMaxAtCmdStringSize →
    p.1.customAtCmd = (print cmd).take (resourceMaxAtCmdStringSize - 1)
  known : p.1.uploadCustomAtCmd = true → p.2.last.isSome = true
  uploaded : p.1.next = .clear → p.2.arrived = false →
    (p.2.served = true ↔ ∀ cmd ∈ p.2.last, Fits print p.1 cmd)

variable {print : List Byte → List Byte}

theorem inv_init : Inv print (CustomAt.init, start) where
  quiet _ := ⟨rfl, rfl⟩
  raised h := absurd h Bool.false_ne_true
  waiting h := absurd h Bool.false_ne_true
  long _ h := absurd h (Option.not_mem_none _)
  short _ h := absurd h (Option.not_mem_none _)
  known h := absurd h Bool.false_ne_true
  uploaded h := absurd h (by decide)

theorem raised_of_ne_test {p : CustomAt × Past} (hi : Inv print p) (hn : p.1.next ≠ .test) :
    p.1.uploadCustomAtCmd = true := by
  by_contra hr
  exact hn (hi.quiet (Bool.not_eq_true _ ▸ hr)).1

theorem serves_answer {p : CustomAt × Past} (hi : Inv print p) {cmd : List Byte}
    (h : p.2.last = some cmd) : Serves cmd p.1.answer ↔ Fits print p.1 cmd := by
  have hlong := hi.long cmd h
  have hshort := hi.short cmd h
  unfold answer Fits
  by_cases hlen : resourceMaxAtCmdStringSize < cmd.length
  · simp [hlong hlen, Serves, hlen]
  · rw [Nat.not_lt] at hlen
    cases ht : p.1.customAtCmdTooLong <;> simp [Serves, hshort hlen, hlen]

theorem raised_put (print : List Byte → List Byte) (buff : List Byte) (c : CustomAt) :
    (c.updateCustomAtCmd print buff).uploadCustomAtCmd = true := by
  rw [updateCustomAtCmd]
  split <;> rfl

theorem inv_put (p : CustomAt × Past) (buff : List Byte) :
    Inv print (withHistory (CustomAt.step print) note p (.put buff)) := by
  have hraised := raised_put print buff p.1
  refine ⟨?_, fun _ _ => rfl, fun _ => rfl, ?_, ?_, fun _ => rfl, ?_⟩
  · intro h
    exact Bool.noConfusion (hraised.symm.trans h)
  · intro cmd hcmd hlen
    obtain rfl := Option.some.inj hcmd
    exact congrArg customAtCmdTooLong (if_pos hlen)
  · intro cmd hcmd hlen
    obtain rfl := Option.some.inj hcmd
    exact congrArg customAtCmd (if_neg (Nat.not_lt.mpr hlen))
  · intro _ h
    exact Bool.noConfusion h

theorem inv_test {p : CustomAt × Past} (hi : Inv print p) (hn : p.1.next = .test) :
    Inv print (withHistory (CustomAt.step print) note p .block) := by
  obtain ⟨c, η⟩ := p
  change c.next = .test at hn
  have hnote : note c .block η = η := if_neg (by rw [hn]; decide)
  rw [withHistory, hnote]
  unfold CustomAt.step block
  rw [hn]
  dsimp only
  cases hr : c.uploadCustomAtCmd with
  | false => exact hi
  | true =>
    have harrived := hi.raised hr (by rw [hn]; decide)
    refine ⟨fun h => ?_, fun _ _ => harrived, hi.waiting, hi.long, hi.short, fun _ => hi.known hr,
      fun h => ?_⟩
    · exact Bool.noConfusion h
    · cases h

theorem inv_upload {p : CustomAt × Past} (hi : Inv print p) (hn : p.1.next = .upload) :
    Inv print (withHistory (CustomAt.step print) note p .block) := by
  obtain ⟨c, η⟩ := p
  change c.next = .upload at hn
  have hr : c.uploadCustomAtCmd = true := raised_of_ne_test hi (by rw [hn]; decide)
  have hunserved := hi.waiting (hi.raised hr (by rw [hn]; decide))
  obtain ⟨cmd, hlast⟩ := Option.isSome_iff_exists.mp (hi.known hr)
  have hserves := serves_answer hi hlast
  unfold withHistory note CustomAt.step block
  rw [hn]
  dsimp only
  refine ⟨fun h => ?_, fun _ h => absurd rfl h, fun h => ?_, hi.long, hi.short, fun _ => hi.known hr,
    fun _ _ => ?_⟩
  · exact Bool.noConfusion (hr.symm.trans h)
  · exact Bool.noConfusion h
  · change (η.served || η.last.any fun cmd => decide (Serves cmd c.answer)) = true ↔
      ∀ cmd ∈ η.last, Fits print c cmd
    change η.last = some cmd at hlast
    change η.served = false at hunserved
    simp only [hunserved, hlast, Option.any_some, Bool.false_or, decide_eq_true_eq, hserves,
      Option.mem_some_iff, forall_eq']

theorem inv_clear {p : CustomAt × Past} (hi : Inv print p) (hn : p.1.next = .clear)
    (hg : ClearsServed print p .block) :
    Inv print (withHistory (CustomAt.step print) note p .block) := by
  obtain ⟨c, η⟩ := p
  change c.next = .clear at hn
  obtain ⟨harrived, hfits⟩ := hg hn
  have hserved := (hi.uploaded hn harrived).mpr hfits
  have hnote : note c .block η = η := if_neg (by rw [hn]; decide)
  rw [withHistory, hnote]
  unfold CustomAt.step block
  rw [hn]
  exact ⟨fun _ => ⟨rfl, hserved⟩, fun h => Bool.noConfusion h, hi.waiting, hi.long, hi.short,
    fun h => Bool.noConfusion h, fun h => by cases h⟩

theorem inv_step (p : CustomAt × Past) (e : AtEvent) (hi : Inv print p)
    (hg : ClearsServed print p e) :
    Inv print (withHistory (CustomAt.step print) note p e) := by
  cases e with
  | put buff => exact inv_put p buff
  | block =>
    cases hn : p.1.next with
    | test => exact inv_test hi hn
    | upload => exact inv_upload hi hn
    | clear => exact inv_clear hi hn hg

theorem answered_iff (p : CustomAt × Past) (e : AtEvent) (hi : Inv print p) :
    Answered print p e ↔ ClearsServed print p e := by
  cases e with
  | put buff =>
    have hraised := raised_put print buff p.1
    exact iff_of_true (fun h => Bool.noConfusion (hraised.symm.trans h)) trivial
  | block =>
    unfold Answered ClearsServed note CustomAt.step block
    cases hn : p.1.next with
    | test =>
      refine iff_of_true (fun h => ?_) (fun h => by cases h)
      dsimp only at h ⊢
      cases hr : p.1.uploadCustomAtCmd with
      | false => exact (hi.quiet hr).2
      | true =>
        rw [hr] at h
        exact Bool.noConfusion h
    | upload =>
      have hr := raised_of_ne_test hi (by rw [hn]; decide)
      refine iff_of_true (fun h => ?_) (fun h => by cases h)
      exact Bool.noConfusion (hr.symm.trans h)
    | clear =>
      have hclear := hi.uploaded hn
      have hwait := hi.waiting
      dsimp only
      cases ha : p.2.arrived with
      | false => simp [hclear ha]
      | true => simp [hwait ha]

theorem answered_iff_run (print : List Byte → List Byte) (es : List AtEvent) :
    Throughout (withHistory (CustomAt.step print) note) (Answered print) (CustomAt.init, start) es ↔
      Throughout (withHistory (CustomAt.step print) note) (ClearsServed print)
        (CustomAt.init, start) es := by
  exact throughout_iff_guard inv_step answered_iff inv_init

theorem late_command_lost :
    ¬Throughout (withHistory (CustomAt.step id) note) (Answered id) (CustomAt.init, start)
      [.put [0x41, 0x54], .block, .block, .put [0x41, 0x54, 0x49], .block] := by
  decide

end CustomAtCmd

end SlcNode
