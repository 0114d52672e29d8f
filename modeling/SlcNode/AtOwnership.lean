import SlcNode.SignalStrength

namespace SlcNode.AtOwnership

open Handle CellularAt

def start (c : Cellular) : World Cellular AtOp := ⟨c, 0, []⟩

def Given (c : Cellular) : Prop := c.modem.device = true ∧ c.modem.handlers.head = true

instance (c : Cellular) : Decidable (Given c) := inferInstanceAs (Decidable (_ ∧ _))

variable {h : ℕ}

theorem uses_perform (h : ℕ) (ops : List AtOp) : Uses h (perform h ops) := by
  induction ops with
  | nil => exact uses_pure h ()
  | cons op ops ih => exact uses_bind (uses_use h op _) fun _ => ih

theorem perform_env (h : ℕ) (ops : List AtOp) (w : World Cellular AtOp) :
    (perform h ops w).2.env = w.env := by
  induction ops generalizing w with
  | nil => rfl
  | cons op ops ih =>
    rw [perform, bind_apply, ih]
    rfl

theorem uses_readInt (h : ℕ) : Uses h (readInt h) := uses_use h _ _

theorem uses_readString (h size : ℕ) : Uses h (readString h size) := uses_use h _ _

theorem uses_unlockReturnError (h : ℕ) : Uses h (unlockReturnError h) := uses_use h _ _

theorem uses_setBandAttempt (cmdstr : String) (h : ℕ) : Uses h (setBandAttempt cmdstr h) :=
  uses_bind (uses_perform h _) fun _ => uses_unlockReturnError h

theorem uses_psmAttempt (cmd : String) (h : ℕ) : Uses h (psmAttempt cmd h) :=
  uses_bind (uses_perform h _) fun _ => uses_unlockReturnError h

theorem uses_reportAttempt (h : ℕ) : Uses h (reportAttempt h) :=
  uses_bind (uses_perform h _) fun _ => uses_unlockReturnError h

theorem uses_signalBg96 (h : ℕ) : Uses h (signalBg96 h) :=
  uses_bind (uses_perform h _) fun _ => uses_bind (uses_readInt h) fun _ =>
    uses_bind (uses_readInt h) fun _ => uses_bind (uses_readInt h) fun _ =>
    uses_bind (uses_readInt h) fun _ => uses_bind (uses_perform h _) fun _ =>
    uses_bind (uses_unlockReturnError h) fun _ => uses_pure h _

theorem uses_signalBc95g (h : ℕ) : Uses h (signalBc95g h) :=
  uses_bind (uses_perform h _) fun _ => uses_bind (uses_readInt h) fun _ =>
    uses_bind (uses_readInt h) fun _ => uses_bind (uses_readInt h) fun _ =>
    uses_bind (uses_readInt h) fun _ => uses_bind (uses_readInt h) fun _ =>
    uses_bind (uses_readInt h) fun _ => uses_bind (uses_readInt h) fun _ =>
    uses_bind (uses_perform h _) fun _ =>
    uses_bind (uses_unlockReturnError h) fun _ => uses_pure h _

theorem uses_signalR410m (tgt : Target) (h : ℕ) : Uses h (signalR410m tgt h) :=
  uses_bind (uses_perform h _) fun _ => uses_bind (uses_readString h 200) fun _ =>
    uses_bind (uses_perform h _) fun _ => uses_bind (uses_readString h 200) fun _ =>
    uses_bind (uses_perform h _) fun _ =>
    uses_bind (uses_unlockReturnError h) fun _ => uses_pure h _

theorem uses_readSignal (tgt : Target) (h : ℕ) (module : CellModule) :
    Uses h (readSignal tgt h module) := by
  cases module with
  | bg96 => exact uses_signalBg96 h
  | bc95g => exact uses_signalBc95g h
  | r410m => exact uses_signalR410m tgt h
  | n410 => exact uses_signalR410m tgt h
  | max => exact uses_pure h _

theorem grows_perform (h : ℕ) (ops : List AtOp) : Grows (perform h ops) :=
  grows_of_uses (uses_perform h ops)

theorem grows_unlockReturnError (h : ℕ) : Grows (unlockReturnError h) :=
  grows_of_uses (uses_unlockReturnError h)

theorem touches_perform (h : ℕ) (op : AtOp) (ops : List AtOp) : Touches h (perform h (op :: ops)) :=
  touches_bind (touches_use h op _) fun _ => grows_perform h ops

theorem uses_queryBandmask (h : ℕ) : Uses h (queryBandmask h) :=
  uses_bind (uses_perform h _) fun _ => uses_bind (uses_readInt h) fun _ =>
    uses_bind (uses_readInt h) fun _ => uses_bind (uses_readInt h) fun _ =>
    uses_bind (uses_readInt h) fun _ => uses_bind (uses_perform h _) fun _ =>
    uses_bind (uses_unlockReturnError h) fun _ => uses_pure h _

theorem touches_selectProfile (h : ℕ) : Touches h (selectProfile h) :=
  touches_bind (touches_perform h _ _) fun _ =>
    grows_bind (grows_unlockReturnError h) fun _ => grows_perform h _

theorem grows_getBandRound {tgt : Target} {size h left : ℕ}
    (hagain : ∀ n, left = n + 1 → Grows (getBandLoop tgt size h n)) :
    Grows (getBandLoop tgt size h left) := by
  unfold getBandLoop
  refine grows_bind (grows_of_uses (uses_queryBandmask h)) fun ⟨ret, nbiot⟩ =>
    grows_bind (grows_release h _) fun _ => ?_
  cases nbiot with
  | some mask => exact grows_pure _
  | none =>
    refine grows_bind (grows_of_touches (touches_selectProfile h)) fun _ =>
      grows_bind (grows_release h _) fun _ => ?_
    cases left with
    | zero => exact grows_pure _
    | succ n => exact hagain n rfl

theorem grows_getBandLoop (tgt : Target) (size h left : ℕ) :
    Grows (getBandLoop tgt size h left) := by
  induction left with
  | zero => exact grows_getBandRound fun n hn => absurd hn.symm (Nat.succ_ne_zero n)
  | succ left ih =>
    refine grows_getBandRound fun n hn => ?_
    obtain rfl := Nat.succ_injective hn
    exact ih

def NbiotFirst (c : Cellular) : Prop :=
  (c.modem.ints.get 0).setWidth 8 = 1#8 ∨ (c.modem.ints.get 2).setWidth 8 = 1#8

instance (c : Cellular) : Decidable (NbiotFirst c) := inferInstanceAs (Decidable (_ ∨ _))

theorem nbiotMask_eq_none {rat₀ mask₀ rat₁ mask₁ : BitVec 32} :
    nbiotMask rat₀ mask₀ rat₁ mask₁ = none ↔
      ¬ (rat₀.setWidth 8 = 1#8 ∨ rat₁.setWidth 8 = 1#8) := by
  unfold nbiotMask
  split
  · simp_all
  · split <;> simp_all

theorem queryBandmask_nbiot (h : ℕ) (w : World Cellular AtOp) :
    (queryBandmask h w).1.2 = nbiotMask (w.env.modem.ints.get 0) (w.env.modem.ints.get 1)
      (w.env.modem.ints.get 2) (w.env.modem.ints.get 3) := by
  simp only [queryBandmask, bind_apply, readInt, use, perform_env]
  rfl

theorem queryBandmask_none {w : World Cellular AtOp} (h : ℕ) :
    (queryBandmask h w).1.2 = none ↔ ¬ NbiotFirst w.env := by
  rw [queryBandmask_nbiot]
  exact nbiotMask_eq_none

theorem getAtHandler_none {w : World Cellular AtOp} (hg : ¬ Given w.env) :
    ∃ env, getAtHandler w = (none, { w with env := env }) := by
  refine ⟨_, acquire_none ?_⟩
  unfold Given at hg
  cases hd : w.env.modem.device with
  | false => rfl
  | true => simpa [hd] using hg

theorem getAtHandler_some {w : World Cellular AtOp} (hg : Given w.env) :
    ∃ env, getAtHandler w =
        (some w.taken, ⟨env, w.taken + 1, w.trace ++ [.acquire w.taken]⟩) ∧
      env.modem.ints = w.env.modem.ints := by
  refine ⟨_, acquire_some ?_, ?_⟩
  · rw [hg.1, if_pos rfl, hg.2]
  · rw [hg.1, if_pos rfl]

theorem clean_releaseAtHandler {w₀ w : World Cellular AtOp} (hw : Held w₀ w) :
    Clean w₀ (releaseAtHandler w₀.taken w).2 := clean_release hw CellularAt.nextError

theorem not_owned_releaseAtHandler {α : Type} {f : ℤ → At α} {w₀ w : World Cellular AtOp}
    (hw : Held w₀ w) (h₀ : w₀.trace = []) (hf : ∀ ret, Touches w₀.taken (f ret)) :
    ¬ Owned ((releaseAtHandler w₀.taken >>= f) w).2.trace :=
  not_owned_of_touches hw h₀ CellularAt.nextError hf

theorem clean_getAtHandler {α : Type} {body : Option ℕ → At α} (w : World Cellular AtOp)
    (hnone : ∀ w', Clean w' (body none w').2)
    (hsome : ∀ w', Held w w' → Clean w (body (some w.taken) w').2) :
    Clean w ((getAtHandler >>= body) w).2 := by
  by_cases hg : Given w.env
  · obtain ⟨env, heq, -⟩ := getAtHandler_some hg
    rw [bind_apply, heq]
    exact hsome _ (held_acquire env w)
  · obtain ⟨env, heq⟩ := getAtHandler_none hg
    rw [bind_apply, heq]
    exact clean_trans (clean_look w fun _ => ((), env)) (hnone _)

theorem clean_enableSignalStrengthReport (w : World Cellular AtOp) :
    Clean w (enableSignalStrengthReport w).2 := by
  rw [enableSignalStrengthReport, bind_apply]
  cases (Handle.look (fun c => (c.enSignalReport, c)) w).1 with
  | true => exact clean_refl w
  | false =>
    refine clean_getAtHandler w clean_refl fun w' hw => ?_
    have hflush := held_uses hw (uses_perform w.taken [.flush])
    have hheld := held_uses hflush (uses_retry (uses_reportAttempt w.taken) (· < 0) 2)
    dsimp only
    rw [bind_apply, bind_apply, bind_apply]
    exact clean_releaseAtHandler hheld

theorem clean_getSignalStrength (tgt : Target) (w : World Cellular AtOp) :
    Clean w (getSignalStrength tgt w).2 := by
  rw [getSignalStrength, bind_apply]
  refine clean_trans (clean_enableSignalStrengthReport w)
    (clean_getAtHandler _ clean_refl fun w' hw => ?_)
  have hlook := held_uses hw (uses_look _ fun c : Cellular => (c.module, c))
  dsimp only
  rw [bind_apply, bind_apply, bind_apply]
  exact clean_releaseAtHandler (held_uses hlook (uses_readSignal tgt _ _))

theorem clean_setBandR410M (tgt : Target) (band : Option (List Byte)) (w : World Cellular AtOp) :
    Clean w (setBandR410M tgt band w).2 := by
  rcases band with _ | _ | ⟨b, band⟩
  · exact clean_refl w
  · exact clean_refl w
  · refine clean_getAtHandler w clean_refl fun w' hw => ?_
    have hsent := held_uses hw
      (uses_retry (uses_setBandAttempt (setBandCmd tgt (b :: band)) w.taken) (· != 0) 3)
    have hheld := held_uses hsent (uses_perform w.taken [.setDebug false])
    dsimp only
    rw [bind_apply, bind_apply, bind_apply]
    exact clean_releaseAtHandler hheld

theorem psmCommand_owned_iff (cmd : String) (c : Cellular) :
    Owned ((psmCommand cmd) (start c)).2.trace ↔ ¬ Given c := by
  constructor
  · intro howned hg
    obtain ⟨env, heq, -⟩ := getAtHandler_some (w := start c) hg
    rw [psmCommand, bind_apply, heq] at howned
    have hdebug := held_uses (held_acquire env (start c)) (uses_perform 0 [.setDebug true])
    have hheld := held_uses hdebug (uses_retry (uses_psmAttempt cmd 0) (· < 0) 2)
    dsimp only at howned
    rw [bind_apply, bind_apply] at howned
    exact not_owned_releaseAtHandler hheld rfl
      (fun _ => touches_bind (touches_perform 0 (.setDebug false) []) fun _ => grows_pure _) howned
  · intro hg
    obtain ⟨env, heq⟩ := getAtHandler_none (w := start c) hg
    rw [psmCommand, bind_apply, heq]
    exact owned_nil

theorem clean_getBandLoop (tgt : Target) (size left : ℕ) {w₀ w : World Cellular AtOp}
    (hw : Held w₀ w) (hn : NbiotFirst w.env) :
    Clean w₀ (getBandLoop tgt size w₀.taken left w).2 := by
  have hheld := held_uses hw (uses_queryBandmask w₀.taken)
  have hquery := (queryBandmask_none (w := w) w₀.taken).not.mpr (not_not.mpr hn)
  have hclean := clean_releaseAtHandler hheld
  unfold getBandLoop
  rw [bind_apply]
  generalize hq : queryBandmask w₀.taken w = q at hheld hquery hclean
  obtain ⟨⟨ret, nbiot⟩, w'⟩ := q
  cases nbiot with
  | none => exact absurd rfl hquery
  | some mask => exact hclean

theorem not_owned_getBandLoop (tgt : Target) (size left : ℕ) {w₀ w : World Cellular AtOp}
    (hw : Held w₀ w) (h₀ : w₀.trace = []) (hn : ¬ NbiotFirst w.env) :
    ¬ Owned (getBandLoop tgt size w₀.taken left w).2.trace := by
  have hheld := held_uses hw (uses_queryBandmask w₀.taken)
  have hquery := (queryBandmask_none (w := w) w₀.taken).mpr hn
  unfold getBandLoop
  rw [bind_apply]
  generalize hq : queryBandmask w₀.taken w = q at hheld hquery
  obtain ⟨⟨ret, nbiot⟩, w'⟩ := q
  obtain rfl : nbiot = none := hquery
  dsimp only
  refine not_owned_releaseAtHandler hheld h₀ fun _ =>
    touches_bind (touches_selectProfile w₀.taken) fun _ =>
    grows_bind (grows_release w₀.taken CellularAt.nextError) fun _ => ?_
  cases left with
  | zero => exact grows_pure _
  | succ left => exact grows_getBandLoop tgt size w₀.taken left

theorem getBandR410M_owned_iff (tgt : Target) (band : Bool) (size : ℕ) (c : Cellular) :
    Owned (getBandR410M tgt band size (start c)).2.trace ↔
      (Given c → band = true → size ≠ 0 → NbiotFirst c) := by
  by_cases hb : (!band || size == 0) = true
  · have hnone : getBandR410M tgt band size (start c) = (⟨-1, []⟩, start c) := by
      rw [getBandR410M, if_pos hb]
      rfl
    rw [hnone]
    refine iff_of_true owned_nil fun _ hband hsize => ?_
    simp [hband, hsize] at hb
  · have hband : band = true ∧ size ≠ 0 := by simpa using hb
    rw [getBandR410M, if_neg hb, bind_apply]
    by_cases hg : Given c
    · obtain ⟨env, heq, hints⟩ := getAtHandler_some (w := start c) hg
      have hnbiot : NbiotFirst env ↔ NbiotFirst c := by
        unfold NbiotFirst
        rw [hints]
        exact Iff.rfl
      have hheld := held_acquire env (start c)
      rw [heq]
      constructor
      · intro howned _ _ _
        by_contra hn
        exact not_owned_getBandLoop tgt size 1 hheld rfl (hnbiot.not.mpr hn) howned
      · intro hn
        exact owned_of_clean (clean_getBandLoop tgt size 1 hheld
          (hnbiot.mpr (hn hg hband.1 hband.2))) rfl
    · obtain ⟨env, heq⟩ := getAtHandler_none (w := start c) hg
      rw [heq]
      exact iff_of_true owned_nil fun h => absurd h hg

inductive Call
  | getBand (band : Bool) (size : ℕ)
  | setBand (band : Option (List Byte))
  | disablePsm
  | enablePsmNotice
  | getSignalStrength

def Call.trace (tgt : Target) (c : Cellular) : Call → List (Event AtOp)
  | .getBand band size => (getBandR410M tgt band size (start c)).2.trace
  | .setBand band => (setBandR410M tgt band (start c)).2.trace
  | .disablePsm => (disablePsmR410M (start c)).2.trace
  | .enablePsmNotice => (enablePsmNoticeR410M (start c)).2.trace
  | .getSignalStrength => (CellularAt.getSignalStrength tgt (start c)).2.trace

def Call.Safe (c : Cellular) : Call → Prop
  | .getBand band size => Given c → band = true → size ≠ 0 → NbiotFirst c
  | .disablePsm | .enablePsmNotice => ¬ Given c
  | .setBand _ | .getSignalStrength => True

theorem owned_iff (tgt : Target) (c : Cellular) (call : Call) :
    Owned (call.trace tgt c) ↔ call.Safe c := by
  cases call with
  | getBand band size => exact getBandR410M_owned_iff tgt band size c
  | setBand band => exact iff_of_true (owned_of_clean (clean_setBandR410M tgt band _) rfl) trivial
  | disablePsm => exact psmCommand_owned_iff "AT+CPSMS=0" c
  | enablePsmNotice => exact psmCommand_owned_iff "AT+UPSMR=1" c
  | getSignalStrength => exact iff_of_true (owned_of_clean (clean_getSignalStrength tgt _) rfl) trivial

def modem : Modem :=
  { device := true
    handlers := fun _ => true
    ints := fun _ => 0
    strings := fun _ => some []
    errors := fun _ => 0 }

theorem used_after_release :
    ¬ Owned (Call.trace ⟨fun _ => 0, fun _ => 0⟩ ⟨modem, .r410m, false⟩ .disablePsm) ∧
    ¬ Owned (Call.trace ⟨fun _ => 0, fun _ => 0⟩ ⟨modem, .r410m, false⟩ (.getBand true 6)) := by
  decide +kernel

end SlcNode.AtOwnership
