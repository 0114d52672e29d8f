import SlcNode.CellularExt
import SlcNode.Library.EventRun

namespace SlcNode.AtDialogue

open Handle CellularAt CellularExt AtOwnership Monitor EventRun

inductive Phase
  | idle
  | locked
  | command
  | sent
  | answer
deriving DecidableEq

def Phase.hear : Phase → AtOp → Option Phase
  | .idle, .flush => some .idle
  | .idle, .lock => some .locked
  | .locked, .cmdStart _ => some .command
  | .locked, .unlockReturnError => some .idle
  | .command, .cmdStop => some .sent
  | .command, .cmdStopReadResp => some .locked
  | .sent, .respStart _ => some .answer
  | .answer, .readInt => some .answer
  | .answer, .readString _ => some .answer
  | .answer, .respStop => some .locked
  | .idle, .setDebug _ => some .idle
  | .locked, .setDebug _ => some .locked
  | .sent, .setDelimiter _ => some .sent
  | .locked, .setDefaultDelimiter => some .locked
  | _, _ => none

def Phase.next : Phase → ExtOp → Option Phase
  | phase, .at op => phase.hear op
  | .command, .writeInt _ => some .command
  | .command, .writeString _ => some .command
  | .answer, .readHexString _ => some .answer
  | .locked, .unlock => some .idle
  | _, _ => none

def orderly (phase : Phase) : Handle.Event ExtOp → Option Phase
  | .use _ op => phase.next op
  | .acquire _ | .release _ => if phase = .idle then some .idle else none

/-- The calls of the file, apart from the null pointers. -/
inductive Call
  | info (cmd : String) (size : ℕ)
  | getCcid (size : ℕ)
  | sendAll (cmds : List String)
  | setApn (apn : Option (List Byte))
  | clearApn
  | queryApn
  | getPsm
  | getEdrx
  | getEdrxrdp
  | psmCommand (cmd : String)
  | getSignalQuality (rssi ber : ℤ)
  | enableSignalStrengthReport
  | getSignalStrength
  | getCellId
  | getBandBC95G (band : Bool) (size : ℕ)
  | setBandBC95G (band : Option (List Byte))
  | getBandR410M (band : Bool) (size : ℕ)
  | setBandR410M (band : Option (List Byte))
  | disconnectRAI
  | attach
  | detach
  | preInitModule (band : List Byte)

def result {α : Type} (p : Ext α) : Ext Unit := p >>= fun _ => pure ()

def Call.program (tgt : Target) : Call → Ext Unit
  | .info cmd size => result (lift (CellularExt.info cmd size))
  | .getCcid size => result (lift (CellularExt.getCcid size))
  | .sendAll cmds => result (lift (CellularExt.sendAll cmds))
  | .setApn apn => result (CellularExt.setApn apn)
  | .clearApn => result (lift CellularExt.clearApn)
  | .queryApn => result (lift CellularExt.queryApn)
  | .getPsm => result (lift CellularExt.getPsm)
  | .getEdrx => result (lift CellularExt.getEdrx)
  | .getEdrxrdp => result (lift CellularExt.getEdrxrdp)
  | .psmCommand cmd => result (lift (CellularAt.psmCommand cmd))
  | .getSignalQuality rssi ber => result (CellularExt.getSignalQuality rssi ber)
  | .enableSignalStrengthReport => lift CellularAt.enableSignalStrengthReport
  | .getSignalStrength => result (lift (CellularAt.getSignalStrength tgt))
  | .getCellId => result CellularExt.getCellId
  | .getBandBC95G band size => result (lift (CellularAt.getBandBC95G band size))
  | .setBandBC95G band => result (lift (CellularAt.setBandBC95G band))
  | .getBandR410M band size => result (lift (CellularAt.getBandR410M tgt band size))
  | .setBandR410M band => result (lift (CellularAt.setBandR410M tgt band))
  | .disconnectRAI => CellularExt.disconnectRAI
  | .attach => lift CellularExt.attach
  | .detach => lift CellularExt.detach
  | .preInitModule band => result (lift (CellularExt.preInitModule tgt band))

def Call.Unfinished (c : Cellular) : Call → Prop
  | .getPsm | .getEdrx | .getEdrxrdp => Given c
  | .attach => c.module ≠ .max ∧ Given c
  | _ => False

def orderlyAt (phase : Phase) (e : Handle.Event AtOp) : Option Phase :=
  orderly phase (renamed .at e)

section Steps

variable {α : Type} {k k' : Phase} {r : Option Phase} {h : ℕ}

theorem leads_perform {ops : List AtOp} (hops : (ops.map (.use h)).foldlM orderlyAt k = r) :
    Leads orderlyAt k r (perform h ops) := by
  induction ops generalizing k with
  | nil => exact hops ▸ leads_pure ()
  | cons op ops ih =>
    rw [List.map_cons, List.foldlM_cons] at hops
    cases hop : orderlyAt k (.use h op) with
    | none =>
      rw [hop] at hops
      exact hops ▸ leads_bind_none (leads_use _ hop) fun _ => grows_perform h ops
    | some k' =>
      rw [hop] at hops
      exact leads_bind (leads_use _ hop) fun _ => ih hops

theorem leads_readInt : Leads orderlyAt .answer (some .answer) (readInt h) := leads_use _ rfl

theorem leads_readString (size : ℕ) :
    Leads orderlyAt .answer (some .answer) (readString h size) := leads_use _ rfl

theorem leads_unlock : Leads orderlyAt .locked (some .idle) (unlockReturnError h) := leads_use _ rfl

theorem leads_releaseAtHandler : Leads orderlyAt .idle (some .idle) (releaseAtHandler h) :=
  leads_release _ rfl

theorem leads_getAtHandler {body : Option ℕ → At α} (hnone : Leads orderlyAt .idle r (body none))
    (hsome : ∀ h, Leads orderlyAt .idle r (body (some h))) :
    Leads orderlyAt .idle r (getAtHandler >>= body) :=
  leads_acquire (fun _ => rfl) hnone hsome

theorem leads_lift {p : At α} (hp : Leads orderlyAt k r p) : Leads orderly k r (lift p) :=
  leads_relabel hp

theorem leads_lift_getAtHandler {body : Option ℕ → Ext α} (hnone : Leads orderly .idle r (body none))
    (hsome : ∀ h, Leads orderly .idle r (body (some h))) :
    Leads orderly .idle r (lift getAtHandler >>= body) := by
  rw [lift, getAtHandler, relabel_acquire]
  exact leads_acquire (fun _ => rfl) hnone hsome

theorem leads_ask {op : ExtOp} (hop : k.next op = r) : Leads orderly k r (ask h op) :=
  leads_use _ hop

theorem leads_exchanges (cmds : List String) :
    Leads orderlyAt .idle (some .locked) (perform h ([.flush, .lock] ++ cmds.flatMap exchange)) := by
  refine leads_perform ?_
  rw [List.map_append, List.foldlM_append]
  change ((cmds.flatMap exchange).map (.use h)).foldlM orderlyAt .locked = some .locked
  induction cmds with
  | nil => rfl
  | cons cmd cmds ih =>
    rw [List.flatMap_cons, List.map_append, List.foldlM_append]
    exact ih

theorem leads_psmAttempt (cmd : String) : Leads orderlyAt .idle (some .idle) (psmAttempt cmd h) :=
  leads_bind (leads_perform rfl) fun _ => leads_unlock

theorem leads_sendCommand (cmd : String) : Leads orderlyAt .idle (some .idle) (sendCommand cmd h) :=
  leads_bind (leads_perform rfl) fun _ => leads_unlock

end Steps

section Kept

theorem leads_info (cmd : String) (size : ℕ) :
    Leads orderlyAt .idle (some .idle) (info cmd size) := by
  refine leads_getAtHandler (leads_pure _) fun h => leads_bind (leads_perform rfl) fun _ => ?_
  have hinfo : Leads orderlyAt .idle (some .idle) (getAtInfo h cmd size) :=
    leads_bind (leads_perform rfl) fun _ => leads_bind (leads_readString _) fun _ =>
      leads_bind (leads_perform rfl) fun _ => leads_bind leads_unlock fun _ => leads_pure _
  exact leads_bind hinfo fun _ => leads_bind leads_releaseAtHandler fun _ => leads_pure _

theorem leads_getCcid (size : ℕ) : Leads orderlyAt .idle (some .idle) (getCcid size) :=
  leads_getAtHandler (leads_pure _) fun _ => leads_bind (leads_perform rfl) fun _ =>
    leads_bind (leads_readString _) fun _ => leads_bind (leads_perform rfl) fun _ =>
    leads_bind leads_unlock fun _ => leads_bind leads_releaseAtHandler fun _ => leads_pure _

theorem leads_sendAll (cmds : List String) : Leads orderlyAt .idle (some .idle) (sendAll cmds) :=
  leads_getAtHandler (leads_pure _) fun _ => leads_bind (leads_exchanges cmds) fun _ =>
    leads_bind leads_unlock fun _ => leads_bind leads_releaseAtHandler fun _ => leads_pure _

theorem leads_clearApn : Leads orderlyAt .idle (some .idle) clearApn :=
  leads_getAtHandler (leads_pure _) fun _ => leads_bind (leads_perform rfl) fun _ =>
    leads_bind (leads_psmAttempt _) fun _ => leads_bind (leads_psmAttempt _) fun _ =>
    leads_bind (leads_psmAttempt _) fun _ => leads_bind (leads_perform rfl) fun _ =>
    leads_bind leads_releaseAtHandler fun _ => leads_pure _

theorem leads_queryApn : Leads orderlyAt .idle (some .idle) queryApn :=
  leads_getAtHandler (leads_pure _) fun _ => leads_bind (leads_perform rfl) fun _ =>
    leads_bind (leads_psmAttempt _) fun _ => leads_bind leads_releaseAtHandler fun _ => leads_pure _

theorem leads_psmCommand (cmd : String) : Leads orderlyAt .idle (some .idle) (psmCommand cmd) :=
  leads_getAtHandler (leads_pure _) fun _ => leads_bind (leads_perform rfl) fun _ =>
    leads_bind (leads_retry (leads_psmAttempt cmd) _ 2) fun _ =>
    leads_bind leads_releaseAtHandler fun _ => leads_bind (leads_perform rfl) fun _ => leads_pure _

theorem leads_enableSignalStrengthReport :
    Leads orderlyAt .idle (some .idle) enableSignalStrengthReport := by
  refine leads_bind (leads_look _) fun reported => ?_
  cases reported with
  | true => exact leads_pure ()
  | false =>
    refine leads_getAtHandler (leads_pure _) fun h => leads_bind (leads_perform rfl) fun _ => ?_
    have hattempt : Leads orderlyAt .idle (some .idle) (reportAttempt h) :=
      leads_bind (leads_perform rfl) fun _ => leads_unlock
    exact leads_bind (leads_retry hattempt _ 2) fun _ =>
      leads_bind leads_releaseAtHandler fun _ => leads_look _

theorem leads_signalR410m (tgt : Target) (h : ℕ) :
    Leads orderlyAt .idle (some .idle) (signalR410m tgt h) :=
  leads_bind (leads_perform rfl) fun _ => leads_bind (leads_readString _) fun _ =>
    leads_bind (leads_perform rfl) fun _ => leads_bind (leads_readString _) fun _ =>
    leads_bind (leads_perform rfl) fun _ => leads_bind leads_unlock fun _ => leads_pure _

theorem leads_readSignal (tgt : Target) (h : ℕ) (module : CellModule) :
    Leads orderlyAt .idle (some .idle) (readSignal tgt h module) := by
  cases module with
  | bg96 =>
    exact leads_bind (leads_perform rfl) fun _ => leads_bind leads_readInt fun _ =>
      leads_bind leads_readInt fun _ => leads_bind leads_readInt fun _ => leads_bind leads_readInt fun _ =>
      leads_bind (leads_perform rfl) fun _ => leads_bind leads_unlock fun _ => leads_pure _
  | bc95g =>
    exact leads_bind (leads_perform rfl) fun _ => leads_bind leads_readInt fun _ =>
      leads_bind leads_readInt fun _ => leads_bind leads_readInt fun _ => leads_bind leads_readInt fun _ =>
      leads_bind leads_readInt fun _ => leads_bind leads_readInt fun _ => leads_bind leads_readInt fun _ =>
      leads_bind (leads_perform rfl) fun _ => leads_bind leads_unlock fun _ => leads_pure _
  | r410m => exact leads_signalR410m tgt h
  | n410 => exact leads_signalR410m tgt h
  | max => exact leads_pure _

theorem leads_getSignalStrength (tgt : Target) :
    Leads orderlyAt .idle (some .idle) (CellularAt.getSignalStrength tgt) :=
  leads_bind leads_enableSignalStrengthReport fun _ =>
    leads_getAtHandler (leads_pure _) fun h => leads_bind (leads_look _) fun module =>
      leads_bind (leads_readSignal tgt h module) fun _ =>
      leads_bind leads_releaseAtHandler fun _ => leads_pure _

theorem leads_readBands (n : ℕ) {h : ℕ} (band : List Byte) :
    Leads orderlyAt .answer (some .answer) (readBands h n band) := by
  induction n generalizing band with
  | zero => exact leads_pure band
  | succ n ih =>
    refine leads_bind leads_readInt fun ret => ?_
    split
    · exact leads_pure band
    · exact ih _

theorem leads_getBandBC95G (band : Bool) (size : ℕ) :
    Leads orderlyAt .idle (some .idle) (getBandBC95G band size) := by
  unfold getBandBC95G
  split
  · exact leads_pure _
  · exact leads_getAtHandler (leads_pure _) fun _ => leads_bind (leads_perform rfl) fun _ =>
      leads_bind (leads_readBands 6 []) fun _ => leads_bind (leads_perform rfl) fun _ =>
      leads_bind leads_unlock fun _ => leads_bind leads_releaseAtHandler fun _ => leads_pure _

theorem leads_setBandBC95G (band : Option (List Byte)) :
    Leads orderlyAt .idle (some .idle) (setBandBC95G band) := by
  rcases band with _ | _ | ⟨b, band⟩
  · exact leads_pure _
  · exact leads_pure _
  · exact leads_getAtHandler (leads_pure _) fun _ => leads_bind (leads_sendCommand _) fun _ =>
      leads_bind (leads_sendCommand _) fun _ => leads_bind (leads_sendCommand _) fun _ =>
      leads_bind leads_releaseAtHandler fun _ => leads_pure _

theorem leads_queryBandmask (h : ℕ) : Leads orderlyAt .idle (some .idle) (queryBandmask h) :=
  leads_bind (leads_perform rfl) fun _ => leads_bind leads_readInt fun _ =>
    leads_bind leads_readInt fun _ => leads_bind leads_readInt fun _ => leads_bind leads_readInt fun _ =>
    leads_bind (leads_perform rfl) fun _ => leads_bind leads_unlock fun _ => leads_pure _

theorem leads_selectProfile (h : ℕ) : Leads orderlyAt .idle (some .idle) (selectProfile h) :=
  leads_bind (leads_perform rfl) fun _ => leads_bind leads_unlock fun _ => leads_perform rfl

theorem leads_getBandLoop (tgt : Target) (size h left : ℕ) :
    Leads orderlyAt .idle (some .idle) (getBandLoop tgt size h left) := by
  induction left with
  | zero =>
    unfold getBandLoop
    refine leads_bind (leads_queryBandmask h) fun r =>
      leads_bind leads_releaseAtHandler fun _ => ?_
    obtain ⟨ret, nbiot⟩ := r
    cases nbiot with
    | some mask => exact leads_pure _
    | none => exact leads_bind (leads_selectProfile h) fun _ =>
        leads_bind leads_releaseAtHandler fun _ => leads_pure _
  | succ left ih =>
    unfold getBandLoop
    refine leads_bind (leads_queryBandmask h) fun r =>
      leads_bind leads_releaseAtHandler fun _ => ?_
    obtain ⟨ret, nbiot⟩ := r
    cases nbiot with
    | some mask => exact leads_pure _
    | none => exact leads_bind (leads_selectProfile h) fun _ =>
        leads_bind leads_releaseAtHandler fun _ => ih

theorem leads_getBandR410M (tgt : Target) (band : Bool) (size : ℕ) :
    Leads orderlyAt .idle (some .idle) (getBandR410M tgt band size) := by
  unfold getBandR410M
  split
  · exact leads_pure _
  · exact leads_getAtHandler (leads_pure _) fun h => leads_getBandLoop tgt size h 1

theorem leads_setBandR410M (tgt : Target) (band : Option (List Byte)) :
    Leads orderlyAt .idle (some .idle) (setBandR410M tgt band) := by
  rcases band with _ | _ | ⟨b, band⟩
  · exact leads_pure _
  · exact leads_pure _
  · refine leads_getAtHandler (leads_pure _) fun h => ?_
    have hattempt : Leads orderlyAt .idle (some .idle)
        (setBandAttempt (setBandCmd tgt (b :: band)) h) :=
      leads_bind (leads_perform rfl) fun _ => leads_unlock
    exact leads_bind (leads_retry hattempt _ 3) fun _ => leads_bind (leads_perform rfl) fun _ =>
      leads_bind leads_releaseAtHandler fun _ => leads_pure _

theorem leads_setModule (module : CellModule) :
    Leads orderlyAt .idle (some .idle) (setModule module) := leads_look _

theorem leads_configure (tgt : Target) (band₀ : List Byte) (module : CellModule) :
    Leads orderlyAt .idle (some .idle) (configure tgt band₀ module) := by
  have hr410m : Leads orderlyAt .idle (some .idle) (provisionR410M tgt band₀) := by
    refine leads_bind (leads_getBandR410M tgt true bandSize) fun got => ?_
    split
    · exact leads_pure _
    · exact leads_bind (leads_setBandR410M tgt _) fun _ =>
        leads_bind (leads_getBandR410M tgt true bandSize) fun _ => leads_pure _
  cases module with
  | bg96 => exact leads_pure _
  | bc95g =>
    refine leads_bind (leads_getBandBC95G true bandSize) fun got => ?_
    split
    · exact leads_pure _
    · exact leads_bind (leads_setBandBC95G _) fun _ =>
        leads_bind (leads_getBandBC95G true bandSize) fun _ => leads_pure _
  | r410m =>
    exact leads_bind hr410m fun _ => leads_bind (leads_psmCommand _) fun _ =>
      leads_bind (leads_psmCommand _) fun _ => leads_pure _
  | n410 => exact leads_bind hr410m fun _ => leads_pure _
  | max => exact leads_pure _

theorem leads_preInitLoop (tgt : Target) (band₀ : List Byte) (left : ℕ) :
    Leads orderlyAt .idle (some .idle) (preInitLoop tgt band₀ left) := by
  induction left with
  | zero => exact leads_pure _
  | succ left ih =>
    refine leads_bind (leads_bind (leads_info _ _) fun _ => leads_pure _) fun module => ?_
    split
    · exact ih
    · refine leads_bind (leads_setModule module) fun _ =>
        leads_bind (leads_configure tgt band₀ module) fun goesOn => ?_
      cases goesOn with
      | true => exact leads_bind (leads_info _ _) fun _ => leads_pure _
      | false => exact leads_pure _

theorem leads_preInitModule (tgt : Target) (band₀ : List Byte) :
    Leads orderlyAt .idle (some .idle) (preInitModule tgt band₀) :=
  leads_bind (leads_setModule .max) fun _ => leads_preInitLoop tgt band₀ _

theorem leads_detach : Leads orderlyAt .idle (some .idle) detach := by
  refine leads_bind (leads_look _) fun module => ?_
  split
  · exact leads_pure _
  · exact leads_getAtHandler (leads_pure _) fun _ => leads_bind (leads_sendCommand _) fun _ =>
      leads_bind leads_releaseAtHandler fun _ => leads_pure _

end Kept

section Lifted

variable {h : ℕ}

theorem leads_liftPerform {k : Phase} {r : Option Phase} {ops : List AtOp}
    (hops : (ops.map (.use h)).foldlM orderlyAt k = r) :
    Leads orderly k r (lift (perform h ops)) := leads_lift (leads_perform hops)

theorem leads_liftReadInt : Leads orderly .answer (some .answer) (lift (readInt h)) :=
  leads_lift leads_readInt

theorem leads_liftUnlock : Leads orderly .locked (some .idle) (lift (unlockReturnError h)) :=
  leads_lift leads_unlock

theorem leads_liftRelease : Leads orderly .idle (some .idle) (lift (releaseAtHandler h)) :=
  leads_lift leads_releaseAtHandler

theorem leads_setApn (apn : Option (List Byte)) : Leads orderly .idle (some .idle) (setApn apn) := by
  cases apn with
  | none => exact leads_pure _
  | some apn =>
    exact leads_lift_getAtHandler (leads_pure _) fun _ => leads_bind (leads_liftPerform rfl) fun _ =>
      leads_bind (leads_ask rfl) fun _ => leads_bind (leads_ask rfl) fun _ =>
      leads_bind (leads_ask rfl) fun _ => leads_bind (leads_liftPerform rfl) fun _ =>
      leads_bind leads_liftUnlock fun _ => leads_bind (leads_lift (leads_psmAttempt _)) fun _ =>
      leads_bind (leads_liftPerform rfl) fun _ => leads_bind leads_liftRelease fun _ => leads_pure _

theorem leads_getSignalQuality (rssi₀ ber₀ : ℤ) :
    Leads orderly .idle (some .idle) (getSignalQuality rssi₀ ber₀) := by
  have hresult : ∀ {h : ℕ} (rssi ber : BitVec 32),
      Leads orderly .locked (some .idle) (rssiResult h rssi ber) := by
    intro h rssi ber
    unfold rssiResult
    split
    · exact leads_bind (leads_ask rfl) fun _ => leads_pure _
    · exact leads_bind leads_liftUnlock fun _ => leads_pure _
  exact leads_lift_getAtHandler (leads_pure _) fun _ => leads_bind (leads_liftPerform rfl) fun _ =>
    leads_bind leads_liftReadInt fun _ => leads_bind leads_liftReadInt fun _ =>
    leads_bind (leads_liftPerform rfl) fun _ => leads_bind (hresult _ _) fun _ =>
    leads_bind leads_liftRelease fun _ => leads_pure _

theorem leads_readCell (module : CellModule) :
    Leads orderly .idle (some .idle) (readCell h module) := by
  have hr410m : Leads orderlyAt .idle (some .idle) (cellR410m h) :=
    leads_bind (leads_perform rfl) fun _ => leads_bind leads_readInt fun _ =>
      leads_bind (leads_perform rfl) fun _ => leads_bind leads_unlock fun _ => leads_pure _
  cases module with
  | bg96 =>
    exact leads_bind (leads_liftPerform rfl) fun _ => leads_bind leads_liftReadInt fun _ =>
      leads_bind leads_liftReadInt fun _ => leads_bind (leads_use _ rfl) fun _ =>
      leads_bind (leads_use _ rfl) fun _ => leads_bind leads_liftReadInt fun _ =>
      leads_bind (leads_liftPerform rfl) fun _ => leads_bind leads_liftUnlock fun _ => leads_pure _
  | bc95g =>
    exact leads_lift (leads_bind (leads_perform rfl) fun _ => leads_bind leads_readInt fun _ =>
      leads_bind leads_readInt fun _ => leads_bind leads_readInt fun _ =>
      leads_bind (leads_perform rfl) fun _ => leads_bind leads_unlock fun _ => leads_pure _)
  | r410m => exact leads_lift hr410m
  | n410 => exact leads_lift hr410m
  | max => exact leads_pure _

theorem leads_getCellId : Leads orderly .idle (some .idle) getCellId :=
  leads_bind (leads_lift leads_enableSignalStrengthReport) fun _ =>
    leads_lift_getAtHandler (leads_pure _) fun _ => leads_bind (leads_look _) fun module =>
      leads_bind (leads_readCell module) fun _ => leads_bind leads_liftRelease fun _ => leads_pure _

theorem leads_withHandler {body : ℕ → Ext Unit}
    (hbody : ∀ h, Leads orderly .idle (some .idle) (body h)) :
    Leads orderly .idle (some .idle) (withHandler body) :=
  leads_lift_getAtHandler (leads_pure _) fun h => leads_bind (hbody h) fun _ =>
    leads_bind leads_liftRelease fun _ => leads_pure _

theorem leads_disconnectRAI : Leads orderly .idle (some .idle) disconnectRAI := by
  refine leads_bind (leads_look _) fun module => ?_
  cases module with
  | bc95g =>
    exact leads_withHandler fun _ => leads_bind (leads_liftPerform rfl) fun _ =>
      leads_bind leads_liftReadInt fun _ => leads_bind (leads_liftPerform rfl) fun _ =>
      leads_bind leads_liftUnlock fun _ => leads_bind (leads_liftPerform rfl) fun _ =>
      leads_bind leads_liftUnlock fun _ => leads_bind (leads_liftPerform rfl) fun _ =>
      leads_bind (leads_ask rfl) fun _ => leads_bind (leads_liftPerform rfl) fun _ =>
      leads_bind leads_liftUnlock fun _ => leads_pure _
  | bg96 =>
    exact leads_withHandler fun _ => leads_bind (leads_liftPerform rfl) fun _ =>
      leads_bind leads_liftUnlock fun _ => leads_pure _
  | r410m => exact leads_pure _
  | n410 => exact leads_pure _
  | max => exact leads_pure _

end Lifted

section Broken

variable {α : Type} {h : ℕ}

theorem getAtHandler_given {c : Cellular} (hg : Given c) :
    (if c.modem.device then (c.modem.handlers.head,
      { c with modem := { c.modem with handlers := c.modem.handlers.tail } }) else (false, c)).1 =
      true := by
  rw [if_pos hg.1]
  exact hg.2

theorem getAtHandler_refused {c : Cellular} (hg : ¬ Given c) :
    (if c.modem.device then (c.modem.handlers.head,
      { c with modem := { c.modem with handlers := c.modem.handlers.tail } }) else (false, c)).1 =
      false := by
  split
  · next hd => exact Bool.eq_false_iff.mpr fun hhead => hg ⟨hd, hhead⟩
  · rfl

def SpoilsGiven (p : At α) : Prop :=
  ∀ w, LeadsAt orderlyAt .idle (if Given w.env then none else some .idle) p w

theorem spoils_getAtHandler {body : Option ℕ → At α}
    (hnone : Leads orderlyAt .idle (some .idle) (body none))
    (hsome : ∀ h, Leads orderlyAt .idle none (body (some h))) :
    SpoilsGiven (getAtHandler >>= body) := by
  intro w
  split
  · next hg => exact leadsAt_acquire_some (getAtHandler_given hg) rfl (hsome _)
  · next hg => exact leadsAt_acquire_none (getAtHandler_refused hg) hnone

theorem grows_readInt : Grows (readInt h) := grows_of_uses (uses_readInt h)

theorem grows_closing {f : ℤ → At α} (hf : ∀ ret, Grows (f ret)) :
    Grows (perform h [.respStop] >>= fun _ => unlockReturnError h >>= f) :=
  grows_bind (grows_perform h _) fun _ => grows_bind (grows_unlockReturnError h) hf

theorem grows_releaseAtHandler {f : ℤ → At α} (hf : ∀ ret, Grows (f ret)) :
    Grows (releaseAtHandler h >>= f) := grows_bind (grows_release h _) hf

theorem spoils_getPsm : SpoilsGiven getPsm := by
  refine spoils_getAtHandler (leads_pure _) fun h => ?_
  have hrest : Grows (readInt h >>= fun mode => perform h [.respStop] >>= fun _ =>
      unlockReturnError h >>= fun ret => (pure (ret, mode) : At (ℤ × BitVec 32))) :=
    grows_bind grows_readInt fun _ => grows_closing fun _ => grows_pure _
  have hattempt : Leads orderlyAt .idle none (getPsmAttempt h) :=
    leads_bind_none (leads_perform rfl) fun _ => hrest
  have hgrows : Grows (getPsmAttempt h) := grows_bind (grows_perform h _) fun _ => hrest
  exact leads_bind_none (leads_retry_none hattempt _ hgrows 2) fun _ =>
    grows_releaseAtHandler fun _ => grows_pure _

theorem spoils_getEdrx : SpoilsGiven getEdrx :=
  spoils_getAtHandler (leads_pure _) fun _ => leads_bind_none (leads_perform rfl) fun _ =>
    grows_bind grows_readInt fun _ => grows_bind grows_readInt fun _ =>
    grows_closing fun _ => grows_releaseAtHandler fun _ => grows_pure _

theorem spoils_getEdrxrdp : SpoilsGiven getEdrxrdp :=
  spoils_getAtHandler (leads_pure _) fun h => leads_bind_none (leads_perform rfl) fun _ =>
    grows_bind (grows_of_uses (uses_readString h 100)) fun _ =>
    grows_closing fun _ => grows_releaseAtHandler fun _ => grows_pure _

theorem leads_attachLoops (h : ℕ) : Leads orderlyAt .idle none (attachLoops h) := by
  have hattached : Leads orderlyAt .idle (some .idle) (attachedAttempt h) :=
    leads_bind (leads_perform rfl) fun _ => leads_bind leads_readInt fun _ =>
      leads_bind (leads_perform rfl) fun _ => leads_bind leads_unlock fun _ => leads_pure _
  have hconfirm : Leads orderlyAt .idle none (confirmAttempt h) :=
    leads_bind (leads_perform rfl) fun _ => leads_bind leads_readInt fun _ =>
      leads_bind_none (leads_use _ rfl) fun _ => grows_pure _
  have hconfirmGrows : Grows (confirmAttempt h) :=
    grows_bind (grows_perform h _) fun _ => grows_bind grows_readInt fun _ =>
      grows_bind (grows_unlockReturnError h) fun _ => grows_pure _
  have hregisteredGrows : Grows (registeredAttempt h) :=
    grows_bind (grows_perform h _) fun _ => grows_bind grows_readInt fun _ =>
      grows_bind grows_readInt fun _ => grows_bind (grows_unlockReturnError h) fun _ => grows_pure _
  have htail : Leads orderlyAt .idle none
      (Handle.retry (confirmAttempt h) (· != 1) 9 >>= fun _ =>
        Handle.retry (registeredAttempt h) (· != 1) 9 >>= fun _ =>
        releaseAtHandler h >>= fun _ => (pure () : At Unit)) :=
    leads_bind_none (leads_retry_none hconfirm _ hconfirmGrows 9) fun _ =>
      grows_bind (grows_retry hregisteredGrows _ 9) fun _ =>
      grows_releaseAtHandler fun _ => grows_pure _
  refine leads_bind (leads_perform rfl) fun _ => leads_bind (leads_retry hattached _ 9) fun r => ?_
  obtain ⟨ret, stat⟩ := r
  dsimp only
  split
  · exact leads_bind (leads_retry (leads_sendCommand _) _ 9) fun _ => htail
  · exact htail

theorem spoils_attachFound : SpoilsGiven attachFound :=
  spoils_getAtHandler (leads_pure _) leads_attachLoops

theorem leadsAt_attach (w : World Cellular AtOp) :
    LeadsAt orderlyAt .idle (if w.env.module ≠ .max ∧ Given w.env then none else some .idle)
      attach w := by
  refine leadsAt_bind (leads_look _ w) ?_
  change LeadsAt _ _ _ (if w.env.module = .max then _ else _) w
  by_cases hmax : w.env.module = .max
  · rw [if_pos hmax, if_neg fun h => h.1 hmax]
    exact leads_pure _ w
  · rw [if_neg hmax]
    simp only [ne_eq, hmax, not_false_eq_true, true_and]
    exact spoils_attachFound w

end Broken

section Session

variable {tgt : Target} {w : World Cellular ExtOp} {call : Call}

theorem leadsAt_result {α : Type} {p : Ext α} (hp : LeadsAt orderly .idle (some .idle) p w) :
    LeadsAt orderly .idle (some .idle) (result p) w := leadsAt_bind hp (leads_pure _ _)

theorem leadsAt_result_none {α : Type} {p : Ext α} (hp : LeadsAt orderly .idle none p w) :
    LeadsAt orderly .idle none (result p) w := leadsAt_bind_none hp fun _ => grows_pure _

theorem leadsAt_spoils {α : Type} {p : At α} (hp : SpoilsGiven p) (hg : Given w.env) :
    LeadsAt orderly .idle none (result (lift p)) w := by
  have hat := hp ⟨w.env, w.taken, []⟩
  rw [if_pos hg] at hat
  exact leadsAt_result_none (leadsAt_relabel hat)

theorem leadsAt_spared {α : Type} {p : At α} (hp : SpoilsGiven p) (hg : ¬ Given w.env) :
    LeadsAt orderly .idle (some .idle) (result (lift p)) w := by
  have hat := hp ⟨w.env, w.taken, []⟩
  rw [if_neg hg] at hat
  exact leadsAt_result (leadsAt_relabel hat)

theorem leadsAt_kept {α : Type} {p : At α} (hp : Leads orderlyAt .idle (some .idle) p) :
    LeadsAt orderly .idle (some .idle) (result (lift p)) w := leadsAt_result (leads_lift hp w)

theorem leadsAt_unfinished (tgt : Target) (h : call.Unfinished w.env) :
    LeadsAt orderly .idle none (call.program tgt) w := by
  cases call with
  | getPsm => exact leadsAt_spoils spoils_getPsm h
  | getEdrx => exact leadsAt_spoils spoils_getEdrx h
  | getEdrxrdp => exact leadsAt_spoils spoils_getEdrxrdp h
  | attach =>
    have hat := leadsAt_attach ⟨w.env, w.taken, []⟩
    rw [if_pos (show w.env.module ≠ .max ∧ Given w.env from h)] at hat
    exact leadsAt_relabel hat
  | _ => exact h.elim

theorem leadsAt_finished (tgt : Target) (h : ¬ call.Unfinished w.env) :
    LeadsAt orderly .idle (some .idle) (call.program tgt) w := by
  cases call with
  | info cmd size => exact leadsAt_kept (leads_info cmd size)
  | getCcid size => exact leadsAt_kept (leads_getCcid size)
  | sendAll cmds => exact leadsAt_kept (leads_sendAll cmds)
  | setApn apn => exact leadsAt_result (leads_setApn apn w)
  | clearApn => exact leadsAt_kept leads_clearApn
  | queryApn => exact leadsAt_kept leads_queryApn
  | getPsm => exact leadsAt_spared spoils_getPsm h
  | getEdrx => exact leadsAt_spared spoils_getEdrx h
  | getEdrxrdp => exact leadsAt_spared spoils_getEdrxrdp h
  | psmCommand cmd => exact leadsAt_kept (leads_psmCommand cmd)
  | getSignalQuality rssi ber => exact leadsAt_result (leads_getSignalQuality rssi ber w)
  | enableSignalStrengthReport => exact leads_lift leads_enableSignalStrengthReport w
  | getSignalStrength => exact leadsAt_kept (leads_getSignalStrength tgt)
  | getCellId => exact leadsAt_result (leads_getCellId w)
  | getBandBC95G band size => exact leadsAt_kept (leads_getBandBC95G band size)
  | setBandBC95G band => exact leadsAt_kept (leads_setBandBC95G band)
  | getBandR410M band size => exact leadsAt_kept (leads_getBandR410M tgt band size)
  | setBandR410M band => exact leadsAt_kept (leads_setBandR410M tgt band)
  | disconnectRAI => exact leads_disconnectRAI w
  | attach =>
    have hat := leadsAt_attach ⟨w.env, w.taken, []⟩
    rw [if_neg (show ¬ (w.env.module ≠ .max ∧ Given w.env) from h)] at hat
    exact leadsAt_relabel hat
  | detach => exact leads_lift leads_detach w
  | preInitModule band => exact leadsAt_kept (leads_preInitModule tgt band)

def step (tgt : Target) (w : World Cellular ExtOp) (call : Call) : World Cellular ExtOp :=
  (call.program tgt w).2

theorem step_grows (tgt : Target) (w : World Cellular ExtOp) (call : Call) :
    w.trace <+: (step tgt w call).trace := by
  by_cases h : call.Unfinished w.env
  · obtain ⟨t, htrace, -⟩ := leadsAt_unfinished tgt h
    exact ⟨t, htrace.symm⟩
  · obtain ⟨t, htrace, -⟩ := leadsAt_finished tgt h
    exact ⟨t, htrace.symm⟩

theorem run_spoilt (calls : List Call) (h : w.trace.foldlM orderly .idle = none) :
    (run (step tgt) w calls).trace.foldlM orderly .idle = none := by
  induction calls generalizing w with
  | nil => exact h
  | cons call calls ih =>
    refine ih ?_
    obtain ⟨t, htrace⟩ := step_grows tgt w call
    rw [← htrace, List.foldlM_append, h]
    rfl

theorem run_orderly_iff (calls : List Call) (h : w.trace.foldlM orderly .idle = some .idle) :
    (run (step tgt) w calls).trace.foldlM orderly .idle = some .idle ↔
      Throughout (step tgt) (fun w call => ¬ call.Unfinished w.env) w calls := by
  induction calls generalizing w with
  | nil => exact iff_of_true h trivial
  | cons call calls ih =>
    rw [run_cons, throughout_cons]
    by_cases hcall : call.Unfinished w.env
    · obtain ⟨t, htrace, ht⟩ := leadsAt_unfinished tgt hcall
      have hspoilt : (step tgt w call).trace.foldlM orderly .idle = none := by
        rw [step, htrace, List.foldlM_append, h]
        exact ht
      rw [run_spoilt calls hspoilt]
      exact iff_of_false (by simp) fun hall => hall.1 hcall
    · obtain ⟨t, htrace, ht⟩ := leadsAt_finished tgt hcall
      rw [ih]
      · exact (and_iff_right hcall).symm
      · rw [step, htrace, List.foldlM_append, h]
        exact ht

theorem calls_orderly_iff (tgt : Target) (c : Cellular) (calls : List Call) :
    (run (step tgt) ⟨c, 0, []⟩ calls).trace.foldlM orderly .idle = some .idle ↔
      Throughout (step tgt) (fun w call => ¬ call.Unfinished w.env) ⟨c, 0, []⟩ calls :=
  run_orderly_iff calls rfl

end Session

end SlcNode.AtDialogue
