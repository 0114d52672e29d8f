import SlcNode.CellularExt

namespace SlcNode.ModuleDetection

open Handle CellularAt CellularExt AtOwnership BandCheck Monitor

def gives (m : Modem) : Bool := m.device && m.handlers.head

def named (m : Modem) : CellModule :=
  if gives m then detected ((m.strings.head.map (·.take 48)).getD []) else .max

def asked (m : Modem) : Modem :=
  if m.device then
    if m.handlers.head then
      { m with
        handlers := m.handlers.tail
        strings := m.strings.tail
        errors := m.errors.tail.tail }
    else { m with handlers := m.handlers.tail }
  else m

def bands (m : Modem) : List Byte :=
  if gives m then (counted (m.ints.take 6)).map (BitVec.setWidth 8) else []

section Answers

theorem getAtHandler_eq (w : World Cellular AtOp) :
    getAtHandler w =
      if gives w.env.modem then
        (some w.taken, ⟨{ w.env with modem := { w.env.modem with
          handlers := w.env.modem.handlers.tail } }, w.taken + 1, w.trace ++ [.acquire w.taken]⟩)
      else (none, { w with env := { w.env with modem := if w.env.modem.device then
        { w.env.modem with handlers := w.env.modem.handlers.tail } else w.env.modem } }) := by
  obtain ⟨⟨⟨device, handlers, ints, strings, errors⟩, module, enSignalReport⟩, taken, trace⟩ := w
  unfold gives
  dsimp only
  cases device with
  | false => rfl
  | true =>
    cases hh : handlers.head with
    | false => simp [getAtHandler, acquire, hh]
    | true => simp [getAtHandler, acquire, hh]

theorem detected_nil : detected [] = .max := by decide

theorem info_eq (cmd : String) (size : ℕ) (w : World Cellular AtOp) :
    (info cmd size w).1.2 =
        (if gives w.env.modem then w.env.modem.strings.head.map (·.take (size - 1 - 1)) else none) ∧
      (info cmd size w).2.env = { w.env with modem := asked w.env.modem } := by
  obtain ⟨⟨⟨device, handlers, ints, strings, errors⟩, module, enSignalReport⟩, taken, trace⟩ := w
  rw [info, bind_apply, getAtHandler_eq]
  unfold asked gives
  dsimp only
  cases device with
  | false => exact ⟨rfl, rfl⟩
  | true =>
    cases handlers.head with
    | false => exact ⟨rfl, rfl⟩
    | true => exact ⟨rfl, rfl⟩

theorem identify_eq (w : World Cellular AtOp) :
    (identify w).1 = named w.env.modem ∧
      (identify w).2.env = { w.env with modem := asked w.env.modem } := by
  obtain ⟨hname, henv⟩ := info_eq "AT+CGMM" 50 w
  refine ⟨?_, henv⟩
  have hdetected : (identify w).1 = detected ((info "AT+CGMM" 50 w).1.2.getD []) := rfl
  rw [hdetected, hname, named]
  split
  · rfl
  · exact detected_nil

theorem getBandBC95G_bands (w : World Cellular AtOp) :
    (getBandBC95G true bandSize w).1.band = bands w.env.modem := by
  rw [getBandBC95G, if_neg (by decide), bind_apply, getAtHandler_eq, bands]
  by_cases hg : gives w.env.modem = true
  · rw [if_pos hg, if_pos hg]
    dsimp only
    simp only [queryNband, bind_apply]
    change (readBands _ 6 [] _).1 = _
    rw [readBands_eq, perform_env, List.nil_append]
  · rw [if_neg hg, if_neg hg]
    rfl

end Answers

section Module

variable {h : ℕ}

theorem keeps_perform (ops : List AtOp) : Keeps Cellular.module (perform h ops) := fun w =>
  congrArg Cellular.module (perform_env h ops w)

theorem keeps_readInt : Keeps Cellular.module (readInt h) := keeps_use (fun _ => rfl) h _

theorem keeps_unlock : Keeps Cellular.module (unlockReturnError h) := keeps_use (fun _ => rfl) h _

theorem keeps_releaseAtHandler : Keeps Cellular.module (releaseAtHandler h) :=
  keeps_release (fun _ => rfl) h

theorem keeps_getAtHandler {α : Type} {body : Option ℕ → At α}
    (hnone : Keeps Cellular.module (body none))
    (hsome : ∀ h, Keeps Cellular.module (body (some h))) :
    Keeps Cellular.module (getAtHandler >>= body) := by
  refine keeps_bind (keeps_acquire fun c => ?_) fun got => ?_
  · split <;> rfl
  · cases got with
    | none => exact hnone
    | some h => exact hsome h

theorem keeps_info (cmd : String) (size : ℕ) : Keeps Cellular.module (info cmd size) := by
  refine keeps_getAtHandler (keeps_pure _) fun h => keeps_bind (keeps_perform _) fun _ => ?_
  have hinfo : Keeps Cellular.module (getAtInfo h cmd size) :=
    keeps_bind (keeps_perform _) fun _ => keeps_bind (keeps_use (fun _ => rfl) h _) fun _ =>
      keeps_bind (keeps_perform _) fun _ => keeps_bind keeps_unlock fun _ => keeps_pure _
  exact keeps_bind hinfo fun _ => keeps_bind keeps_releaseAtHandler fun _ => keeps_pure _

theorem keeps_psmCommand (cmd : String) : Keeps Cellular.module (psmCommand cmd) := by
  have hattempt : ∀ h, Keeps Cellular.module (psmAttempt cmd h) := fun h =>
    keeps_bind (keeps_perform _) fun _ => keeps_unlock
  exact keeps_getAtHandler (keeps_pure _) fun h => keeps_bind (keeps_perform _) fun _ =>
    keeps_bind (keeps_retry (hattempt h) _ 2) fun _ => keeps_bind keeps_releaseAtHandler fun _ =>
    keeps_bind (keeps_perform _) fun _ => keeps_pure _

theorem keeps_readBands (n : ℕ) (band : List Byte) :
    Keeps Cellular.module (readBands h n band) := by
  induction n generalizing band with
  | zero => exact keeps_pure band
  | succ n ih =>
    refine keeps_bind keeps_readInt fun ret => ?_
    split
    · exact keeps_pure band
    · exact ih _

theorem keeps_getBandBC95G (band : Bool) (size : ℕ) :
    Keeps Cellular.module (getBandBC95G band size) := by
  unfold getBandBC95G
  split
  · exact keeps_pure _
  · exact keeps_getAtHandler (keeps_pure _) fun _ => keeps_bind (keeps_perform _) fun _ =>
      keeps_bind (keeps_readBands 6 []) fun _ => keeps_bind (keeps_perform _) fun _ =>
      keeps_bind keeps_unlock fun _ => keeps_bind keeps_releaseAtHandler fun _ => keeps_pure _

theorem keeps_sendCommand (cmd : String) : Keeps Cellular.module (sendCommand cmd h) :=
  keeps_bind (keeps_perform _) fun _ => keeps_unlock

theorem keeps_setBandBC95G (band : Option (List Byte)) :
    Keeps Cellular.module (setBandBC95G band) := by
  rcases band with _ | _ | ⟨b, band⟩
  · exact keeps_pure _
  · exact keeps_pure _
  · exact keeps_getAtHandler (keeps_pure _) fun _ => keeps_bind (keeps_sendCommand _) fun _ =>
      keeps_bind (keeps_sendCommand _) fun _ => keeps_bind (keeps_sendCommand _) fun _ =>
      keeps_bind keeps_releaseAtHandler fun _ => keeps_pure _

theorem keeps_getBandLoop (tgt : Target) (size left : ℕ) :
    Keeps Cellular.module (getBandLoop tgt size h left) := by
  have hquery : Keeps Cellular.module (queryBandmask h) :=
    keeps_bind (keeps_perform _) fun _ => keeps_bind keeps_readInt fun _ =>
      keeps_bind keeps_readInt fun _ => keeps_bind keeps_readInt fun _ =>
      keeps_bind keeps_readInt fun _ => keeps_bind (keeps_perform _) fun _ =>
      keeps_bind keeps_unlock fun _ => keeps_pure _
  have hselect : Keeps Cellular.module (selectProfile h) :=
    keeps_bind (keeps_perform _) fun _ => keeps_bind keeps_unlock fun _ => keeps_perform _
  induction left with
  | zero =>
    unfold getBandLoop
    refine keeps_bind hquery fun r => keeps_bind keeps_releaseAtHandler fun _ => ?_
    obtain ⟨ret, nbiot⟩ := r
    cases nbiot with
    | some mask => exact keeps_pure _
    | none => exact keeps_bind hselect fun _ => keeps_bind keeps_releaseAtHandler fun _ => keeps_pure _
  | succ left ih =>
    unfold getBandLoop
    refine keeps_bind hquery fun r => keeps_bind keeps_releaseAtHandler fun _ => ?_
    obtain ⟨ret, nbiot⟩ := r
    cases nbiot with
    | some mask => exact keeps_pure _
    | none => exact keeps_bind hselect fun _ => keeps_bind keeps_releaseAtHandler fun _ => ih

theorem keeps_getBandR410M (tgt : Target) (band : Bool) (size : ℕ) :
    Keeps Cellular.module (getBandR410M tgt band size) := by
  unfold getBandR410M
  split
  · exact keeps_pure _
  · exact keeps_getAtHandler (keeps_pure _) fun _ => keeps_getBandLoop tgt size 1

theorem keeps_setBandR410M (tgt : Target) (band : Option (List Byte)) :
    Keeps Cellular.module (setBandR410M tgt band) := by
  rcases band with _ | _ | ⟨b, band⟩
  · exact keeps_pure _
  · exact keeps_pure _
  · have hattempt : ∀ h, Keeps Cellular.module
        (setBandAttempt (setBandCmd tgt (b :: band)) h) := fun h =>
      keeps_bind (keeps_perform _) fun _ => keeps_unlock
    exact keeps_getAtHandler (keeps_pure _) fun h => keeps_bind (keeps_retry (hattempt h) _ 3) fun _ =>
      keeps_bind (keeps_perform _) fun _ => keeps_bind keeps_releaseAtHandler fun _ => keeps_pure _

theorem keeps_provisionBC95G (band₀ : List Byte) :
    Keeps Cellular.module (provisionBC95G band₀) := by
  refine keeps_bind (keeps_getBandBC95G true bandSize) fun got => ?_
  split
  · exact keeps_pure _
  · exact keeps_bind (keeps_setBandBC95G _) fun _ =>
      keeps_bind (keeps_getBandBC95G true bandSize) fun _ => keeps_pure _

theorem keeps_provisionR410M (tgt : Target) (band₀ : List Byte) :
    Keeps Cellular.module (provisionR410M tgt band₀) := by
  refine keeps_bind (keeps_getBandR410M tgt true bandSize) fun got => ?_
  split
  · exact keeps_pure _
  · exact keeps_bind (keeps_setBandR410M tgt _) fun _ =>
      keeps_bind (keeps_getBandR410M tgt true bandSize) fun _ => keeps_pure _

theorem keeps_configure (tgt : Target) (band₀ : List Byte) (module : CellModule) :
    Keeps Cellular.module (configure tgt band₀ module) := by
  cases module with
  | bg96 => exact keeps_pure _
  | bc95g => exact keeps_provisionBC95G band₀
  | r410m =>
    exact keeps_bind (keeps_provisionR410M tgt band₀) fun _ =>
      keeps_bind (keeps_psmCommand _) fun _ => keeps_bind (keeps_psmCommand _) fun _ => keeps_pure _
  | n410 => exact keeps_bind (keeps_provisionR410M tgt band₀) fun _ => keeps_pure _
  | max => exact keeps_pure _

end Module

section Detection

variable {tgt : Target} {band₀ : List Byte} {w : World Cellular AtOp}

def AsProvisioned (found : List Byte) : Prop :=
  found.length = 3 ∧ ∀ b ∈ found, b ∈ provisionedBands

instance (found : List Byte) : Decidable (AsProvisioned found) :=
  inferInstanceAs (Decidable (_ ∧ _))

def verdict (module : CellModule) (m : Modem) : ℤ :=
  if module = .bc95g ∧ ¬ AsProvisioned (bands m) then 1 else 0

theorem configure_verdict (tgt : Target) (band₀ : List Byte) (module : CellModule)
    (w : World Cellular AtOp) :
    (configure tgt band₀ module w).1 = true ↔
      ¬ (module = .bc95g ∧ ¬ AsProvisioned (bands w.env.modem)) := by
  cases module with
  | bc95g =>
    have hbands := provisioned_iff (getBandBC95G true bandSize w).1.band band₀
    rw [getBandBC95G_bands] at hbands
    have htaken : (provisionBC95G band₀ w).1 = true ↔
        provisioned (bands w.env.modem) band₀ = true := by
      rw [← getBandBC95G_bands, provisionBC95G, bind_apply]
      exact taken_iff fun _ => rfl
    rw [configure, htaken, hbands]
    simp [AsProvisioned]
  | bg96 => exact iff_of_true rfl (by simp)
  | r410m => exact iff_of_true rfl (by simp)
  | n410 => exact iff_of_true rfl (by simp)
  | max => exact iff_of_true rfl (by simp)

def found (tgt : Target) (band₀ : List Byte) (module : CellModule) : At ℤ := do
  setModule module
  if ← configure tgt band₀ module then
    let _ ← getFwVersion 50
    return 0
  else return 1

theorem found_module (module : CellModule) :
    (found tgt band₀ module w).2.env.module = module := by
  have hrest : Keeps Cellular.module (configure tgt band₀ module >>= fun goesOn =>
      if goesOn = true then getFwVersion 50 >>= fun _ => pure 0 else (pure 1 : At ℤ)) := by
    refine keeps_bind (keeps_configure tgt band₀ module) fun goesOn => ?_
    split
    · exact keeps_bind (keeps_info _ _) fun _ => keeps_pure _
    · exact keeps_pure _
  exact hrest _

theorem found_verdict (module : CellModule) :
    (found tgt band₀ module w).1 = verdict module w.env.modem := by
  have hconfigure := configure_verdict tgt band₀ module (setModule module w).2
  rw [found, bind_apply, bind_apply, verdict]
  cases hgoes : (configure tgt band₀ module (setModule module w).2).1 with
  | true => exact (if_neg (hconfigure.mp hgoes)).symm
  | false =>
    rw [hgoes] at hconfigure
    exact (if_pos (not_not.mp (hconfigure.not.mp Bool.false_ne_true))).symm

theorem preInitLoop_succ (left : ℕ) (w : World Cellular AtOp) :
    preInitLoop tgt band₀ (left + 1) w =
      if named w.env.modem = .max then preInitLoop tgt band₀ left (identify w).2
      else found tgt band₀ (named w.env.modem) (identify w).2 := by
  rw [preInitLoop, bind_apply, (identify_eq w).1]
  split <;> rfl

theorem preInitLoop_unknown {left : ℕ}
    (h : ∀ i < left, named (asked^[i] w.env.modem) = .max) :
    (preInitLoop tgt band₀ left w).1 = -1 ∧
      (preInitLoop tgt band₀ left w).2.env.module = w.env.module := by
  induction left generalizing w with
  | zero => exact ⟨rfl, rfl⟩
  | succ left ih =>
    have henv := (identify_eq w).2
    have hfirst : named w.env.modem = .max := h 0 (Nat.succ_pos left)
    rw [preInitLoop_succ, if_pos hfirst]
    have hrest := ih (w := (identify w).2) fun i hi => by
      rw [henv]
      exact h (i + 1) (Nat.succ_lt_succ hi)
    rwa [henv] at hrest

theorem preInitLoop_known {left i : ℕ} (hi : i < left)
    (hbefore : ∀ j < i, named (asked^[j] w.env.modem) = .max)
    (hknown : named (asked^[i] w.env.modem) ≠ .max) :
    (preInitLoop tgt band₀ left w).2.env.module = named (asked^[i] w.env.modem) ∧
      (preInitLoop tgt band₀ left w).1 =
        verdict (named (asked^[i] w.env.modem)) (asked^[i + 1] w.env.modem) := by
  induction left generalizing i w with
  | zero => exact absurd hi (Nat.not_lt_zero i)
  | succ left ih =>
    have henv := (identify_eq w).2
    rw [preInitLoop_succ]
    cases i with
    | zero =>
      have hfirst : named w.env.modem ≠ .max := hknown
      rw [if_neg hfirst, found_verdict, henv]
      exact ⟨found_module _, rfl⟩
    | succ i =>
      have hfirst : named w.env.modem = .max := hbefore 0 (Nat.succ_pos i)
      rw [if_pos hfirst]
      have hrest := ih (w := (identify w).2) (i := i) (Nat.lt_of_succ_lt_succ hi)
      rw [henv] at hrest
      exact hrest (fun j hj => hbefore (j + 1) (Nat.succ_lt_succ hj)) hknown

theorem preInitModule_detects (tgt : Target) (band₀ : List Byte) (c : Cellular) :
    ((∀ i < 10, named (asked^[i] c.modem) = .max) →
      (preInitModule tgt band₀ (start c)).1 = -1 ∧
        (preInitModule tgt band₀ (start c)).2.env.module = .max) ∧
      ∀ i < 10, (∀ j < i, named (asked^[j] c.modem) = .max) →
        named (asked^[i] c.modem) ≠ .max →
        (preInitModule tgt band₀ (start c)).2.env.module = named (asked^[i] c.modem) ∧
          (preInitModule tgt band₀ (start c)).1 =
            verdict (named (asked^[i] c.modem)) (asked^[i + 1] c.modem) := by
  have hbegin : (setModule .max (start c)).2.env.modem = c.modem := rfl
  rw [preInitModule, bind_apply, ← hbegin]
  exact ⟨preInitLoop_unknown, fun _ hi hbefore hknown => preInitLoop_known hi hbefore hknown⟩

end Detection

end SlcNode.ModuleDetection
