import SlcNode.Link

namespace SlcNode

namespace Registration

def undoDevRegister (r : Registration) : Registration :=
  if r.nodeRegistered = 0 then { r with nodeRegisteredBackup := 0 } else r

def ToPublish (r : Registration) : Prop := r.nodeRegisteredBackup = 0 ∨ r.firstUploadDone = 0

instance (r : Registration) : Decidable r.ToPublish := inferInstanceAs (Decidable (_ ∨ _))

def uploadAll (r : Registration) : Registration :=
  { r with nodeRegisteredBackup := r.nodeRegistered, nodeRegister := r.nodeRegister.stop }

def countUpload (r : Registration) : Registration :=
  { r with
    firstUploadDone :=
      if r.firstUploadDone < State.reduceUploadPeriodTimes then r.firstUploadDone + 1
      else r.firstUploadDone }

def readyToStandby (r : Registration) : Registration :=
  if r.ToPublish then r.uploadAll.countUpload else r.countUpload

theorem undoDevRegister_nodeRegister (r : Registration) :
    r.undoDevRegister.nodeRegister = r.nodeRegister := by
  unfold undoDevRegister
  split <;> rfl

theorem readyToStandby_nodeRegister (r : Registration) :
    r.readyToStandby.nodeRegister = if r.ToPublish then r.nodeRegister.stop else r.nodeRegister := by
  unfold readyToStandby
  split <;> rfl

/-- The timer flag is exact and, once something was published, the backup tells whether the last
write found the registration false. -/
structure Matches (r : Registration) (foundOff : Bool) : Prop where
  exact : r.nodeRegister.Exact
  backup : r.firstUploadDone ≠ 0 → (r.nodeRegisteredBackup = 0 ↔ foundOff = true)

variable {r t : Registration} {off : Bool}

theorem Matches.undoDevRegister (h : r.Matches off) :
    r.undoDevRegister.Matches (off || r.nodeRegistered == 0) := by
  unfold Registration.undoDevRegister
  by_cases hnr : r.nodeRegistered = 0
  · rw [if_pos hnr]
    refine ⟨h.exact, fun _ => ?_⟩
    simp only [hnr, beq_self_eq_true, Bool.or_true]
  · rw [if_neg hnr, beq_eq_false_iff_ne.mpr hnr, Bool.or_false]
    exact h

theorem Matches.toPublish (h : r.Matches off) :
    r.ToPublish ↔ off = true ∨ r.firstUploadDone = 0 := by
  by_cases hf : r.firstUploadDone = 0
  · exact iff_of_true (Or.inr hf) (Or.inr hf)
  · exact or_congr_left (h.backup hf)

theorem Matches.readyToStandby (h : r.Matches off) :
    r.readyToStandby.Matches ((off || r.firstUploadDone == 0) && r.nodeRegistered == 0) := by
  have hpub := h.toPublish
  unfold Registration.readyToStandby
  by_cases hp : r.ToPublish
  · have hoff : (off || r.firstUploadDone == 0) = true := by
      rw [Bool.or_eq_true, beq_iff_eq]
      exact hpub.mp hp
    rw [if_pos hp, hoff, Bool.true_and]
    refine ⟨OneShot.exact_stop h.exact, fun _ => ?_⟩
    rw [beq_iff_eq]
    rfl
  · have hoff : (off || r.firstUploadDone == 0) = false := by
      rw [Bool.eq_false_iff, ne_eq, Bool.or_eq_true, beq_iff_eq]
      exact fun ho => hp (hpub.mpr ho)
    rw [if_neg hp, hoff, Bool.false_and]
    refine ⟨h.exact, fun _ => iff_of_false ?_ Bool.false_ne_true⟩
    exact fun hb => hp (Or.inl hb)

structure Keeps (r t : Registration) : Prop where
  nodeRegistered : t.nodeRegistered = r.nodeRegistered
  backup : t.nodeRegisteredBackup = r.nodeRegisteredBackup
  firstUploadDone : t.firstUploadDone = r.firstUploadDone
  exact : r.nodeRegister.Exact → t.nodeRegister.Exact

theorem Keeps.of_eq (h : t = r) : Keeps r t := h ▸ ⟨rfl, rfl, rfl, fun hx => hx⟩

theorem Keeps.of_exact {n : OneShot Millis} (h : r.nodeRegister.Exact → n.Exact) :
    Keeps r { r with nodeRegister := n } := ⟨rfl, rfl, rfl, h⟩

theorem Matches.of_keeps (h : r.Matches off) (k : Keeps r t) : t.Matches off := by
  refine ⟨k.exact h.exact, fun hf => ?_⟩
  rw [k.backup]
  exact h.backup (by rwa [← k.firstUploadDone])

end Registration

namespace State

theorem undoDevRegister_registration (s : State) :
    s.undoDevRegister.registration = s.registration.undoDevRegister := by
  unfold undoDevRegister Registration.undoDevRegister
  by_cases h : s.config.nodeRegistered = 0
  · simp only [registration, h, if_true]
  · simp only [registration, h, if_false]

theorem standby_registration (i : Inputs) (s : State) :
    (s.standby i).registration = s.registration.undoDevRegister := by
  rw [standby, (toFwUpdateTerminated_beside _).registration, (toFwUpdate_beside _).registration,
    (toTerminateUpload_beside _).registration, (toUpload_same i _).registration,
    undoDevRegister_registration, (updateDim_views _).2.1, (updateDeregister_beside _).registration,
    (updateTimers_same i s).registration]

theorem waitDevReg_registration (i : Inputs) (s : State) :
    Registration.Keeps s.registration (s.waitDevReg i).registration := by
  have hlaunch (t : State) (r : ℕ) :
      Registration.Keeps t.registration (t.uploadNodeRegister r).registration :=
    .of_exact fun _ => OneShot.exact_launch ..
  unfold waitDevReg
  cases s.devRegState with
  | init =>
    dsimp only
    split
    · exact hlaunch { s with devRegState := .waitReg } _
    · exact .of_eq rfl
  | waitReg =>
    dsimp only
    split_ifs
    · exact .of_eq rfl
    · exact .of_exact fun _ => OneShot.exact_consume (OneShot.exact_launch ..)
    · exact .of_eq rfl
    · exact .of_eq rfl
    · exact .of_eq rfl
    · exact .of_eq rfl
  | done => exact .of_eq rfl

theorem switch_registration {i : Inputs} {s : State} (hs : s.appState ≠ .standby)
    (hr : s.appState ≠ .readyToStandby) :
    Registration.Keeps s.registration (s.switch i).registration := by
  by_cases hl : OnlyLink s.appState
  · exact .of_eq (switch_beside hl).registration
  · unfold switch
    cases h : s.appState with
    | init => exact .of_exact fun hx => OneShot.exact_consume hx
    | waitDevReg => exact waitDevReg_registration i s
    | readyToStandby => exact absurd h hr
    | standby => exact absurd h hs
    | toPelionDereg => exact .of_exact fun hx => OneShot.exact_stop hx
    | _ => exact absurd (show OnlyLink s.appState by rw [h]; decide) hl

theorem uploads_append (us : List Upload) (s : State) :
    (us.foldl (fun s u => s.upload u) s).uploads = s.uploads ++ us := by
  induction us generalizing s with
  | nil => simp
  | cons u us ih =>
    have hu : (s.upload u).uploads = s.uploads ++ [u] := rfl
    rw [List.foldl_cons, ih, hu, List.append_assoc, List.singleton_append]

theorem uploadAll_uploads (i : Inputs) (s : State) :
    (s.uploadAll i).uploads = s.uploads ++ s.fullUploadList := by
  have h := uploads_append s.fullUploadList s.stopTimerNodeRegister
  unfold uploadAll
  dsimp only
  split <;> exact h

theorem uploadAll_registration (i : Inputs) (s : State) :
    (s.uploadAll i).registration = s.registration.uploadAll := by
  have hpub := (uploads_same s.fullUploadList s.stopTimerNodeRegister).registration
  have hb (t : State) (h : t.registration = s.stopTimerNodeRegister.registration) :
      ({ t with configBackup.nodeRegistered := t.config.nodeRegistered
        }.updateUploadTimeStamp i.timestamp).registration = s.registration.uploadAll := by
    have heq : s.registration.uploadAll =
        { t.registration with nodeRegisteredBackup := t.registration.nodeRegistered } := by
      rw [h]
      rfl
    rw [heq]
    rfl
  unfold uploadAll
  dsimp only
  split
  · exact hb _ <| (relaunchTimerData_same _ _).registration.trans <|
      (launchTimerStatus_same _ _).registration.trans hpub
  · exact hb _ <| (launchTimerStatus_same _ _).registration.trans hpub

theorem readyToStandby_registration (i : Inputs) (s : State) :
    (s.readyToStandby i).registration = s.registration.readyToStandby ∧
      (s.readyToStandby i).uploads =
        if s.registration.ToPublish then s.uploads ++ s.fullUploadList else s.uploads := by
  have hend (t : State) :
      let u := if !t.config.deregister.keepOnline && !t.fwUpdating then t.relaunchTimerTerminateUpload
        else t
      { u with
        firstUploadDone :=
          if u.firstUploadDone < reduceUploadPeriodTimes then u.firstUploadDone + 1
          else u.firstUploadDone
        appState := AppState.standby }.registration = t.registration.countUpload ∧ u.uploads = t.uploads := by
    dsimp only
    split <;> exact ⟨rfl, rfl⟩
  unfold readyToStandby Registration.readyToStandby
  by_cases h : s.registration.ToPublish
  · have hc : s.configBackup.nodeRegistered = 0 ∨ s.firstUploadDone = 0 := h
    rw [if_pos hc, if_pos h, if_pos h, ← uploadAll_registration i s, ← uploadAll_uploads i s]
    exact hend _
  · have hc : ¬(s.configBackup.nodeRegistered = 0 ∨ s.firstUploadDone = 0) := h
    rw [if_neg hc, if_neg h, if_neg h]
    exact hend s

theorem iterate_uploads {i : Inputs} {s : State} (h : (s.switch i).rebooting = false) :
    (s.iterate i).uploads = (s.switch i).uploads :=
  iterate_frame State.uploads (fun _ _ _ _ _ _ _ _ => rfl) h

end State

end SlcNode
