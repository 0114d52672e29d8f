import SlcNode.Link

namespace SlcNode

namespace Link

def Noticed (l : Link) : Prop :=
  l.DeregisterChanged ∨ l.terminateUpload.live = !l.deregister.keepOnline

/-- The terminate timer is off from the registration on until standby, and fits there unless the
next pass sees a change. -/
structure Inv (l : Link) : Prop where
  exact : l.terminateUpload.Exact
  registered : l.appState = .waitDevReg → l.devRegState = .done → l.terminateUpload.live = false
  ready : l.appState = .readyToStandby → l.terminateUpload.live = false
  standby : l.appState = .standby → l.fwUpdating = false → l.Noticed

def Elsewhere (a : AppState) : Prop := a ≠ .waitDevReg ∧ a ≠ .readyToStandby ∧ a ≠ .standby

instance (a : AppState) : Decidable (Elsewhere a) := inferInstanceAs (Decidable (_ ∧ _ ∧ _))

theorem inv_elsewhere {l : Link} {a : AppState} (hx : l.terminateUpload.Exact)
    (hl : l.appState = a) (ha : Elsewhere a) : Inv l := by
  obtain ⟨hd, hr, hs⟩ := ha
  rw [← hl] at hd hr hs
  exact ⟨hx, fun h => absurd h hd, fun h => absurd h hr, fun h => absurd h hs⟩

theorem inv_waitDevReg {l : Link} (hx : l.terminateUpload.Exact) (hs : l.appState = .waitDevReg)
    (hd : l.devRegState = .done → l.terminateUpload.live = false) : Inv l := by
  have hready : l.appState ≠ .readyToStandby := by rw [hs]; decide
  have hstandby : l.appState ≠ .standby := by rw [hs]; decide
  exact ⟨hx, fun _ => hd, fun h => absurd h hready, fun h => absurd h hstandby⟩

theorem inv_waitDevReg_early {l : Link} {d : DevRegState} (hx : l.terminateUpload.Exact)
    (hs : l.appState = .waitDevReg) (hl : l.devRegState = d) (hd : d ≠ .done) : Inv l :=
  inv_waitDevReg hx hs fun h => absurd (hl.symm.trans h) hd

theorem inv_readyToStandby_of_off {l : Link} (hx : l.terminateUpload.Exact)
    (hs : l.appState = .readyToStandby) (hoff : l.terminateUpload.live = false) : Inv l := by
  have hstandby : l.appState ≠ .standby := by rw [hs]; decide
  exact ⟨hx, fun _ _ => hoff, fun _ => hoff, fun h => absurd h hstandby⟩

theorem updateDeregister_exact {l : Link} (h : l.terminateUpload.Exact) :
    l.updateDeregister.terminateUpload.Exact := by
  unfold updateDeregister
  split
  · dsimp only
    split
    · exact OneShot.exact_stop h
    · exact OneShot.exact_launch _ _
  · exact h

theorem updateDeregister_live {l : Link} (hx : l.terminateUpload.Exact) (hn : l.Noticed) :
    l.updateDeregister.terminateUpload.live = !l.deregister.keepOnline := by
  unfold updateDeregister
  split
  case isTrue =>
    cases hk : l.deregister.keepOnline with
    | false => simp
    | true => simp [OneShot.live_stop hx]
  case isFalse hc => exact hn.resolve_left hc

theorem standby_exact {nodeRegistered : Byte} {l : Link} (h : l.terminateUpload.Exact) :
    (l.standby nodeRegistered).terminateUpload.Exact := by
  have hd := updateDeregister_exact h
  have hu : (l.updateDeregister.undoDevRegister nodeRegistered).terminateUpload.Exact := by
    rw [(undoDevRegister_rest _ _).2.1]
    exact hd
  have ht (m : Link) (hm : m.terminateUpload.Exact) : m.toTerminateUpload.terminateUpload.Exact := by
    unfold toTerminateUpload
    split
    · exact OneShot.exact_consume hm
    · exact hm
  have hf (m : Link) (hm : m.terminateUpload.Exact) : m.toFwUpdate.terminateUpload.Exact := by
    unfold toFwUpdate
    split
    · exact OneShot.exact_stop hm
    · exact hm
  have he (m : Link) (hm : m.terminateUpload.Exact) :
      m.toFwUpdateTerminated.terminateUpload.Exact := by
    unfold toFwUpdateTerminated
    split
    · exact OneShot.exact_launch _ _
    · exact hm
  exact he _ (hf _ (ht _ hu))

theorem standby_stays {nodeRegistered : Byte} {l : Link}
    (h : (l.standby nodeRegistered).appState = .standby) :
    nodeRegistered ≠ 0 ∧ l.updateDeregister.terminateUpload.trigger = false := by
  simp only [standby, toFwUpdateTerminated_rest, toFwUpdate_rest] at h
  unfold toTerminateUpload at h
  simp only [undoDevRegister_rest] at h
  cases ht : l.updateDeregister.terminateUpload.trigger with
  | true => simp [ht] at h
  | false =>
    refine ⟨?_, rfl⟩
    rintro rfl
    simp [ht, undoDevRegister] at h

theorem standby_live {nodeRegistered : Byte} {l : Link} (hl : Inv l) (hs : l.appState = .standby)
    (hstay : (l.standby nodeRegistered).appState = .standby)
    (hidle : (l.standby nodeRegistered).fwUpdating = false)
    (hg : l.fwUpdateTerminated = true → l.deregister.keepOnline = false) :
    (l.standby nodeRegistered).terminateUpload.live = !l.deregister.keepOnline := by
  obtain ⟨-, htrigger⟩ := standby_stays hstay
  have hterm : (l.updateDeregister.undoDevRegister nodeRegistered).toTerminateUpload.terminateUpload =
      l.updateDeregister.terminateUpload := by
    unfold toTerminateUpload
    simp [htrigger]
  cases ht : l.fwUpdateTerminated with
  | true =>
    rw [hg ht]
    simp [standby, toFwUpdateTerminated, ht]
  | false =>
    have hnot : ¬((l.fwUpdating = true ∨ l.fwUpdate = true) ∧ l.fwUpdateTerminated = false) := by
      rw [← standby_fwUpdating nodeRegistered, hidle]
      exact Bool.false_ne_true
    have hno : ¬(l.fwUpdating = true ∨ l.fwUpdate = true) := fun h => hnot ⟨h, ht⟩
    obtain ⟨hup, hfw⟩ := not_or.mp hno
    have hlive := updateDeregister_live hl.exact (hl.standby hs (eq_false_of_ne_true hup))
    simp only [standby]
    unfold toFwUpdateTerminated toFwUpdate
    simp [ht, hfw, hterm, hlive]

theorem inv_standby {nodeRegistered : Byte} {l : Link} (hl : Inv l) (hs : l.appState = .standby)
    (hg : (l.standby nodeRegistered).appState = .standby → l.fwUpdateTerminated = true →
      l.deregister.keepOnline = false) : Inv (l.standby nodeRegistered) := by
  have hdereg : (l.standby nodeRegistered).deregister = l.deregister := by
    simp only [standby, toFwUpdateTerminated_rest, toFwUpdate_rest, toTerminateUpload_rest,
      undoDevRegister_rest, updateDeregister_rest]
  have happ := standby_next nodeRegistered hs
  refine ⟨standby_exact hl.exact, ?_, ?_, ?_⟩
  · intro h
    rw [h] at happ
    simp at happ
  · intro h
    rw [h] at happ
    simp at happ
  · intro hstay hidle
    refine Or.inr ?_
    rw [hdereg]
    exact standby_live hl hs hstay hidle (hg hstay)

theorem inv_readyToStandby {l : Link} (hl : Inv l) (hs : l.appState = .readyToStandby) :
    Inv l.readyToStandby := by
  have hoff := hl.ready hs
  have happ : l.readyToStandby.appState = .standby := rfl
  refine ⟨?_, fun h => ?_, fun h => ?_, fun _ hidle => Or.inr ?_⟩
  · unfold readyToStandby
    dsimp only
    split
    · exact OneShot.exact_launch _ _
    · exact hl.exact
  · exact absurd (happ.symm.trans h) (by decide)
  · exact absurd (happ.symm.trans h) (by decide)
  · change l.fwUpdating = false at hidle
    cases hk : l.deregister.keepOnline <;> simp [readyToStandby, hk, hidle, hoff]

end Link

end SlcNode
