import SlcNode.Frame
import SlcNode.Library.EventRun

namespace SlcNode.DimCommand

open EventRun State

def Driven (l : Lamp) : Prop := l.dimLevel.map LightDim.levels = some l.lightDim.levels

instance (l : Lamp) : Decidable (Driven l) :=
  inferInstanceAs (Decidable (l.dimLevel.map LightDim.levels = some l.lightDim.levels))

def Noticed (l : Lamp) : Prop := l.lightDim ≠ l.lightDimBackup ∨ Driven l

def commanded (s : State) : Event → Bool → Bool
  | .lightDim _, _ => true
  | e, c => c && !s.restarts e

def Applied (p : State × Bool) : Event → Prop
  | .iterate i =>
    p.1.appState = .standby → (p.1.switch i).rebooting = false →
      p.2 = true ∨ (p.1.iterate i).dimLevel ≠ none → Driven (p.1.iterate i).lamp
  | _ => True

def RepeatsDriven (p : State × Bool) : Event → Prop
  | .lightDim payload => p.1.lightDim.update payload = p.1.lightDim → Driven p.1.lamp
  | _ => True

instance : ∀ p e, Decidable (Applied p e)
  | p, .iterate i =>
    inferInstanceAs (Decidable (p.1.appState = .standby → (p.1.switch i).rebooting = false →
      p.2 = true ∨ (p.1.iterate i).dimLevel ≠ none → Driven (p.1.iterate i).lamp))
  | _, .config _ | _, .threshold _ | _, .lightDim _ | _, .lightSchedule _ | _, .customAtCmd
  | _, .fwUpdateTriggered | _, .fwUpdateTerminated | _, .kickAppTimer | _, .timer _
  | _, .reboot => .isTrue trivial

instance : ∀ p e, Decidable (RepeatsDriven p e)
  | p, .lightDim payload =>
    inferInstanceAs (Decidable (p.1.lightDim.update payload = p.1.lightDim → Driven p.1.lamp))
  | _, .config _ | _, .threshold _ | _, .lightSchedule _ | _, .customAtCmd
  | _, .fwUpdateTriggered | _, .fwUpdateTerminated | _, .kickAppTimer | _, .timer _
  | _, .iterate _ | _, .reboot => .isTrue trivial

def Inv (p : State × Bool) : Prop := p.2 = true ∨ p.1.dimLevel ≠ none → Noticed p.1.lamp

theorem driven_of_eq {l : Lamp} {d : LightDim} (hl : l.lightDim = d) (hd : l.dimLevel = some d) :
    Driven l := by
  rw [Driven, hl, hd]
  rfl

theorem checkSchedule_lamp (now : DateTime) (k : Fin lightScheduleCountMax) (s : State) :
    (s.checkSchedule now k).lamp = s.lamp ∨ Driven (s.checkSchedule now k).lamp := by
  unfold checkSchedule
  split
  · exact Or.inr (driven_of_eq rfl rfl)
  · exact Or.inl rfl

theorem processLightSchedule_lamp (i : Inputs) (s : State) :
    (s.processLightSchedule i).lamp = s.lamp ∨ Driven (s.processLightSchedule i).lamp := by
  unfold processLightSchedule
  induction List.finRange lightScheduleCountMax generalizing s with
  | nil => exact Or.inl rfl
  | cons k ks ih =>
    rw [List.foldl_cons]
    have hk := checkSchedule_lamp (i.clock k) k s
    rcases ih (s.checkSchedule (i.clock k) k) with heq | hdriven
    · rw [heq]
      exact hk
    · exact Or.inr hdriven

theorem iterate_lamp {i : Inputs} {s : State} (h : (s.switch i).rebooting = false) :
    (s.iterate i).lamp = (s.switch i).lamp ∨ Driven (s.iterate i).lamp := by
  rw [(iterate_of_running h).lamp]
  exact processLightSchedule_lamp i _

theorem updateDim_lamp (s : State) :
    s.lamp.lightDim = s.lamp.lightDimBackup ∧ s.updateDim.lamp = s.lamp ∨
      Driven s.updateDim.lamp := by
  unfold updateDim
  split
  case isTrue => exact Or.inr (driven_of_eq rfl rfl)
  case isFalse h =>
    obtain ⟨hb, hd⟩ := not_or.mp h
    refine Or.inl ⟨?_, rfl⟩
    have hbroadcast := not_not.mp hb
    have hdimarray := not_not.mp hd
    rw [lamp, LightDim.mk.injEq]
    exact ⟨hbroadcast, hdimarray⟩

theorem standby_lamp (i : Inputs) (s : State) :
    (s.standby i).lamp = ((s.updateTimers i).updateDeregister.updateDim).lamp := by
  rw [standby, (toFwUpdateTerminated_beside _).lamp, (toFwUpdate_beside _).lamp,
    (toTerminateUpload_beside _).lamp, (toUpload_same i _).lamp, (undoDevRegister_views _).1]

theorem standby_driven {i : Inputs} {s : State} {c : Bool} (h : Inv (s, c))
    (hc : c = true ∨ (s.standby i).lamp.dimLevel ≠ none) : Driven (s.standby i).lamp := by
  have hlamp : (s.updateTimers i).updateDeregister.lamp = s.lamp :=
    (updateDeregister_beside _).lamp.trans (updateTimers_same i s).lamp
  rw [standby_lamp] at hc ⊢
  rcases updateDim_lamp (s.updateTimers i).updateDeregister with ⟨heq, hsame⟩ | hdriven
  · rw [hlamp] at heq hsame
    rw [hsame] at hc ⊢
    rcases h hc with hne | hdriven
    · exact absurd heq hne
    · exact hdriven
  · exact hdriven

theorem iterate_standby_driven {i : Inputs} {s : State} {c : Bool} (h : Inv (s, c))
    (hs : s.appState = .standby) (hr : (s.switch i).rebooting = false)
    (hc : c = true ∨ (s.iterate i).dimLevel ≠ none) : Driven (s.iterate i).lamp := by
  have hswitch : s.switch i = s.standby i := by rw [switch, hs]
  rcases iterate_lamp hr with heq | hdriven
  · have hc' : c = true ∨ (s.iterate i).lamp.dimLevel ≠ none := hc
    rw [heq, hswitch] at hc' ⊢
    exact standby_driven h hc'
  · exact hdriven

theorem inv_iterate {i : Inputs} {s : State} {c : Bool} (h : Inv (s, c))
    (hr : (s.switch i).rebooting = false) : Inv (s.iterate i, c) := by
  intro hc
  by_cases hs : s.appState = .standby
  · exact Or.inr (iterate_standby_driven h hs hr hc)
  · rcases iterate_lamp hr with heq | hdriven
    · have hlamp : (s.iterate i).lamp = s.lamp := heq.trans (switch_keeps_of_ne hs).lamp
      have hc' : c = true ∨ (s.iterate i).lamp.dimLevel ≠ none := hc
      rw [hlamp] at hc'
      change Noticed (s.iterate i).lamp
      rw [hlamp]
      exact h hc'
    · exact Or.inr hdriven

theorem commanded_of_restarts {s : State} {e : Event} (c : Bool) (h : restarts s e = true) :
    commanded s e c = false := by
  cases e with
  | lightDim => exact absurd h Bool.false_ne_true
  | _ => simp [commanded, h]

theorem commanded_of_ne {s : State} {e : Event} (c : Bool) (hr : restarts s e = false)
    (hd : ∀ payload, e ≠ .lightDim payload) : commanded s e c = c := by
  cases e with
  | lightDim payload => exact absurd rfl (hd payload)
  | _ => simp [commanded, hr]

theorem inv_boot (files : Files) : Inv (boot files, false) := by
  rintro (hc | hd)
  · exact absurd hc Bool.false_ne_true
  · exact absurd (congrArg Lamp.dimLevel (boot_lamp files)) hd

theorem inv_of_lamp {s t : State} {c : Bool} (hl : t.lamp = s.lamp) (h : Inv (s, c)) :
    Inv (t, c) := by
  have hd : t.dimLevel = s.dimLevel := congrArg Lamp.dimLevel hl
  intro hc
  change Noticed t.lamp
  rw [hl]
  exact h (by rwa [hd] at hc)

theorem noticed_updateLightDim {payload : DimPayload} {s : State}
    (hg : s.lightDim.update payload = s.lightDim → Driven s.lamp) :
    Noticed (s.updateLightDim payload).lamp := by
  by_cases heq : s.lightDim.update payload = s.lightDim
  · have hd : s.dimLevel.map LightDim.levels = some s.lightDim.levels := hg heq
    refine Or.inr ?_
    simp only [Driven, updateLightDim, lamp, heq]
    exact hd
  · exact Or.inl heq

theorem step_lamp {s : State} {e : Event} (hr : restarts s e = false)
    (hd : ∀ payload, e ≠ .lightDim payload) (hi : ∀ i, e ≠ .iterate i) :
    (s.step e).lamp = s.lamp := by
  cases e with
  | config put => exact config_keeps lamp (fun _ _ _ _ => rfl) put s
  | threshold put => exact threshold_keeps lamp (fun _ _ _ _ _ _ => rfl) put s
  | lightDim payload => exact absurd rfl (hd payload)
  | lightSchedule buff =>
    rw [step, updateLightSchedule]
    split <;> rfl
  | timer t => exact expire_keeps lamp (fun _ _ _ _ _ _ _ _ => rfl) t s (fun _ => rfl) hr
  | iterate i => exact absurd rfl (hi i)
  | reboot => exact absurd hr Bool.noConfusion
  | customAtCmd | fwUpdateTriggered | fwUpdateTerminated | kickAppTimer => rfl

theorem inv_step (p : State × Bool) (e : Event) (h : Inv p) (hg : RepeatsDriven p e) :
    Inv (withHistory step commanded p e) := by
  obtain ⟨s, c⟩ := p
  change Inv (s.step e, commanded s e c)
  cases hr : restarts s e with
  | true =>
    obtain ⟨files, he, -⟩ := step_of_restarts hr
    rw [he, commanded_of_restarts c hr]
    exact inv_boot files
  | false =>
    by_cases hd : ∃ payload, e = .lightDim payload
    · obtain ⟨payload, rfl⟩ := hd
      exact fun _ => noticed_updateLightDim hg
    · have hd' : ∀ payload, e ≠ .lightDim payload := not_exists.mp hd
      rw [commanded_of_ne c hr hd']
      by_cases hi : ∃ i, e = .iterate i
      · obtain ⟨i, rfl⟩ := hi
        exact inv_iterate h hr
      · exact inv_of_lamp (step_lamp hr hd' (not_exists.mp hi)) h

theorem applied_of_inv (p : State × Bool) (e : Event) (h : Inv p) (_ : RepeatsDriven p e) :
    Applied p e := by
  cases e with
  | iterate i => exact fun hs hr hc => iterate_standby_driven h hs hr hc
  | _ => trivial

theorem applied_run (files : Files) (es : List Event)
    (h : Throughout (withHistory step commanded) RepeatsDriven (boot files, false) es) :
    Throughout (withHistory step commanded) Applied (boot files, false) es :=
  throughout_of_guard inv_step applied_of_inv (inv_boot files) h

def allTo (level : Byte) : DimPayload := ⟨[1, level], Nat.le_refl 2, 0⟩

theorem applied_once :
    Throughout (withHistory step commanded) Applied (boot fun _ => none, false)
      (toStandby ++ [.lightDim (allTo 50), .iterate quiet]) :=
  applied_run _ _ (by decide)

theorem repeated_not_applied :
    ¬Throughout (withHistory step commanded) Applied (boot fun _ => none, false)
      (toStandby ++ [.lightDim (allTo 50), .lightDim (allTo 50), .iterate quiet]) := by
  decide

end SlcNode.DimCommand
