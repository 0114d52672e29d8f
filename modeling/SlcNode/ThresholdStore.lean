import SlcNode.Frame
import SlcNode.ThresholdFile
import SlcNode.Library.EventRun

namespace SlcNode.ThresholdStore

open EventRun State Threshold

abbrev Put := { put : ThresholdPut // put.Valid }

def step (s : State) (put : Put) : State := put.1.apply s

def Repeats (s : State) (put : ThresholdPut) : Prop :=
  put.target.Same put.value (s.threshold put.target)

instance (s : State) (put : ThresholdPut) : Decidable (Repeats s put) :=
  inferInstanceAs (Decidable (Same _ _ _))

def write (put : ThresholdPut) (s : State) : State :=
  { s with
    threshold := Function.update s.threshold put.target put.value
    files := DataStore.writeFile s.files put.file (LittleEndian.bytes 4 put.value.toNat) }

theorem write_restored (put : ThresholdPut) (s : State) (t : Threshold) :
    restored (write put s).files t = if t.file = put.file then put.value else restored s.files t :=
  restored_writeFile s.files t put.file put.value

theorem write_threshold (put : ThresholdPut) (s : State) (t : Threshold) :
    (write put s).threshold t = if t = put.target then put.value else s.threshold t := by
  simp only [write, Function.update_apply]

theorem updateFloatThreshold_eq {t : Threshold} (ht : t.isLux = false) {v : Binary32}
    (hv : v.isNaN = false) (file : String) (s : State) :
    s.updateFloatThreshold t file v =
      if t.Same v (s.threshold t) then s
      else { s with
        threshold := Function.update s.threshold t v
        files := DataStore.writeFile s.files file (LittleEndian.bytes 4 v.toNat) } := by
  have hsame : t.Same v (s.threshold t) ↔ Binary32.eq v (s.threshold t) = true := by
    constructor
    · rintro (h | ⟨-, h⟩)
      · rw [← h]
        exact Binary32.eq_refl hv
      · exact h
    · exact fun h => Or.inr ⟨ht, h⟩
  rw [updateFloatThreshold]
  by_cases h : Binary32.eq v (s.threshold t) = true
  · rw [if_pos (hsame.mpr h), h]
    rfl
  · rw [if_neg (mt hsame.mp h), Bool.eq_false_iff.mpr h]
    rfl

theorem updateLuxThreshold_eq {t : Threshold} (ht : t.isLux = true) {v : ℤ}
    (hv : 0 ≤ v ∧ v < 2 ^ 32) (file : String) (s : State) :
    s.updateLuxThreshold t file v =
      if t.Same (BitVec.ofInt 32 v) (s.threshold t) then s
      else { s with
        threshold := Function.update s.threshold t (BitVec.ofInt 32 v)
        files := DataStore.writeFile s.files file
          (LittleEndian.bytes 4 (BitVec.ofInt 32 v).toNat) } := by
  have hsame : t.Same (BitVec.ofInt 32 v) (s.threshold t) ↔ v = (s.threshold t).toNat := by
    have hnat : ((BitVec.ofInt 32 v).toNat : ℤ) = v := by
      rw [BitVec.toNat_ofInt]
      omega
    constructor
    · rintro (h | ⟨h, -⟩)
      · rw [← h, hnat]
      · exact absurd (ht.symm.trans h) Bool.noConfusion
    · intro h
      refine Or.inl (BitVec.eq_of_toNat_eq ?_)
      omega
  rw [updateLuxThreshold]
  by_cases h : v = (s.threshold t).toNat
  · rw [if_pos (hsame.mpr h), if_neg (not_not.mpr h)]
  · rw [if_neg (mt hsame.mp h), if_pos h]

theorem apply_eq {put : ThresholdPut} (h : put.Valid) (s : State) :
    put.apply s = if Repeats s put then s else write put s := by
  cases put with
  | luxHigh v | luxLow v => exact updateLuxThreshold_eq rfl h _ s
  | _ => exact updateFloatThreshold_eq rfl h _ s

theorem restoreOne_threshold (t : Threshold) (file : String) (d : BitVec 32) (s : State) :
    (s.restoreOne t file d).files = s.files ∧
      (s.restoreOne t file d).threshold = Function.update s.threshold t
        (let r := DataStore.readFile s.files file 4
        if r.ret ≤ 0 then d else BitVec.ofNat 32 (LittleEndian.value r.buff)) := ⟨rfl, rfl⟩

theorem restoreThreshold_threshold (s : State) (t : Threshold) :
    s.restoreThreshold.threshold t = restored s.files t := by
  cases t <;>
    simp only [restoreThreshold, restoreOne_threshold, Function.update_self, ne_eq, reduceCtorEq,
      not_false_eq_true, Function.update_of_ne] <;>
    rfl

theorem threshold_file_ne (t : Threshold) :
    t.file ≠ DataStore.sysconfigFileName ∧ t.file ≠ DataStore.lightscheduleFileName := by
  cases t <;> decide

theorem boot_threshold (files : Files) (t : Threshold) :
    (boot files).threshold t = restored files t := by
  obtain ⟨hc, hl⟩ := threshold_file_ne t
  have hfiles : ((zeroed files).restoreConfig.restoreLightSchedule).files t.file = files t.file := by
    rw [restoreLightSchedule_keeps (fun s => s.files t.file)
      (fun _ _ _ => Function.update_of_ne hl ..), restoreConfig_files hc]
    rfl
  have hboot : (boot files).threshold =
      (zeroed files).restoreConfig.restoreLightSchedule.restoreThreshold.threshold := rfl
  rw [hboot, restoreThreshold_threshold]
  exact restored_congr hfiles

def note (_ : State) (put : Put) (asked : Threshold → BitVec 32) : Threshold → BitVec 32 :=
  Function.update asked put.1.target put.1.value

/-- If the node restarts right after the call, each limit has the last value given to it, and
those that the call is not for are as they would have been before it. -/
def RoundTrip (p : State × (Threshold → BitVec 32)) (put : Put) : Prop :=
  (∀ t : Threshold, t.Same ((boot (step p.1 put).files).threshold t) (note p.1 put p.2 t)) ∧
    ∀ t ≠ put.1.target,
      t.Same ((boot (step p.1 put).files).threshold t) ((boot p.1.files).threshold t)

/-- The limits whose calls write the file of another limit, or one that another limit shares. -/
def Misfiled : Threshold → Prop
  | .pfHigh | .pfLow | .luxHigh | .luxLow => True
  | _ => False

def MisfiledRepeats (p : State × (Threshold → BitVec 32)) (put : Put) : Prop :=
  Misfiled put.1.target → Repeats p.1 put.1

structure Inv (s : State) (asked : Threshold → BitVec 32) : Prop where
  stored (t : Threshold) : t.Same (restored s.files t) (s.threshold t)
  asked (t : Threshold) : t.Same (s.threshold t) (asked t)

theorem note_apply (s : State) (put : Put) (asked : Threshold → BitVec 32) (t : Threshold) :
    note s put asked t = if t = put.1.target then put.1.value else asked t := by
  rw [note, Function.update_apply]

theorem inv_boot (files : Files) : Inv (boot files) (boot files).threshold := by
  refine ⟨fun t => ?_, fun t => same_refl t _⟩
  rw [boot_threshold]
  refine Or.inl (restored_congr ?_)
  obtain ⟨hc, hl⟩ := threshold_file_ne t
  rw [boot_files files hl, restoreConfig_files hc]
  rfl

section Step

variable {s : State} {asked : Threshold → BitVec 32} {put : Put}

theorem step_of_repeats (h : Repeats s put.1) : step s put = s := by
  rw [step, apply_eq put.2, if_pos h]

theorem step_of_not_repeats (h : ¬Repeats s put.1) : step s put = write put.1 s := by
  rw [step, apply_eq put.2, if_neg h]

theorem inv_of_repeats (h : Inv s asked) (hr : Repeats s put.1) :
    Inv (step s put) (note s put asked) := by
  rw [step_of_repeats hr]
  refine ⟨h.stored, fun t => ?_⟩
  rw [note_apply]
  split
  case isTrue ht => exact ht ▸ Same.symm hr
  case isFalse => exact h.asked t

theorem inv_of_own (h : Inv s asked) (hown : ∀ t : Threshold, t.file = put.1.file ↔ t = put.1.target)
    (hr : ¬Repeats s put.1) : Inv (step s put) (note s put asked) := by
  rw [step_of_not_repeats hr]
  refine ⟨fun t => ?_, fun t => ?_⟩
  · simp only [write_restored, write_threshold, hown]
    split
    · exact same_refl _ _
    · exact h.stored t
  · simp only [write_threshold, note_apply]
    split
    · exact same_refl _ _
    · exact h.asked t

theorem roundTrip_iff : RoundTrip (s, asked) put ↔
    (∀ t : Threshold, t.Same (restored (step s put).files t) (note s put asked t)) ∧
      ∀ t ≠ put.1.target, t.Same (restored (step s put).files t) (restored s.files t) := by
  simp only [RoundTrip, boot_threshold]

theorem roundTrip_of_repeats (h : Inv s asked) (hr : Repeats s put.1) :
    RoundTrip (s, asked) put := by
  have hinv := inv_of_repeats h hr
  rw [roundTrip_iff]
  refine ⟨fun t => (hinv.stored t).trans (hinv.asked t), fun t _ => ?_⟩
  rw [step_of_repeats hr]
  exact same_refl _ _

theorem roundTrip_of_own (h : Inv s asked)
    (hown : ∀ t : Threshold, t.file = put.1.file ↔ t = put.1.target) (hr : ¬Repeats s put.1) :
    RoundTrip (s, asked) put := by
  have hinv := inv_of_own h hown hr
  rw [roundTrip_iff]
  refine ⟨fun t => (hinv.stored t).trans (hinv.asked t), fun t ht => ?_⟩
  rw [step_of_not_repeats hr, write_restored, if_neg (mt (hown t).mp ht)]
  exact same_refl _ _

theorem not_roundTrip_of_crossed (h : Inv s asked) (hc : put.1.target.file ≠ put.1.file)
    (hr : ¬Repeats s put.1) : ¬RoundTrip (s, asked) put := by
  rw [roundTrip_iff]
  rintro ⟨hall, -⟩
  have hvalue := hall put.1.target
  rw [step_of_not_repeats hr, write_restored, if_neg hc, note_apply, if_pos rfl] at hvalue
  exact hr (hvalue.symm.trans (h.stored put.1.target))

theorem not_roundTrip_of_shared (h : Inv s asked) {t : Threshold} (ht : t ≠ put.1.target)
    (hf : put.1.target.file = put.1.file) (hshared : t.file = put.1.target.file)
    (hlux : t.isLux = put.1.target.isLux) (hr : ¬Repeats s put.1) :
    ¬RoundTrip (s, asked) put := by
  rw [roundTrip_iff]
  rintro ⟨-, hothers⟩
  have hother := hothers t ht
  have hread : restored s.files t = restored s.files put.1.target := by
    rw [restored, restored, invalid, invalid, hshared, hlux]
  rw [step_of_not_repeats hr, write_restored, if_pos (hshared.trans hf), hread] at hother
  have hsame : put.1.target.Same put.1.value (restored s.files put.1.target) := by
    rw [Same, ← hlux]
    exact hother
  exact hr (hsame.trans (h.stored put.1.target))

end Step

theorem file_eq_iff {u : Threshold} (h : ¬Misfiled u) (t : Threshold) : t.file = u.file ↔ t = u := by
  cases u with
  | pfHigh | pfLow | luxHigh | luxLow => exact absurd trivial h
  | _ => cases t <;> decide

theorem own_of_not_misfiled {put : ThresholdPut} (h : ¬Misfiled put.target) (t : Threshold) :
    t.file = put.file ↔ t = put.target := by
  have hfile : put.file = put.target.file := by
    cases put with
    | pfHigh | pfLow => exact absurd trivial h
    | _ => rfl
  rw [hfile, file_eq_iff h]

theorem not_roundTrip_of_misfiled {s : State} {asked : Threshold → BitVec 32} {put : Put}
    (h : Inv s asked) (hm : Misfiled put.1.target) (hr : ¬Repeats s put.1) :
    ¬RoundTrip (s, asked) put := by
  obtain ⟨put, hvalid⟩ := put
  cases put with
  | pfHigh | pfLow =>
    have hcrossed : DataStore.pfThresholdH ≠ DataStore.pfThresholdL := by decide
    first
    | exact not_roundTrip_of_crossed h hcrossed hr
    | exact not_roundTrip_of_crossed h hcrossed.symm hr
  | luxHigh =>
    have hne : Threshold.luxLow ≠ .luxHigh := by decide
    exact not_roundTrip_of_shared h hne rfl rfl rfl hr
  | luxLow =>
    have hne : Threshold.luxHigh ≠ .luxLow := by decide
    exact not_roundTrip_of_shared h hne rfl rfl rfl hr
  | _ => exact absurd hm id

theorem roundTrip_iff_repeats (p : State × (Threshold → BitVec 32)) (put : Put)
    (h : Inv p.1 p.2) : RoundTrip p put ↔ MisfiledRepeats p put := by
  constructor
  · intro hround hm
    by_contra hr
    exact not_roundTrip_of_misfiled h hm hr hround
  · intro hg
    by_cases hr : Repeats p.1 put.1
    · exact roundTrip_of_repeats h hr
    · exact roundTrip_of_own h (own_of_not_misfiled (mt hg hr)) hr

theorem inv_step (p : State × (Threshold → BitVec 32)) (put : Put) (h : Inv p.1 p.2)
    (hg : MisfiledRepeats p put) : Inv (step p.1 put) (note p.1 put p.2) := by
  by_cases hr : Repeats p.1 put.1
  · exact inv_of_repeats h hr
  · exact inv_of_own h (own_of_not_misfiled (mt hg hr)) hr

theorem roundTrip_run_iff (files : Files) (puts : List Put) :
    Throughout (withHistory step note) RoundTrip (boot files, (boot files).threshold) puts ↔
      Throughout (withHistory step note) MisfiledRepeats (boot files, (boot files).threshold)
        puts :=
  throughout_iff_guard inv_step roundTrip_iff_repeats (inv_boot files)

def pfHalf : Put := ⟨.pfHigh 0x3F000000, show Binary32.isNaN 0x3F000000 = false by decide⟩

theorem pf_not_roundTrip :
    ¬Throughout (withHistory step note) RoundTrip
      (boot fun _ => none, (boot fun _ => none).threshold) [pfHalf] := by
  rintro ⟨⟨hall, -⟩, -⟩
  exact absurd (hall .pfHigh) (by decide)

end SlcNode.ThresholdStore
