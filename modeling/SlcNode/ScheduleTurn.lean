import SlcNode.ScheduleStore

namespace SlcNode

structure Drive where
  lightDim : LightDim
  lightDimBackup : LightDim
  dimLevel : Option LightDim
  uploadDim : Bool
deriving DecidableEq

def State.drive (s : State) : Drive := ⟨s.lightDim, s.lightDimBackup, s.dimLevel, s.uploadDim⟩

def State.withDrive (d : Drive) (s : State) : State :=
  { s with
    lightDim := d.lightDim
    lightDimBackup := d.lightDimBackup
    dimLevel := d.dimLevel
    uploadDim := d.uploadDim }

@[simp] theorem State.drive_withDrive (d : Drive) (s : State) : (s.withDrive d).drive = d := rfl

@[simp] theorem State.schedule_withDrive (d : Drive) (s : State) :
    (s.withDrive d).schedule = s.schedule := rfl

namespace ScheduleTurn

open State

def driven (level : Byte) : Drive :=
  let d : LightDim := ⟨1, Vector.replicate lightAddrMax level⟩
  { lightDim := d, lightDimBackup := d, dimLevel := some d, uploadDim := true }

def Sets (level : Byte) (turn : State → State) (s : State) : Prop :=
  ∀ d, (turn (s.withDrive d)).drive = driven level

def Leaves (turn : State → State) (s : State) : Prop := ∀ d, (turn (s.withDrive d)).drive = d

def beforeTurn (i : Inputs) (n : ℕ) (s : State) : State :=
  ((List.finRange lightScheduleCountMax).take n).foldl (fun s j => s.checkSchedule (i.clock j) j) s

variable {s : State} {k : Fin lightScheduleCountMax} {now : DateTime}

theorem not_leaves_of_sets {level : Byte} {turn : State → State} (h : Sets level turn s) :
    ¬Leaves turn s := by
  intro hleaves
  have hsets := h ⟨⟨0, Vector.replicate lightAddrMax 0⟩, ⟨0, Vector.replicate lightAddrMax 0⟩, none, false⟩
  rw [hleaves] at hsets
  exact Bool.noConfusion (congrArg Drive.uploadDim hsets)

theorem checkSchedule_sets (h : (s.schedule k).due now = true) :
    Sets (s.schedule k).dim (checkSchedule now k) s := by
  intro d
  rw [checkSchedule, schedule_withDrive, if_pos h]
  rfl

theorem checkSchedule_leaves (h : ¬(s.schedule k).due now = true) :
    Leaves (checkSchedule now k) s := by
  intro d
  rw [checkSchedule, schedule_withDrive, if_neg h, drive_withDrive]

theorem due_of_sets {level : Byte} (h : Sets level (checkSchedule now k) s) :
    (s.schedule k).due now = true := by
  by_contra hnot
  exact not_leaves_of_sets h (checkSchedule_leaves hnot)

theorem not_due_of_leaves (h : Leaves (checkSchedule now k) s) : ¬(s.schedule k).due now = true :=
  fun hdue => not_leaves_of_sets (checkSchedule_sets hdue) h

theorem checkSchedule_other (now : DateTime) {j l : Fin lightScheduleCountMax} (h : l ≠ j)
    (s : State) : (s.checkSchedule now j).schedule l = s.schedule l := by
  rw [ScheduleStore.checkSchedule_schedule, Function.update_of_ne h]

theorem foldl_other (clock : Fin lightScheduleCountMax → DateTime)
    {js : List (Fin lightScheduleCountMax)} (h : k ∉ js) (s : State) :
    (js.foldl (fun s j => s.checkSchedule (clock j) j) s).schedule k = s.schedule k := by
  induction js generalizing s with
  | nil => rfl
  | cons j js ih =>
    obtain ⟨hj, hjs⟩ := List.ne_and_not_mem_of_not_mem_cons h
    rw [List.foldl_cons, ih hjs, checkSchedule_other _ hj]

theorem beforeTurn_schedule (i : Inputs) (k : Fin lightScheduleCountMax) (s : State) :
    (beforeTurn i k s).schedule k = s.schedule k := by
  apply foldl_other
  intro h
  obtain ⟨n, hn, hget⟩ := List.mem_take_iff_getElem.mp h
  rw [List.getElem_finRange] at hget
  have hval := congrArg Fin.val hget
  simp only [Fin.val_cast] at hval
  omega

theorem beforeTurn_zero (i : Inputs) (s : State) : beforeTurn i 0 s = s := rfl

theorem beforeTurn_succ (i : Inputs) (k : Fin lightScheduleCountMax) (s : State) :
    beforeTurn i (k + 1) s = (beforeTurn i k s).checkSchedule (i.clock k) k := by
  have hk : (k : ℕ) < (List.finRange lightScheduleCountMax).length := by
    rw [List.length_finRange]
    exact k.isLt
  unfold beforeTurn
  rw [List.take_succ_eq_append_getElem hk, List.foldl_append, List.getElem_finRange]
  rfl

theorem beforeTurn_all (i : Inputs) (s : State) :
    beforeTurn i lightScheduleCountMax s = s.processLightSchedule i := by
  have hlen := List.length_finRange (n := lightScheduleCountMax)
  rw [beforeTurn, List.take_of_length_le (Nat.le_of_eq hlen), processLightSchedule]

theorem beforeTurn_last {k : Fin lightScheduleCountMax} (h : (k : ℕ) + 1 = lightScheduleCountMax)
    (i : Inputs) (s : State) :
    (beforeTurn i k s).checkSchedule (i.clock k) k = s.processLightSchedule i := by
  rw [← beforeTurn_succ, h, beforeTurn_all]

end ScheduleTurn

end SlcNode
