import SlcNode.ConfigLayout

namespace SlcNode

def cycleUploadTimeMinSec : BitVec 15 := 30

def CycleTime.limit (t : CycleTime) : CycleTime :=
  if t.cycleTime < cycleUploadTimeMinSec then { t with cycleTime := cycleUploadTimeMinSec } else t

inductive Period
  | firstUpload
  | cycleUpload
  | nodeRegister
  | status
  | data
deriving DecidableEq, Repr

namespace Config

def cycle (c : Config) : Period → CycleTime
  | .firstUpload => c.firstUploadProcedure
  | .cycleUpload => c.cycleUploadProcedure
  | .nodeRegister => c.cycleUploadNoderegister
  | .status => c.cycleUploadStatus
  | .data => c.cycleUploadData

def withCycle (c : Config) (t : CycleTime) : Period → Config
  | .firstUpload => { c with firstUploadProcedure := t }
  | .cycleUpload => { c with cycleUploadProcedure := t }
  | .nodeRegister => { c with cycleUploadNoderegister := t }
  | .status => { c with cycleUploadStatus := t }
  | .data => { c with cycleUploadData := t }

@[simp] theorem cycle_withCycle_self (c : Config) (t : CycleTime) (p : Period) :
    (c.withCycle t p).cycle p = t := by cases p <;> rfl

theorem cycle_withCycle_of_ne (c : Config) (t : CycleTime) {p q : Period} (h : q ≠ p) :
    (c.withCycle t p).cycle q = c.cycle q := by
  cases p <;> cases q <;> first | rfl | exact absurd rfl h

@[simp] theorem withCycle_cycle (c : Config) (p : Period) : c.withCycle (c.cycle p) p = c := by
  cases p <;> rfl

@[simp] theorem deregister_withCycle (c : Config) (t : CycleTime) (p : Period) :
    (c.withCycle t p).deregister = c.deregister := by cases p <;> rfl

@[simp] theorem nodeRegistered_withCycle (c : Config) (t : CycleTime) (p : Period) :
    (c.withCycle t p).nodeRegistered = c.nodeRegistered := by cases p <;> rfl

@[simp] theorem version_withCycle (c : Config) (t : CycleTime) (p : Period) :
    (c.withCycle t p).version = c.version := by cases p <;> rfl

def limit (c : Config) : Config :=
  { c with
    firstUploadProcedure := c.firstUploadProcedure.limit
    cycleUploadProcedure := c.cycleUploadProcedure.limit
    cycleUploadNoderegister := c.cycleUploadNoderegister.limit
    cycleUploadStatus := c.cycleUploadStatus.limit
    cycleUploadData := c.cycleUploadData.limit }

@[simp] theorem cycle_limit (c : Config) (p : Period) : c.limit.cycle p = (c.cycle p).limit := by
  cases p <;> rfl

def defaultConfigVersion : BitVec 16 := 16 ||| 0xAA00

/-- The assignments of `SlcApp_ResetConfig`; padding keeps its bytes. -/
def reset (c : Config) : Config :=
  { c with
    version := defaultConfigVersion
    storeNodeRegistered := 1
    sysWatchdogTimeoutSec := 30 * 60
    regWatchdogTimeoutSec := 10 * 60 * 2 + 60
    lightSensorTimeoutSec := 3600
    firstUploadProcedure :=
      { c.firstUploadProcedure with random := true, cycleTime := 2 * 60, diffTime := 30 }
    cycleUploadProcedure :=
      { c.cycleUploadProcedure with random := true, cycleTime := 7 * 60, diffTime := 2 * 60 }
    cycleUploadNoderegister :=
      { c.cycleUploadNoderegister with random := true, cycleTime := 5 * 60, diffTime := 5 }
    cycleUploadStatus :=
      { c.cycleUploadStatus with random := true, cycleTime := 5 * 60, diffTime := 7 }
    cycleUploadDataEnable := 1
    cycleUploadData :=
      { c.cycleUploadData with random := true, cycleTime := 3600, diffTime := 45 }
    deregister := { keepOnline := false, disconnectType := 2, keepOnlineTime := 3 * 60 }
    nodeRegistered := 1 }

def clearOnBoot (c : Config) : Config :=
  if c.storeNodeRegistered = 0 then { c with nodeRegistered := 0 } else c

theorem clearOnBoot_idem (c : Config) : c.clearOnBoot.clearOnBoot = c.clearOnBoot := by
  unfold clearOnBoot
  split <;> simp_all

@[simp] theorem version_clearOnBoot (c : Config) : c.clearOnBoot.version = c.version := by
  unfold clearOnBoot
  split <;> rfl

@[simp] theorem cycle_clearOnBoot (c : Config) (p : Period) : c.clearOnBoot.cycle p = c.cycle p := by
  unfold clearOnBoot
  split <;> cases p <;> rfl

end Config

end SlcNode
