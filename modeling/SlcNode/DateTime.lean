import SlcNode.Library.LittleEndian

namespace SlcNode

structure DateTime where
  Y : BitVec 16
  M : Byte
  D : Byte
  WD : Byte
  h : Byte
  m : Byte
  s : Byte
deriving DecidableEq, Repr

/-- `_SlcApp_DateTimeStruct`, a schedule pattern: the year counts from 2015 and 255 is a wildcard. -/
structure SlcDateTime where
  Y : Byte
  M : Byte
  D : Byte
  WD : Byte
  h : Byte
  m : Byte
  s : Byte
deriving DecidableEq, Repr

def slcDatetimeBaseYear : ℕ := 2015

/-- `IF_REAL_RTC` with `DATETIME_THRESHOLD_YEAR` -/
def DateTime.isReal (now : DateTime) : Bool := 2018 < now.Y.toNat

def SlcDateTime.agrees (p : SlcDateTime) (now : DateTime) : Bool :=
  (p.Y.toNat + slcDatetimeBaseYear == now.Y.toNat && p.M == now.M && p.D == now.D &&
      p.WD == now.WD && p.h == now.h && p.m == now.m) ||
    (p.Y == 255 && p.M == now.M && p.D == now.D && p.h == now.h && p.m == now.m) ||
    (p.Y == 255 && p.M == 255 && p.D == now.D && p.h == now.h && p.m == now.m) ||
    (p.Y == 255 && p.M == 255 && p.D == 255 && p.WD == now.WD && p.h == now.h && p.m == now.m) ||
    (p.Y == 255 && p.M == 255 && p.D == 255 && p.WD == 255 && p.h == now.h && p.m == now.m) ||
    (p.Y == 255 && p.M == 255 && p.D == 255 && p.WD == 255 && p.h == 255 && p.m == now.m)

def DateTime.agrees (p now : DateTime) : Bool :=
  (p.Y == now.Y && p.M == now.M && p.D == now.D && p.WD == now.WD && p.h == now.h &&
      p.m == now.m) ||
    (p.Y == 255 && p.M == now.M && p.D == now.D && p.h == now.h && p.m == now.m) ||
    (p.Y == 255 && p.M == 255 && p.D == now.D && p.h == now.h && p.m == now.m) ||
    (p.Y == 255 && p.M == 255 && p.D == 255 && p.WD == now.WD && p.h == now.h && p.m == now.m) ||
    (p.Y == 255 && p.M == 255 && p.D == 255 && p.WD == 255 && p.h == now.h && p.m == now.m) ||
    (p.Y == 255 && p.M == 255 && p.D == 255 && p.WD == 255 && p.h == 255 && p.m == now.m)

/-- `SlcApp_DateTimeMatch`: every branch of the source returns, so the order of the cases
(exact, yearly, monthly, weekly, daily, hourly) does not matter. -/
def dateTimeMatch (slcdatetime : Option SlcDateTime) (datetime : Option DateTime)
    (now : DateTime) : Bool :=
  now.isReal && (slcdatetime.any (·.agrees now) || datetime.any (·.agrees now))

/-- `RTC_GetRealTime` at `t` seconds of the epoch, the broken-down time being that of `localtime`
without a time zone. -/
def realTime (t : ℕ) : DateTime :=
  let days := t / 86400
  let z := days + 719468
  let doe := z % 146097
  let yoe := (doe - doe / 1460 + doe / 36524 - doe / 146096) / 365
  let doy := doe - (365 * yoe + yoe / 4 - yoe / 100)
  let mp := (5 * doy + 2) / 153
  let month := if mp < 10 then mp + 3 else mp - 9
  { Y := BitVec.ofNat 16 (yoe + z / 146097 * 400 + if month ≤ 2 then 1 else 0)
    M := BitVec.ofNat 8 month
    D := BitVec.ofNat 8 (doy - (153 * mp + 2) / 5 + 1)
    WD := BitVec.ofNat 8 ((days + 4) % 7)
    h := BitVec.ofNat 8 (t % 86400 / 3600)
    m := BitVec.ofNat 8 (t % 3600 / 60)
    s := BitVec.ofNat 8 (t % 60) }

theorem realTime_minute {t u : ℕ} (h : t / 60 = u / 60) :
    realTime t = { realTime u with s := (realTime t).s } := by
  have hd : t / 86400 = u / 86400 := by omega
  have hh : t % 86400 / 3600 = u % 86400 / 3600 := by omega
  have hm : t % 3600 / 60 = u % 3600 / 60 := by omega
  simp only [realTime, hd, hh, hm]

theorem dateTimeMatch_minute (p : SlcDateTime) {t u : ℕ} (h : t / 60 = u / 60) :
    dateTimeMatch (some p) none (realTime t) = dateTimeMatch (some p) none (realTime u) := by
  rw [realTime_minute h]
  rfl

example : realTime 1560407648 = ⟨2019, 6, 13, 4, 6, 34, 8⟩ := by decide

end SlcNode
