import SlcNode.MeterRead
import SlcNode.Library.TwosComplement
import Mathlib.Data.Rat.Cast.Order

namespace SlcNode

namespace ADE7953

variable (chip : Chip) (polls : List Poll) (u : Uart)

def getInstVoltage : Option (ℤ × Uart) := read chip polls 0x218 u

def getInstCurrentA : Option (ℤ × Uart) := read chip polls 0x216 u

def getActiveEnergyA : Option (ℤ × Uart) := read chip polls 0x21E u

def getInstActivePowerA : Option (ℚ × Uart) :=
  (read chip polls 0x212 u).map fun r => (r.1 / 100, r.2)

def getReactiveEnergyA : Option (ℤ × Uart) := read chip polls 0x220 u

def getInstReactivePowerA : Option (ℤ × Uart) := read chip polls 0x214 u

def getPowerFactorA : Option (ℤ × Uart) := read chip polls 0x10A u

def getInstCurrentB : Option (ℤ × Uart) := read chip polls 0x217 u

def getActiveEnergyB : Option (ℤ × Uart) := read chip polls 0x21F u

def getInstActivePowerB : Option (ℚ × Uart) :=
  (read chip polls 0x213 u).map fun r => (r.1 / 100, r.2)

def getReactiveEnergyB : Option (ℤ × Uart) := read chip polls 0x221 u

def getInstReactivePowerB : Option (ℤ × Uart) := read chip polls 0x215 u

def getPowerFactorB : Option (ℤ × Uart) := read chip polls 0x10B u

end ADE7953

namespace MeterSign

open ADE7953 MeterRead TwosComplement

inductive Accessor
  | instVoltage
  | instCurrentA
  | instCurrentB
  | activeEnergyA
  | activeEnergyB
  | instActivePowerA
  | instActivePowerB
  | reactiveEnergyA
  | reactiveEnergyB
  | instReactivePowerA
  | instReactivePowerB
  | powerFactorA
  | powerFactorB

namespace Accessor

def reg : Accessor → BitVec 16
  | instVoltage => 0x218
  | instCurrentA => 0x216
  | instCurrentB => 0x217
  | activeEnergyA => 0x21E
  | activeEnergyB => 0x21F
  | instActivePowerA => 0x212
  | instActivePowerB => 0x213
  | reactiveEnergyA => 0x220
  | reactiveEnergyB => 0x221
  | instReactivePowerA => 0x214
  | instReactivePowerB => 0x215
  | powerFactorA => 0x10A
  | powerFactorB => 0x10B

def scaled (v : ℤ) : Accessor → ℚ
  | instActivePowerA | instActivePowerB => v / 100
  | _ => v

def get (chip : Chip) (polls : List Poll) (u : Uart) : Accessor → Option ℚ
  | instVoltage => (getInstVoltage chip polls u).map fun r => r.1
  | instCurrentA => (getInstCurrentA chip polls u).map fun r => r.1
  | instCurrentB => (getInstCurrentB chip polls u).map fun r => r.1
  | activeEnergyA => (getActiveEnergyA chip polls u).map fun r => r.1
  | activeEnergyB => (getActiveEnergyB chip polls u).map fun r => r.1
  | instActivePowerA => (getInstActivePowerA chip polls u).map fun r => r.1
  | instActivePowerB => (getInstActivePowerB chip polls u).map fun r => r.1
  | reactiveEnergyA => (getReactiveEnergyA chip polls u).map fun r => r.1
  | reactiveEnergyB => (getReactiveEnergyB chip polls u).map fun r => r.1
  | instReactivePowerA => (getInstReactivePowerA chip polls u).map fun r => r.1
  | instReactivePowerB => (getInstReactivePowerB chip polls u).map fun r => r.1
  | powerFactorA => (getPowerFactorA chip polls u).map fun r => r.1
  | powerFactorB => (getPowerFactorB chip polls u).map fun r => r.1

theorem get_eq (chip : Chip) (polls : List Poll) (u : Uart) (a : Accessor) :
    a.get chip polls u = (read chip polls a.reg u).map fun r => a.scaled r.1 := by
  cases a with
  | instActivePowerA => exact Option.map_map ..
  | instActivePowerB => exact Option.map_map ..
  | _ => rfl

theorem scaled_injective (a : Accessor) {v v' : ℤ} : a.scaled v = a.scaled v' ↔ v = v' := by
  cases a with
  | instActivePowerA | instActivePowerB =>
    exact (div_left_inj' (by norm_num)).trans Int.cast_inj
  | _ => exact Int.cast_inj

theorem reg_size (a : Accessor) : getRegisterSizeByte a.reg ≤ 3 := by
  cases a <;> decide

end Accessor

theorem regValue_of_length {bs : List Byte} (h : bs.length ≤ 3) :
    regValue bs = LittleEndian.value bs := by
  have hlt := (LittleEndian.value_lt bs).trans_le (Nat.pow_le_pow_right (by omega) h)
  have hnat : (BitVec.ofNat 32 (LittleEndian.value bs)).toNat = LittleEndian.value bs := by
    rw [BitVec.toNat_ofNat]
    omega
  rw [regValue, LittleEndian.value_append_zeros, BitVec.toInt_eq_toNat_of_lt (by omega), hnat]

theorem reported_iff {u : Uart} {c : Call} {a : Accessor} {v : ℤ} (hreg : c.reg = a.reg)
    (hu : u.channel = .empty) (hwhole : Unsplit u c) (hv : Fits (getRegisterSizeByte a.reg) v)
    (hcontent : c.chip.content a.reg = bytesOf (getRegisterSizeByte a.reg) v) :
    a.get c.chip c.polls u = some (a.scaled v) ↔ 0 ≤ v := by
  have hread : read c.chip c.polls c.reg u = _ := (inStep_iff u c hu).mpr hwhole
  have hlen : (bytesOf (getRegisterSizeByte a.reg) v).length ≤ 3 := by
    rw [bytesOf_length]
    exact a.reg_size
  rw [hreg, hcontent] at hread
  rw [a.get_eq, hread, Option.map_some, Option.some_inj, a.scaled_injective,
    regValue_of_length hlen, value_bytesOf_eq_iff hv]

def holding (v : ℤ) : Chip where
  content reg := bytesOf (getRegisterSizeByte reg) v
  width reg _ := bytesOf_length (getRegisterSizeByte reg) v

def promptly (v : ℤ) (a : Accessor) : Call where
  chip := holding v
  reg := a.reg
  hardware := a.reg_size.trans_lt (by decide)
  polls := [⟨true, 4, 4, by decide⟩]
  serves := rfl

theorem promptly_unsplit (v : ℤ) (a : Accessor) (u : Uart) : Unsplit u (promptly v a) := by
  intro p hp
  obtain rfl := Option.some.inj hp
  have hsize := a.reg_size
  exact ⟨hsize.trans (by decide), hsize.trans (by decide)⟩

theorem reported_voltage :
    Accessor.instVoltage.get (holding 2300) [⟨true, 4, 4, by decide⟩] ⟨.empty, []⟩ =
        some (Accessor.instVoltage.scaled 2300) ↔ (0 : ℤ) ≤ 2300 :=
  reported_iff (c := promptly 2300 .instVoltage) rfl rfl (promptly_unsplit _ _ _) (by decide) rfl

theorem reported_negative :
    Accessor.instReactivePowerA.get (holding (-1)) [⟨true, 4, 4, by decide⟩] ⟨.empty, []⟩ =
      some 16777215 ∧ Accessor.instReactivePowerA.scaled (-1) = -1 :=
  ⟨by decide +kernel, by decide +kernel⟩

end MeterSign

end SlcNode
