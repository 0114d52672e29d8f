import SlcNode.Library.Channel
import SlcNode.Library.LittleEndian
import Mathlib.Tactic.Common

namespace SlcNode

namespace ADE7953

/-- What one turn of the polling loop finds: whether the UART is writable, how many bytes arrive
before `readable()` is asked, and at how many bytes `UARTSerial::read` stops. -/
structure Poll where
  writable : Bool
  arrived : ℕ
  taken : ℕ
  taken_pos : 0 < taken

structure Uart where
  channel : Channel Byte
  sent : List (List Byte)

def adeRead : Byte := 0x35

def getRegisterSizeByte (reg : BitVec 16) : ℕ :=
  if reg < 0x100 ∨ reg = 0x702 ∨ reg = 0x800 then 1
  else if reg < 0x200 then 2
  else if reg < 0x300 then 3
  else if reg < 0x400 then 4
  else 5

def txb (reg : BitVec 16) : List Byte := [adeRead, (reg >>> 8).setWidth 8, reg.setWidth 8]

def regValue (rxb : List Byte) : ℤ :=
  (BitVec.ofNat 32 (LittleEndian.value (rxb ++ List.replicate (4 - rxb.length) 0))).toInt

structure Chip where
  content : BitVec 16 → List Byte
  width (reg : BitVec 16) : getRegisterSizeByte reg < 5 →
    (content reg).length = getRegisterSizeByte reg

def Chip.answer (chip : Chip) : List Byte → List Byte
  | [op, hi, lo] => if op = adeRead then chip.content (hi ++ lo) else []
  | _ => []

def Uart.write (chip : Chip) (bytes : List Byte) (u : Uart) : Uart where
  channel := u.channel.send (chip.answer bytes)
  sent := u.sent ++ [bytes]

def Uart.deliver (n : ℕ) (u : Uart) : Uart := { u with channel := u.channel.deliver n }

def Uart.readable (u : Uart) : Bool := !u.channel.waiting.isEmpty

def Uart.read (n taken : ℕ) (u : Uart) : List Byte × Uart :=
  let r := u.channel.receive (min n taken)
  (r.1, { u with channel := r.2 })

def readLoop (chip : Chip) (reg : BitVec 16) : List Poll → Bool → Uart → Option (List Byte × Uart)
  | [], _, _ => none
  | p :: ps, lock, u =>
    let send := p.writable && !lock
    let u := if send then u.write chip (txb reg) else u
    let u := u.deliver p.arrived
    if u.readable then some (u.read (getRegisterSizeByte reg) p.taken)
    else readLoop chip reg ps (lock || send) u

def read (chip : Chip) (polls : List Poll) (reg : BitVec 16) (u : Uart) : Option (ℤ × Uart) :=
  if getRegisterSizeByte reg < 5 then
    (readLoop chip reg polls false u).map fun r => (regValue r.1, r.2)
  else some (0, u)

theorem getRegisterSizeByte_pos (reg : BitVec 16) : 0 < getRegisterSizeByte reg := by
  unfold getRegisterSizeByte
  split_ifs <;> decide

theorem address_eq (reg : BitVec 16) : (reg >>> 8).setWidth 8 ++ reg.setWidth 8 = reg := by
  ext i hi
  rw [BitVec.getElem_append]
  split
  case isTrue h => simp [BitVec.getElem_setWidth, BitVec.getLsbD_eq_getElem hi]
  case isFalse h =>
    have h8 : 8 + (i - 8) = i := by omega
    simp [BitVec.getElem_setWidth, h8, BitVec.getLsbD_eq_getElem hi]

theorem Chip.answer_txb (chip : Chip) (reg : BitVec 16) :
    chip.answer (txb reg) = chip.content reg := by
  rw [txb, answer, if_pos rfl, address_eq]

end ADE7953

end SlcNode
