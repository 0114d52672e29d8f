import SlcNode.Event

namespace SlcNode

namespace Threshold

def file : Threshold → String
  | .voltageHigh => DataStore.voltageThresholdH
  | .voltageLow => DataStore.voltageThresholdL
  | .currentHigh => DataStore.currentThresholdH
  | .currentLow => DataStore.currentThresholdL
  | .freqHigh => DataStore.freqThresholdH
  | .freqLow => DataStore.freqThresholdL
  | .pfHigh => DataStore.pfThresholdH
  | .pfLow => DataStore.pfThresholdL
  | .wattHigh => DataStore.wattThresholdH
  | .wattLow => DataStore.wattThresholdL
  | .luxHigh => DataStore.luxThresholdH
  | .luxLow => DataStore.luxThresholdL

def isLux : Threshold → Bool
  | .luxHigh | .luxLow => true
  | _ => false

def invalid (t : Threshold) : BitVec 32 :=
  if t.isLux then State.defaultLuxInvalid else State.defaultThresholdInvalid

def Same (t : Threshold) (x y : BitVec 32) : Prop :=
  x = y ∨ t.isLux = false ∧ Binary32.eq x y = true

instance (t : Threshold) (x y : BitVec 32) : Decidable (t.Same x y) :=
  inferInstanceAs (Decidable (_ ∨ _))

theorem same_refl (t : Threshold) (x : BitVec 32) : t.Same x x := Or.inl rfl

theorem Same.symm {t : Threshold} {x y : BitVec 32} (h : t.Same x y) : t.Same y x := by
  rcases h with rfl | ⟨ht, h⟩
  · exact Or.inl rfl
  · exact Or.inr ⟨ht, Binary32.eq_symm h⟩

theorem Same.trans {t : Threshold} {x y z : BitVec 32} (h : t.Same x y) (k : t.Same y z) :
    t.Same x z := by
  rcases h with rfl | ⟨ht, h⟩
  · exact k
  · rcases k with rfl | ⟨-, k⟩
    · exact Or.inr ⟨ht, h⟩
    · exact Or.inr ⟨ht, Binary32.eq_trans h k⟩

def restored (files : Files) (t : Threshold) : BitVec 32 :=
  let r := DataStore.readFile files t.file 4
  if r.ret ≤ 0 then t.invalid else BitVec.ofNat 32 (LittleEndian.value r.buff)

theorem restored_congr {files files' : Files} {t : Threshold}
    (h : files t.file = files' t.file) : restored files t = restored files' t := by
  rw [restored, restored, DataStore.readFile_congr h]

theorem restored_of_file {files : Files} {t : Threshold} {v : BitVec 32}
    (h : files t.file = some (LittleEndian.bytes 4 v.toNat)) : restored files t = v := by
  rw [restored, DataStore.readFile_of_length h (LittleEndian.bytes_length 4 _)]
  have hpos : ¬((4 : ℕ) : ℤ) ≤ 0 := by decide
  dsimp only
  rw [if_neg hpos, LittleEndian.value_bytes_of_lt v.isLt, BitVec.ofNat_toNat, BitVec.setWidth_eq]

theorem restored_writeFile (files : Files) (t : Threshold) (file : String) (v : BitVec 32) :
    restored (DataStore.writeFile files file (LittleEndian.bytes 4 v.toNat)) t =
      if t.file = file then v else restored files t := by
  split
  case isTrue h => exact restored_of_file (by rw [h, DataStore.writeFile_self])
  case isFalse h => exact restored_congr (DataStore.writeFile_of_ne _ _ h)

end Threshold

namespace ThresholdPut

def target : ThresholdPut → Threshold
  | .volatgeHigh _ => .voltageHigh
  | .volatgeLow _ => .voltageLow
  | .currentHigh _ => .currentHigh
  | .currentLow _ => .currentLow
  | .freqHigh _ => .freqHigh
  | .freqLow _ => .freqLow
  | .pfHigh _ => .pfHigh
  | .pfLow _ => .pfLow
  | .wattHigh _ => .wattHigh
  | .wattLow _ => .wattLow
  | .luxHigh _ => .luxHigh
  | .luxLow _ => .luxLow

def value : ThresholdPut → BitVec 32
  | .volatgeHigh v | .volatgeLow v | .currentHigh v | .currentLow v | .freqHigh v | .freqLow v
  | .pfHigh v | .pfLow v | .wattHigh v | .wattLow v => v
  | .luxHigh v | .luxLow v => BitVec.ofInt 32 v

def Valid : ThresholdPut → Prop
  | .volatgeHigh v | .volatgeLow v | .currentHigh v | .currentLow v | .freqHigh v | .freqLow v
  | .pfHigh v | .pfLow v | .wattHigh v | .wattLow v => v.isNaN = false
  | .luxHigh v | .luxLow v => 0 ≤ v ∧ v < 2 ^ 32

def file : ThresholdPut → String
  | .pfHigh _ => DataStore.pfThresholdL
  | .pfLow _ => DataStore.pfThresholdH
  | p => p.target.file

end ThresholdPut

end SlcNode
