import SlcNode.BsdiffFormat
import SlcNode.PatchApply

namespace SlcNode

open Bspatch

namespace Bsdiff

theorem offtin_offtout {n : ℕ} (h : n < 2 ^ 63) (rest : List Byte) :
    offtin (offtout n ++ rest) = n := by
  have hbytes : offtout n = LittleEndian.bytes 8 n := by
    rw [offtout, Int.natAbs_natCast, if_neg (by omega)]
  have htop : (BitVec.ofNat 8 (n / 256 / 256 / 256 / 256 / 256 / 256 / 256)).toNat < 128 := by
    rw [BitVec.toNat_ofNat]
    omega
  have hsign : ¬(BitVec.ofNat 8 (n / 256 / 256 / 256 / 256 / 256 / 256 / 256) &&& 0x80 ≠ 0) :=
    mt (VarInt.topBitOn_iff _).mp (not_le.mpr htop)
  have hlow : (BitVec.ofNat 8 (n / 256 / 256 / 256 / 256 / 256 / 256 / 256) &&& 0x7f).toNat = _ :=
    VarInt.toNat_topBitOff _
  rw [hbytes]
  simp only [offtin, LittleEndian.bytes, List.cons_append, List.foldl_cons, List.foldl_nil,
    List.getD_cons_zero, List.getD_cons_succ]
  rw [if_neg hsign, hlow, Nat.mod_eq_of_lt htop]
  simp only [BitVec.toNat_ofNat]
  omega

theorem length_offtout (n : ℕ) : (offtout n).length = 8 := by
  rw [offtout, if_neg (by omega), LittleEndian.bytes_length]

end Bsdiff

namespace Bspatch

open Bsdiff

theorem toNat_ofInt_of_lt {n : ℕ} (h : n < 2 ^ 32) : (BitVec.ofInt 32 (n : ℤ)).toNat = n := by
  rw [BitVec.ofInt_natCast, BitVec.toNat_ofNat]
  exact Nat.mod_eq_of_lt h

theorem readInitialHeader_of {s : BspatchStream} {n size k : ℕ} (hn : n < 2 ^ 32)
    (hmin : 64 ≤ size) (hmax : size ≤ 512)
    (hs : s.header = fileMagic ++ (offtout n ++ (offtout size ++ offtout k))) :
    readInitialHeader s = (.operationDoneImmediately, { s with
      newSize := BitVec.ofInt 32 n
      maxCompressedDataBuffer := BitVec.ofInt 32 size
      maxDeCompressBuffer := BitVec.ofInt 32 size }) := by
  have hmagic : s.header.take fileMagic.length = fileMagic := by rw [hs, List.take_left]
  have hnew : offtin (s.header.drop fileMagic.length) = n := by
    rw [hs, List.drop_left, offtin_offtout (by omega)]
  have hsize : offtin (s.header.drop (fileMagic.length + 8)) = size := by
    rw [hs, ← List.drop_drop, List.drop_left, ← length_offtout n, List.drop_left,
      offtin_offtout (by omega)]
  have hsize' := toNat_ofInt_of_lt (by omega : size < 2 ^ 32)
  have hordered : ¬(BitVec.ofInt 32 (size : ℤ) > BitVec.ofInt 32 (size : ℤ) ∨
      BitVec.ofInt 32 (size : ℤ) < 64 ∨ BitVec.ofInt 32 (size : ℤ) < 1) := by
    rw [gt_iff_lt, BitVec.lt_def, BitVec.lt_def, BitVec.lt_def, hsize']
    change ¬(size < size ∨ size < 64 ∨ size < 1)
    omega
  unfold readInitialHeader
  rw [if_neg (not_not_intro hmagic)]
  dsimp only
  rw [hnew, hsize, if_neg (by unfold uint32Max; omega), if_neg (by unfold uint32Max; omega),
    if_neg (by unfold uint32Max; omega)]
  exact if_neg hordered

theorem allocWorkingBuffers_of {s : BspatchStream} {size : ℕ} (hmax : size ≤ 512)
    (hc : s.maxCompressedDataBuffer.toNat = size) (hm : s.maxDeCompressBuffer.toNat = size) :
    allocWorkingBuffers s = .operationDoneImmediately := by
  rw [allocWorkingBuffers_of_sizes s (BitVec.eq_of_toNat_eq (hc.trans hm.symm))]
  refine if_neg ?_
  rw [BitVec.lt_def, BitVec.toNat_add, hc, hm]
  change ¬1024 < (size + size) % 2 ^ 32
  omega

theorem yields_allocWorkingBuffer {lz : Lz4} {target : List Byte} {s : BspatchStream}
    {f : PatchFiles} {size : ℕ} (hmax : size ≤ 512) (hs : s.nextState = .allocWorkingBuffer)
    (hd : isPatchingDone s = false) (hc : s.maxCompressedDataBuffer.toNat = size)
    (hm : s.maxDeCompressBuffer.toNat = size)
    (h : Yields lz target (setNextState .readControlSegmentHeader s) f) : Yields lz target s f :=
  yields_internal hs (fun _ => by simp only [onState, allocWorkingBuffers_of hmax hc hm]) hd h

theorem yields_initialHeader {lz : Lz4} {target : List Byte} {s : BspatchStream} {f : PatchFiles}
    {n size k : ℕ} (hn : n < 2 ^ 32) (hmin : 64 ≤ size) (hmax : size ≤ 512)
    (hs : s.nextState = .initialPatchReadDone) (hd : isPatchingDone s = false)
    (hh : s.header = fileMagic ++ (offtout n ++ (offtout size ++ offtout k)))
    (hpos : s.newpos < n)
    (h : Yields lz target { s with
      newSize := BitVec.ofInt 32 n
      maxCompressedDataBuffer := BitVec.ofInt 32 size
      maxDeCompressBuffer := BitVec.ofInt 32 size
      nextState := .readControlSegmentHeader } f) : Yields lz target s f := by
  have hsize := toNat_ofInt_of_lt (by omega : size < 2 ^ 32)
  refine yields_internal hs (fun _ => by simp only [onState, readInitialHeader_of hn hmin hmax hh]) hd
    (t := setNextState .allocWorkingBuffer { s with
      newSize := BitVec.ofInt 32 n
      maxCompressedDataBuffer := BitVec.ofInt 32 size
      maxDeCompressBuffer := BitVec.ofInt 32 size }) ?_
  refine yields_allocWorkingBuffer hmax rfl ?_ hsize hsize h
  rw [isPatchingDone, Bool.and_eq_false_iff, decide_eq_false_iff_not, decide_eq_false_iff_not]
  refine .inr ?_
  change ¬s.newpos ≥ ((BitVec.ofInt 32 (n : ℤ)).toNat : ℤ)
  rw [toNat_ofInt_of_lt hn]
  omega

theorem patch_describes {lz : Lz4} (mem : BsMemoryBuffer) {size k : ℕ} {old body new : List Byte}
    (hdesc : Describes lz size old 0 body new) (hne : new ≠ []) (hlen : new.length < 2 ^ 32)
    (hmin : 64 ≤ size) (hmax : size ≤ 512) :
    Yields lz new { init mem with expectedExternalEvent := none }
      ⟨fileMagic ++ (offtout new.length ++ (offtout size ++ (offtout k ++ body))), old, 0, []⟩ := by
  have hpos : 0 < new.length := List.length_pos_iff.mpr hne
  have hsize := toNat_ofInt_of_lt (by omega : size < 2 ^ 32)
  have hnew := toNat_ofInt_of_lt hlen
  have hp : fileMagic ++ (offtout new.length ++ (offtout size ++ (offtout k ++ body))) =
      (fileMagic ++ (offtout new.length ++ (offtout size ++ offtout k))) ++ body := by
    simp only [List.append_assoc]
  have hn : (fileMagic ++ (offtout new.length ++ (offtout size ++ offtout k))).length =
      fileHeaderLen := by
    simp only [List.length_append, length_offtout]
    rfl
  refine yields_readPatch rfl (fun _ => rfl) rfl hp hn ?_ (t := { init mem with
    expectedExternalEvent := none })
  refine yields_initialHeader hlen hmin hmax rfl rfl rfl (Int.natCast_pos.mpr hpos) ?_
  refine yields_describes hdesc rfl rfl hsize hsize rfl rfl rfl ⟨fun h => ?_, ?_, rfl⟩
  · have hzero : (BitVec.ofInt 32 (new.length : ℤ)).toNat = 0 := congrArg BitVec.toNat h
    omega
  · exact (zero_add _).trans (congrArg Nat.cast hnew.symm)

end Bspatch

namespace DeltaUpdate

open Bsdiff

theorem literals_faithful : Lz4.literals.Faithful where
  takes := by
    intro src size hne _
    have hpos : 0 < src.length := List.length_pos_iff.mpr hne
    change 0 < min src.length 14 ∧ min src.length 14 ≤ src.length
    omega
  writes := by
    intro src size _ hsize
    change 0 < (src.take (min src.length 14)).length + 1 ∧
      (src.take (min src.length 14)).length + 1 ≤ size
    rw [List.length_take]
    omega
  restores := by
    intro src size n _ _ hn
    change min src.length 14 ≤ n at hn
    refine if_pos ?_
    rw [List.length_take, BitVec.toNat_ofNat]
    omega

def shortUpdate : BsdiffRequest := ⟨[1, 2], [1, 3, 4], fun k => [2, 0, 1].getD k 0⟩

end DeltaUpdate

end SlcNode
