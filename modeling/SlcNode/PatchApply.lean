import SlcNode.PatchFormat
import SlcNode.PatchSchedule

namespace SlcNode.Bspatch

structure Registers where
  varIntLen : ℕ
  totalUndeCompressBuffer : ℕ
  newpos : ℤ
  diffStrLenX : ℤ
  extraStrLenY : ℤ
  oldFileCtrlOffSetJump : ℤ
  newSize : BitVec 32
  maxCompressedDataBuffer : BitVec 32
  maxDeCompressBuffer : BitVec 32

def registers (s : BspatchStream) : Registers where
  varIntLen := s.varIntLen
  totalUndeCompressBuffer := s.totalUndeCompressBuffer
  newpos := s.newpos
  diffStrLenX := s.diffStrLenX
  extraStrLenY := s.extraStrLenY
  oldFileCtrlOffSetJump := s.oldFileCtrlOffSetJump
  newSize := s.newSize
  maxCompressedDataBuffer := s.maxCompressedDataBuffer
  maxDeCompressBuffer := s.maxDeCompressBuffer

theorem isPatchingDone_of_registers {s s' : BspatchStream} (h : registers s' = registers s) :
    isPatchingDone s' = isPatchingDone s := by
  have hn : s'.newSize = s.newSize := congrArg Registers.newSize h
  have hp : s'.newpos = s.newpos := congrArg Registers.newpos h
  rw [isPatchingDone, isPatchingDone, hn, hp]

def Yields (lz : Lz4) (target : List Byte) (s : BspatchStream) (f : PatchFiles) : Prop :=
  if isPatchingDone s then f.new = target
  else ∃ r, Comes lz s f .patchDone r ∧ r.new = target

section Rules

variable {lz : Lz4} {target : List Byte} {s : BspatchStream} {f : PatchFiles}
  {st next : BsPatchState}

theorem yields_of_turn {t : Turn} (hd : isPatchingDone s = false)
    (ht : t.Of fun cs => iterate lz ⟨s, f, cs⟩) (hst : t.status = .operationDoneImmediately)
    (h : Yields lz target t.stream t.files) : Yields lz target s f := by
  rw [Yields, hd, if_neg Bool.false_ne_true]
  unfold Yields at h
  cases hdone : isPatchingDone t.stream with
  | true =>
    rw [hdone, if_pos rfl] at h
    exact ⟨t.files, .done ht hdone, h⟩
  | false =>
    rw [hdone, if_neg Bool.false_ne_true] at h
    obtain ⟨r, hr, hnew⟩ := h
    exact ⟨r, .goes ht hdone hst hr, hnew⟩

theorem yields_internal {t : BspatchStream} (hs : s.nextState = st)
    (hit : ∀ cs, onState lz st ⟨s, f, cs⟩ = (.operationDoneImmediately, ⟨t, f, cs⟩))
    (hd : isPatchingDone s = false) (h : Yields lz target t f) : Yields lz target s f := by
  have ht : Turn.Of (.goes .operationDoneImmediately t f) fun cs => iterate lz ⟨s, f, cs⟩ := by
    simp only [iterate, hs, hit]
    exact turn_internal t f rfl
  exact yields_of_turn hd ht rfl h

theorem yields_readPatch {t : BspatchStream} {n : ℕ}
    {store : List Byte → BspatchStream → BspatchStream} {data rest : List Byte}
    (hs : s.nextState = st)
    (hit : ∀ cs, onState lz st ⟨s, f, cs⟩ = readPatch n store next ⟨t, f, cs⟩)
    (hd : isPatchingDone s = false) (hp : f.patch = data ++ rest) (hn : data.length = n)
    (h : Yields lz target
      { store data t with nextState := next, expectedExternalEvent := none }
      { f with patch := rest }) : Yields lz target s f := by
  have hle : n ≤ f.patch.length := by
    rw [hp, List.length_append]
    omega
  have ht := turn_readPatch t f next store hle
  simp only [← hit, ← hs] at ht
  refine yields_of_turn hd ht rfl ?_
  rw [hp, ← hn, List.take_left, List.drop_left]
  exact h

theorem yields_readOld {t : BspatchStream} {n : ℕ} (hs : s.nextState = st)
    (hit : ∀ cs, onState lz st ⟨s, f, cs⟩ = readOld n next ⟨t, f, cs⟩)
    (hd : isPatchingDone s = false) (hpos : 0 ≤ f.oldPos) (hle : f.oldPos + n ≤ f.old.length)
    (h : Yields lz target
      { t with
        bufferForCompressedData := (f.old.drop f.oldPos.toNat).take n
        nextState := next
        expectedExternalEvent := none }
      { f with oldPos := f.oldPos + n }) : Yields lz target s f := by
  have ht := turn_readOld t f next ⟨hpos, hle⟩
  simp only [← hit, ← hs] at ht
  exact yields_of_turn hd ht rfl h

theorem yields_seekOld {t : BspatchStream} {diff : ℤ} (hs : s.nextState = st)
    (hit : ∀ cs, onState lz st ⟨s, f, cs⟩ = seekOld diff next ⟨t, f, cs⟩)
    (hd : isPatchingDone s = false)
    (h : Yields lz target { t with nextState := next, expectedExternalEvent := none }
      { f with oldPos := f.oldPos + diff }) : Yields lz target s f := by
  have ht := turn_seekOld t f next diff
  simp only [← hit, ← hs] at ht
  exact yields_of_turn hd ht rfl h

theorem yields_writeNew {t : BspatchStream} {buffer : List Byte} (hs : s.nextState = st)
    (hit : ∀ cs, onState lz st ⟨s, f, cs⟩ = writeNew buffer next ⟨t, f, cs⟩)
    (hd : isPatchingDone s = false)
    (h : Yields lz target { t with nextState := next, expectedExternalEvent := none }
      { f with new := f.new ++ buffer }) : Yields lz target s f := by
  have ht := turn_writeNew t f next buffer
  simp only [← hit, ← hs] at ht
  exact yields_of_turn hd ht rfl h

end Rules

def soFar (s : BspatchStream) : BitVec 64 := if s.varIntLen = 0 then 0 else s.varInt

def signedValue (x : BitVec 64) : BitVec 64 :=
  if x &&& 1 ≠ 0 then x.sshiftRight 1 * -1 else x.sshiftRight 1

theorem readVarInt_more {s : BspatchStream} {b : Byte} (hb : s.nonCompressedDataBuffer = [b])
    (hlen : s.varIntLen < 7) (hmore : Base128.More b) (isSigned : Bool) :
    readVarIntEventified isSigned s = (.operationDoneImmediately, { s with
      varInt := (VarInt.decodeByte b s.varInt s.varIntLen).2
      varIntLen := s.varIntLen + 1
      nextState := .readVarintPiece }) := by
  have hcode := VarInt.decodeByte_code (b := b) s.varInt (by omega : s.varIntLen ≤ 9)
  rw [if_pos hmore] at hcode
  have hlt : ¬s.varIntLen + 1 ≥ 8 := by omega
  rcases hdec : VarInt.decodeByte b s.varInt s.varIntLen with ⟨code, x⟩
  rw [hdec] at hcode
  subst hcode
  cases isSigned <;>
    simp [readVarIntEventified, hb, VarInt.decodeSignedVarint, VarInt.decodeUnsignedVarint, hdec,
      hlt]

theorem readVarInt_last {s : BspatchStream} {b : Byte} (hb : s.nonCompressedDataBuffer = [b])
    (hlen : s.varIntLen < 7) (hmore : ¬Base128.More b) (isSigned : Bool) :
    readVarIntEventified isSigned s = (.operationDoneImmediately, { s with
      varInt :=
        if isSigned then signedValue (VarInt.decodeByte b s.varInt s.varIntLen).2
        else (VarInt.decodeByte b s.varInt s.varIntLen).2
      varIntLen := 0
      nextState := s.stateAfterReadVarInt
      stateAfterReadVarInt := .zero }) := by
  have hcode := VarInt.decodeByte_code (b := b) s.varInt (by omega : s.varIntLen ≤ 9)
  rw [if_neg hmore] at hcode
  have hlt : ¬s.varIntLen + 1 ≥ 8 := by omega
  rcases hdec : VarInt.decodeByte b s.varInt s.varIntLen with ⟨code, x⟩
  rw [hdec] at hcode
  subst hcode
  cases isSigned <;>
    simp [readVarIntEventified, hb, VarInt.decodeSignedVarint, VarInt.decodeUnsignedVarint, hdec,
      hlt, signedValue]

section Parts

variable {lz : Lz4} {target : List Byte}

theorem yields_processVarint {s s' : BspatchStream} {f : PatchFiles}
    (hs : s.nextState = .processVarintPiece)
    (hv : readVarIntEventified s.isSignedVarInt s = (.operationDoneImmediately, s'))
    (hd : isPatchingDone s = false) (h : Yields lz target s' f) : Yields lz target s f :=
  yields_internal hs (fun cs => by simp only [onState, hv]) hd h

def byteRead (b : Byte) (s : BspatchStream) : BspatchStream :=
  { toNonCompressed [b] s with nextState := .processVarintPiece, expectedExternalEvent := none }

theorem yields_readVarInt {bs : List Byte} (hb : Base128.Whole bs) {s t : BspatchStream}
    {f : PatchFiles} {st : BsPatchState} {rest : List Byte} (hs : s.nextState = st)
    (hit : ∀ cs, onState lz st ⟨s, f, cs⟩ =
      readPatch 1 toNonCompressed .processVarintPiece ⟨t, f, cs⟩)
    (hd : isPatchingDone s = false) (hdt : isPatchingDone t = false)
    (hp : f.patch = bs ++ rest) (hlen : t.varIntLen + bs.length ≤ 7)
    (hsofar : (soFar t).toNat < 128 ^ t.varIntLen)
    (h : ∀ s', s'.nextState = t.stateAfterReadVarInt →
      registers s' = { registers t with varIntLen := 0 } →
      (∃ x : BitVec 64, x.toNat = (soFar t).toNat + 128 ^ t.varIntLen * Base128.value bs ∧
        s'.varInt = if t.isSignedVarInt then signedValue x else x) →
      Yields lz target s' { f with patch := rest }) : Yields lz target s f := by
  induction hb generalizing s t f st with
  | @last b hlast =>
    have hlt : t.varIntLen < 7 := by
      rw [List.length_singleton] at hlen
      omega
    have hdec := VarInt.toNat_decodeByte (b := b) (by omega : t.varIntLen ≤ 8) hsofar
    have hvalue : Base128.value [b] = b.toNat % 128 := by simp [Base128.value]
    refine yields_readPatch hs hit hd hp rfl ?_
    have hlast := readVarInt_last (s := byteRead b t) rfl hlt hlast t.isSignedVarInt
    exact yields_processVarint rfl hlast hdt (h _ rfl rfl ⟨_, by rw [hvalue]; exact hdec, rfl⟩)
  | @more b bs hmore hrest ih =>
    have hlt : t.varIntLen + 1 + bs.length ≤ 7 := by
      rw [List.length_cons] at hlen
      omega
    have hdec := VarInt.toNat_decodeByte (b := b) (by omega : t.varIntLen ≤ 8) hsofar
    have hsplit : f.patch = [b] ++ (bs ++ rest) := hp
    refine yields_readPatch hs hit hd hsplit rfl ?_
    have hmore' := readVarInt_more (s := byteRead b t) rfl (by omega : t.varIntLen < 7) hmore
      t.isSignedVarInt
    have hnext := VarInt.decodeByte_lt (b := b) (by omega : t.varIntLen ≤ 7) hsofar
    refine yields_processVarint rfl hmore' hdt ?_
    refine ih rfl (fun _ => rfl) hdt hdt rfl hlt ?_ fun s' hst hreg hvalue => ?_
    · rw [soFar, if_neg (Nat.succ_ne_zero _)]
      exact hnext
    · obtain ⟨x, hx, hv⟩ := hvalue
      rw [soFar, if_neg (Nat.succ_ne_zero _)] at hx
      refine h s' hst hreg ⟨x, hx.trans ?_, hv⟩
      rw [Base128.value, Nat.mul_add, ← Nat.add_assoc, ← Nat.mul_assoc, ← pow_succ]
      exact congrArg (· + _) hdec

variable {s t : BspatchStream} {f : PatchFiles} {st : BsPatchState} {bs rest : List Byte} {n : ℕ}

theorem yields_numeral (hb : Numeral bs n) (hs : s.nextState = st)
    (hit : ∀ cs, onState lz st ⟨s, f, cs⟩ =
      readPatch 1 toNonCompressed .processVarintPiece ⟨t, f, cs⟩)
    (hd : isPatchingDone s = false) (hdt : isPatchingDone t = false)
    (hp : f.patch = bs ++ rest) (h0 : t.varIntLen = 0)
    (h : ∀ s', s'.nextState = t.stateAfterReadVarInt → registers s' = registers t →
      (∃ x : BitVec 64, x.toNat = n ∧ s'.varInt = if t.isSignedVarInt then signedValue x else x) →
      Yields lz target s' { f with patch := rest }) : Yields lz target s f := by
  have hsofar : soFar t = 0 := if_pos h0
  refine yields_readVarInt hb.whole hs hit hd hdt hp ?_ ?_ fun s' hst hreg ⟨x, hx, hv⟩ => ?_
  · rw [h0, Nat.zero_add]
    exact hb.length_le
  · rw [hsofar, h0]
    exact Nat.one_pos
  · have hreg1 : registers s' = registers t := by
      rw [hreg]
      simp only [registers, h0]
    rw [hsofar, h0, pow_zero, one_mul, hb.value] at hx
    exact h s' hst hreg1 ⟨x, hx.trans (Nat.zero_add n), hv⟩

theorem numeral_lt (hb : Numeral bs n) : n < 2 ^ 49 :=
  calc n = Base128.value bs := hb.value.symm
    _ < 128 ^ bs.length := Base128.value_lt bs
    _ ≤ 128 ^ 7 := Nat.pow_le_pow_right (by decide) hb.length_le
    _ = 2 ^ 49 := by decide

theorem yields_unsigned (hb : Numeral bs n) (hs : s.nextState = st)
    (hit : ∀ cs, onState lz st ⟨s, f, cs⟩ =
      readPatch 1 toNonCompressed .processVarintPiece ⟨t, f, cs⟩)
    (hd : isPatchingDone s = false) (hdt : isPatchingDone t = false)
    (hp : f.patch = bs ++ rest) (h0 : t.varIntLen = 0) (hsign : t.isSignedVarInt = false)
    (h : ∀ s', s'.nextState = t.stateAfterReadVarInt → registers s' = registers t →
      s'.varInt.toNat = n → s'.varInt.toInt = n → Yields lz target s' { f with patch := rest }) :
    Yields lz target s f := by
  refine yields_numeral hb hs hit hd hdt hp h0 fun s' hst hreg ⟨x, hx, hv⟩ => ?_
  have hlt := numeral_lt hb
  rw [hsign, if_neg Bool.false_ne_true] at hv
  have hn : s'.varInt.toNat = n := (congrArg BitVec.toNat hv).trans hx
  exact h s' hst hreg hn (by rw [VarInt.toInt_of_lt (by omega), hn])

theorem yields_signed {v : ℤ} (hb : Numeral bs (VarInt.zigzag v)) (hs : s.nextState = st)
    (hit : ∀ cs, onState lz st ⟨s, f, cs⟩ =
      readPatch 1 toNonCompressed .processVarintPiece ⟨t, f, cs⟩)
    (hd : isPatchingDone s = false) (hdt : isPatchingDone t = false)
    (hp : f.patch = bs ++ rest) (h0 : t.varIntLen = 0) (hsign : t.isSignedVarInt = true)
    (h : ∀ s', s'.nextState = t.stateAfterReadVarInt → registers s' = registers t →
      s'.varInt.toInt = v → Yields lz target s' { f with patch := rest }) :
    Yields lz target s f := by
  refine yields_numeral hb hs hit hd hdt hp h0 fun s' hst hreg ⟨x, hx, hv⟩ => h s' hst hreg ?_
  have hlt := numeral_lt hb
  rw [hsign, if_pos rfl] at hv
  rw [hv]
  exact VarInt.unzigzag (by omega) hx

variable {size : ℕ}

theorem yields_control (g : Segment lz size) (hs : s.nextState = .readControlSegmentHeader)
    (hd : isPatchingDone s = false) (h0 : s.varIntLen = 0)
    (hp : f.patch = g.diffLen ++ (g.extraLen ++ (g.jumpBytes ++ rest)))
    (h : ∀ s', s'.nextState = .readDataSegment →
      registers s' = { registers s with
        diffStrLenX := g.diff.length, extraStrLenY := g.extra.length } →
      s'.varInt.toInt = g.jump → Yields lz target s' { f with patch := rest }) :
    Yields lz target s f := by
  refine yields_internal (t := setNextState .readControlSegment s) hs (fun _ => rfl) hd ?_
  refine yields_internal (t := setNextState .readCtrlDiffStrLen s) rfl (fun _ => rfl) hd ?_
  refine yields_unsigned g.diffLen_numeral rfl (fun _ => rfl)
    (t := { s with
      nextState := .readCtrlDiffStrLen
      stateAfterReadVarInt := .readCtrlExtraStrLenY
      isSignedVarInt := false })
    hd hd hp h0 rfl fun s1 hs1 hreg1 _ hx => ?_
  have hd1 : isPatchingDone s1 = false := (isPatchingDone_of_registers hreg1).trans hd
  have h01 : s1.varIntLen = 0 := (congrArg Registers.varIntLen hreg1).trans h0
  refine yields_unsigned g.extraLen_numeral hs1 (fun _ => rfl)
    (t := { s1 with
      diffStrLenX := s1.varInt.toInt
      stateAfterReadVarInt := .readCtrlOldFileCtrlOffSetJump
      isSignedVarInt := false })
    hd1 hd1 rfl h01 rfl fun s2 hs2 hreg2 _ hy => ?_
  have hd2 : isPatchingDone s2 = false := (isPatchingDone_of_registers hreg2).trans hd1
  have h02 : s2.varIntLen = 0 := (congrArg Registers.varIntLen hreg2).trans h01
  refine yields_signed g.jump_numeral hs2 (fun _ => rfl)
    (t := { s2 with
      extraStrLenY := s2.varInt.toInt
      stateAfterReadVarInt := .readDataSegment
      isSignedVarInt := true })
    hd2 hd2 rfl h02 rfl fun s3 hs3 hreg3 hz => h s3 hs3 ?_ hz
  have hreg2' : registers s2 = { registers s with diffStrLenX := g.diff.length } := by
    rw [hreg2, ← hx, ← show registers s1 = registers s from hreg1]
    rfl
  rw [hreg3, ← hy]
  exact congrArg (fun r => { r with extraStrLenY := s2.varInt.toInt }) hreg2'

theorem yields_frame {next : BsPatchState} {len body : List Byte} (hb : Numeral len body.length)
    (hit : ∀ s f cs, onState lz st ⟨s, f, cs⟩ = readDeCompressBuffer next ⟨s, f, cs⟩)
    (hs : s.nextState = .readFrameLen) (hst : s.stateAfterReadVarInt = st)
    (hd : isPatchingDone s = false) (h0 : s.varIntLen = 0)
    (hsize : body.length ≤ s.maxDeCompressBuffer.toNat) (hp : f.patch = len ++ (body ++ rest))
    (h : ∀ s', s'.nextState = next → registers s' = registers s →
      s'.bufferForCompressedData = body → Yields lz target s' { f with patch := rest }) :
    Yields lz target s f := by
  refine yields_unsigned hb hs (fun _ => rfl) (t := { s with isSignedVarInt := false })
    hd hd hp h0 rfl fun s1 hs1 hreg1 hn hx => ?_
  have hd1 : isPatchingDone s1 = false := (isPatchingDone_of_registers hreg1).trans hd
  have hmax : s1.maxDeCompressBuffer = s.maxDeCompressBuffer :=
    congrArg Registers.maxDeCompressBuffer hreg1
  have hfits : ¬s1.varInt.toInt > s1.maxDeCompressBuffer.toNat := by
    rw [hx, hmax]
    omega
  have hread : ∀ cs, onState lz st ⟨s1, { f with patch := body ++ rest }, cs⟩ =
      readPatch s1.varInt.toNat toCompressed next
        ⟨{ s1 with frameLen := s1.varInt }, { f with patch := body ++ rest }, cs⟩ := by
    intro cs
    rw [hit, readDeCompressBuffer]
    dsimp only
    rw [if_neg hfits]
  exact yields_readPatch (hs1.trans hst) hread hd1 rfl hn.symm (h _ rfl hreg1 rfl)

theorem decompressed {text body : List Byte} (hbuf : s.bufferForCompressedData = body)
    (hsize : s.maxCompressedDataBuffer.toNat = size)
    (htext : lz.decompressSafe body size = some text) (hne : text ≠ []) :
    readDeCompressBufferProcess lz s = (.operationDoneImmediately,
      { s with nonCompressedDataBuffer := text, undeCompressBufferLen := text.length }) := by
  rw [readDeCompressBufferProcess, hbuf, hsize, htext]
  dsimp only
  rw [if_pos (List.length_pos_iff.mpr hne)]

theorem addOld_eq {old text : List Byte} {pos : ℤ} (hpos : 0 ≤ pos)
    (hle : pos + text.length ≤ old.length)
    (hold : s.bufferForCompressedData = (old.drop pos.toNat).take text.length)
    (htext : s.nonCompressedDataBuffer = text) (hi : s.i = 0)
    (hn : s.readRequestSize = text.length) : addOld s = applied old pos text := by
  have hlen : pos.toNat + text.length ≤ old.length := by omega
  rw [addOld, applied, hold, htext, hi, hn]
  apply List.ext_getElem
  · simp only [List.length_map, List.length_range, List.length_zipWith, List.length_drop]
    omega
  · intro k hk hk'
    simp only [List.length_map, List.length_range] at hk
    have hd : pos.toNat + k < old.length := by omega
    simp [hk, hd]

theorem onState_readOld {cs : Stream' Completion} (hi : s.i < s.undeCompressBufferLen)
    (hm : s.undeCompressBufferLen - s.i ≤ s.maxDeCompressBuffer.toNat) :
    onState lz .processSinglePieceContinue2 ⟨s, f, cs⟩ =
      readOld (s.undeCompressBufferLen - s.i) .writePart
        ⟨{ s with readRequestSize := s.undeCompressBufferLen - s.i }, f, cs⟩ := by
  have hsize : (if s.maxDeCompressBuffer.toNat ≤ s.undeCompressBufferLen - s.i then
      s.maxDeCompressBuffer.toNat else s.undeCompressBufferLen - s.i) =
        s.undeCompressBufferLen - s.i := by
    split <;> omega
  rw [onState]
  dsimp only
  rw [if_pos hi, hsize]

theorem yields_writePart {newBytes : List Byte} (hs : s.nextState = .writePart)
    (hnew : addOld s = newBytes) (hd : isPatchingDone s = false)
    (h : Yields lz target
      { s with
        bufferForCompressedData := newBytes
        i := s.i + s.readRequestSize
        nextState := .processSinglePieceContinue2
        expectedExternalEvent := none }
      { f with new := f.new ++ newBytes }) : Yields lz target s f := by
  subst hnew
  exact yields_writeNew hs (fun _ => rfl) hd h
    (t := { s with bufferForCompressedData := addOld s, i := s.i + s.readRequestSize })

theorem yields_postActions (hs : s.nextState = .processSinglePieceContinue2)
    (hi : ¬s.i < s.undeCompressBufferLen) (hd : isPatchingDone s = false)
    (h : Yields lz target (setNextState .postActions s) f) : Yields lz target s f :=
  yields_internal hs (fun _ => by simp only [onState, if_neg hi]) hd h

theorem yields_addOld {text : List Byte} (hs : s.nextState = .processSinglePieceContinue2)
    (hi : s.i = 0) (hu : s.undeCompressBufferLen = text.length)
    (htext : s.nonCompressedDataBuffer = text) (hne : text ≠ [])
    (hm : text.length ≤ s.maxDeCompressBuffer.toNat) (hd : isPatchingDone s = false)
    (hpos : 0 ≤ f.oldPos) (hold : f.oldPos + text.length ≤ f.old.length)
    (h : ∀ s', s'.nextState = .postActions → registers s' = registers s →
      s'.undeCompressBufferLen = text.length → Yields lz target s'
        { f with
          oldPos := f.oldPos + text.length
          new := f.new ++ applied f.old f.oldPos text }) : Yields lz target s f := by
  have hsize : s.undeCompressBufferLen - s.i = text.length := by
    rw [hi, hu, Nat.sub_zero]
  have hlt : s.i < s.undeCompressBufferLen := by
    rw [hi, hu]
    exact List.length_pos_iff.mpr hne
  refine yields_readOld hs (fun _ => onState_readOld hlt (hsize.trans_le hm)) hd hpos
    (hsize ▸ hold) ?_
  rw [hsize]
  refine yields_writePart rfl (addOld_eq hpos hold rfl htext hi rfl) hd ?_
  refine yields_postActions rfl ?_ hd (h _ rfl rfl hu)
  change ¬s.i + text.length < s.undeCompressBufferLen
  rw [hi, hu, Nat.zero_add]
  exact lt_irrefl _

theorem yields_piece {len body text : List Byte} (hb : Numeral len body.length)
    (hfits : body.length ≤ size) (htext : lz.decompressSafe body size = some text)
    (hne : text ≠ []) (hle : text.length ≤ size) (hs : s.nextState = .readHeaderPiece)
    (hd : isPatchingDone s = false) (h0 : s.varIntLen = 0)
    (hc : s.maxCompressedDataBuffer.toNat = size) (hm : s.maxDeCompressBuffer.toNat = size)
    (hp : f.patch = len ++ (body ++ rest)) (hpos : 0 ≤ f.oldPos)
    (hold : f.oldPos + text.length ≤ f.old.length)
    (h : ∀ s', s'.nextState = .postActions → registers s' = registers s →
      s'.undeCompressBufferLen = text.length → Yields lz target s'
        ⟨rest, f.old, f.oldPos + text.length, f.new ++ applied f.old f.oldPos text⟩) :
    Yields lz target s f := by
  refine yields_internal hs (fun _ => rfl) hd (t := setNextState .readFrameLen
    { s with stateAfterReadVarInt := .processSinglePiece }) ?_
  refine yields_frame hb (fun _ _ _ => rfl) rfl rfl hd h0 (hfits.trans hm.ge) hp
    fun s1 hs1 hreg1 hbuf => ?_
  have hd1 : isPatchingDone s1 = false := (isPatchingDone_of_registers hreg1).trans hd
  have hc1 : s1.maxCompressedDataBuffer.toNat = size :=
    (congrArg (·.maxCompressedDataBuffer.toNat) hreg1).trans hc
  have hm1 : s1.maxDeCompressBuffer.toNat = size :=
    (congrArg (·.maxDeCompressBuffer.toNat) hreg1).trans hm
  have hdec := decompressed hbuf hc1 htext hne
  refine yields_internal hs1 (fun cs => by simp only [onState, hdec]) hd1 (t :=
    setNextState .processSinglePieceInit
      { s1 with nonCompressedDataBuffer := text, undeCompressBufferLen := text.length }) ?_
  refine yields_internal rfl (fun _ => rfl) hd1 (t :=
    setNextState .processSinglePieceContinue2
      { s1 with
        nonCompressedDataBuffer := text
        undeCompressBufferLen := text.length
        i := 0 }) ?_
  exact yields_addOld rfl rfl rfl rfl hne (hle.trans hm1.ge) hd1 hpos hold
    fun s' hs' hreg' hu' => h s' hs' (hreg'.trans hreg1) hu'

theorem yields_moreDiff (hs : s.nextState = .postActions) (hd : isPatchingDone s = false)
    (hlt : ((s.totalUndeCompressBuffer + s.undeCompressBufferLen : ℕ) : ℤ) < s.diffStrLenX)
    (h : Yields lz target (setNextState .readHeaderPiece { s with
      totalUndeCompressBuffer := s.totalUndeCompressBuffer + s.undeCompressBufferLen }) f) :
    Yields lz target s f :=
  yields_internal hs (fun _ => by simp only [onState, if_pos hlt]) hd h

theorem yields_wholeDiff (hs : s.nextState = .postActions) (hd : isPatchingDone s = false)
    (hlt : ¬((s.totalUndeCompressBuffer + s.undeCompressBufferLen : ℕ) : ℤ) < s.diffStrLenX)
    (h : Yields lz target (setNextState .processExtraLen { s with
      totalUndeCompressBuffer := s.totalUndeCompressBuffer + s.undeCompressBufferLen
      newpos := s.newpos + s.diffStrLenX }) f) : Yields lz target s f :=
  yields_internal hs (fun _ => by simp only [onState, if_neg hlt]) hd h

theorem yields_diff {bytes diff : List Byte} (hf : Framed lz size bytes diff) (hne : diff ≠ [])
    (hs : s.nextState = .readHeaderPiece) (hd : isPatchingDone s = false) (h0 : s.varIntLen = 0)
    (hc : s.maxCompressedDataBuffer.toNat = size) (hm : s.maxDeCompressBuffer.toNat = size)
    (hp : f.patch = bytes ++ rest) (hpos : 0 ≤ f.oldPos)
    (hold : f.oldPos + diff.length ≤ f.old.length)
    (hx : ((s.totalUndeCompressBuffer + diff.length : ℕ) : ℤ) = s.diffStrLenX)
    (h : ∀ s', s'.nextState = .processExtraLen → registers s' = { registers s with
        totalUndeCompressBuffer := s.totalUndeCompressBuffer + diff.length
        newpos := s.newpos + s.diffStrLenX } → Yields lz target s'
          ⟨rest, f.old, f.oldPos + diff.length, f.new ++ applied f.old f.oldPos diff⟩) :
    Yields lz target s f := by
  induction hf generalizing s f with
  | nil => exact absurd rfl hne
  | @frame len body text rest' more hlen hfits htext htne hle hmore ih =>
    rw [List.length_append, Nat.cast_add] at hold
    rw [List.length_append] at hx
    rw [List.append_assoc, List.append_assoc] at hp
    refine yields_piece hlen hfits htext htne hle hs hd h0 hc hm hp hpos (by omega)
      fun s1 hs1 hreg1 hu => ?_
    have hd1 : isPatchingDone s1 = false := (isPatchingDone_of_registers hreg1).trans hd
    have htotal : s1.totalUndeCompressBuffer = s.totalUndeCompressBuffer :=
      congrArg Registers.totalUndeCompressBuffer hreg1
    have hx1 : s1.diffStrLenX = s.diffStrLenX := congrArg Registers.diffStrLenX hreg1
    have hn1 : s1.newpos = s.newpos := congrArg Registers.newpos hreg1
    rcases eq_or_ne more [] with rfl | hmne
    · obtain rfl := framed_nil hmore
      simp only [List.append_nil] at h
      refine yields_wholeDiff hs1 hd1 ?_ (h _ rfl ?_)
      · rw [htotal, hu, hx1, ← hx]
        exact lt_irrefl _
      · rw [hu]
        exact congrArg (fun r : Registers => { r with
          totalUndeCompressBuffer := r.totalUndeCompressBuffer + text.length
          newpos := r.newpos + r.diffStrLenX }) hreg1
    · have hpos1 : 0 < more.length := List.length_pos_iff.mpr hmne
      refine yields_moreDiff hs1 hd1 ?_ ?_
      · rw [htotal, hu, hx1, ← hx]
        omega
      refine ih hmne rfl hd1 ((congrArg Registers.varIntLen hreg1).trans h0)
        ((congrArg (·.maxCompressedDataBuffer.toNat) hreg1).trans hc)
        ((congrArg (·.maxDeCompressBuffer.toNat) hreg1).trans hm) rfl
        (by dsimp only; omega) (by dsimp only; omega) ?_ fun s' hs' hreg' => ?_
      · change ((s1.totalUndeCompressBuffer + s1.undeCompressBufferLen + more.length : ℕ) : ℤ) =
          s1.diffStrLenX
        rw [htotal, hu, hx1, ← hx, Nat.add_assoc]
      · have hdone := h s' hs' ?_
        · rw [applied_append _ _ _ hpos, List.length_append, Nat.cast_add, ← add_assoc,
            ← List.append_assoc] at hdone
          exact hdone
        · rw [hreg', List.length_append, ← Nat.add_assoc]
          change { registers s1 with
            totalUndeCompressBuffer :=
              s1.totalUndeCompressBuffer + s1.undeCompressBufferLen + more.length
            newpos := s1.newpos + s1.diffStrLenX } = _
          rw [hu]
          exact congrArg (fun r : Registers => { r with
            totalUndeCompressBuffer := r.totalUndeCompressBuffer + text.length + more.length
            newpos := r.newpos + r.diffStrLenX }) hreg1

theorem yields_item {len body text : List Byte} (hb : Numeral len body.length)
    (hfits : body.length ≤ size) (htext : lz.decompressSafe body size = some text)
    (hne : text ≠ []) (hs : s.nextState = .processExtraLenReadHeader)
    (hd : isPatchingDone s = false) (h0 : s.varIntLen = 0)
    (hc : s.maxCompressedDataBuffer.toNat = size) (hm : s.maxDeCompressBuffer.toNat = size)
    (hp : f.patch = len ++ (body ++ rest))
    (h : ∀ s', s'.nextState = .processExtraLenSingleItemContinuePostStep →
      registers s' = registers s → s'.undeCompressBufferLen = text.length →
      Yields lz target s' ⟨rest, f.old, f.oldPos, f.new ++ text⟩) : Yields lz target s f := by
  refine yields_internal hs (fun _ => rfl) hd (t := setNextState .readFrameLen
    { s with stateAfterReadVarInt := .processExtraLenSingleItem }) ?_
  refine yields_frame hb (fun _ _ _ => rfl) rfl rfl hd h0 (hfits.trans hm.ge) hp
    fun s1 hs1 hreg1 hbuf => ?_
  have hd1 : isPatchingDone s1 = false := (isPatchingDone_of_registers hreg1).trans hd
  have hc1 : s1.maxCompressedDataBuffer.toNat = size :=
    (congrArg (·.maxCompressedDataBuffer.toNat) hreg1).trans hc
  have hdec := decompressed hbuf hc1 htext hne
  exact yields_writeNew hs1 (fun cs => by simp only [onState, hdec]) hd1 (t := { s1 with
    nonCompressedDataBuffer := text, undeCompressBufferLen := text.length }) (h _ rfl hreg1 rfl)

theorem yields_moreExtra (hs : s.nextState = .processExtraLenSingleItemContinuePostStep)
    (hd : isPatchingDone s = false)
    (hlt : ((s.totalUndeCompressBuffer + s.undeCompressBufferLen : ℕ) : ℤ) < s.extraStrLenY)
    (h : Yields lz target (setNextState .processExtraLenReadHeader { s with
      totalUndeCompressBuffer := s.totalUndeCompressBuffer + s.undeCompressBufferLen }) f) :
    Yields lz target s f :=
  yields_internal hs (fun _ => by simp only [onState, if_pos hlt]) hd h

theorem yields_wholeExtra (hs : s.nextState = .processExtraLenSingleItemContinuePostStep)
    (hd : isPatchingDone s = false)
    (hlt : ¬((s.totalUndeCompressBuffer + s.undeCompressBufferLen : ℕ) : ℤ) < s.extraStrLenY)
    (h : Yields lz target (setNextState .processExtraLenPostStep { s with
      totalUndeCompressBuffer := s.totalUndeCompressBuffer + s.undeCompressBufferLen }) f) :
    Yields lz target s f :=
  yields_internal hs (fun _ => by simp only [onState, if_neg hlt]) hd h

theorem yields_extra {bytes extra : List Byte} (hf : Framed lz size bytes extra) (hne : extra ≠ [])
    (hs : s.nextState = .processExtraLenReadHeader) (hd : isPatchingDone s = false)
    (h0 : s.varIntLen = 0) (hc : s.maxCompressedDataBuffer.toNat = size)
    (hm : s.maxDeCompressBuffer.toNat = size) (hp : f.patch = bytes ++ rest)
    (hy : ((s.totalUndeCompressBuffer + extra.length : ℕ) : ℤ) = s.extraStrLenY)
    (h : ∀ s', s'.nextState = .processExtraLenPostStep → registers s' = { registers s with
        totalUndeCompressBuffer := s.totalUndeCompressBuffer + extra.length } →
      Yields lz target s' ⟨rest, f.old, f.oldPos, f.new ++ extra⟩) : Yields lz target s f := by
  induction hf generalizing s f with
  | nil => exact absurd rfl hne
  | @frame len body text rest' more hlen hfits htext htne hle hmore ih =>
    rw [List.length_append] at hy
    rw [List.append_assoc, List.append_assoc] at hp
    refine yields_item hlen hfits htext htne hs hd h0 hc hm hp fun s1 hs1 hreg1 hu => ?_
    have hd1 : isPatchingDone s1 = false := (isPatchingDone_of_registers hreg1).trans hd
    have htotal : s1.totalUndeCompressBuffer = s.totalUndeCompressBuffer :=
      congrArg Registers.totalUndeCompressBuffer hreg1
    have hy1 : s1.extraStrLenY = s.extraStrLenY := congrArg Registers.extraStrLenY hreg1
    rcases eq_or_ne more [] with rfl | hmne
    · obtain rfl := framed_nil hmore
      simp only [List.append_nil] at h
      refine yields_wholeExtra hs1 hd1 ?_ (h _ rfl ?_)
      · rw [htotal, hu, hy1, ← hy]
        exact lt_irrefl _
      · rw [hu]
        exact congrArg (fun r : Registers => { r with
          totalUndeCompressBuffer := r.totalUndeCompressBuffer + text.length }) hreg1
    · have hpos1 : 0 < more.length := List.length_pos_iff.mpr hmne
      refine yields_moreExtra hs1 hd1 ?_ ?_
      · rw [htotal, hu, hy1, ← hy]
        omega
      refine ih hmne rfl hd1 ((congrArg Registers.varIntLen hreg1).trans h0)
        ((congrArg (·.maxCompressedDataBuffer.toNat) hreg1).trans hc)
        ((congrArg (·.maxDeCompressBuffer.toNat) hreg1).trans hm) rfl ?_ fun s' hs' hreg' => ?_
      · change ((s1.totalUndeCompressBuffer + s1.undeCompressBufferLen + more.length : ℕ) : ℤ) =
          s1.extraStrLenY
        rw [htotal, hu, hy1, ← hy, Nat.add_assoc]
      · have hdone := h s' hs' ?_
        · rw [← List.append_assoc] at hdone
          exact hdone
        · rw [hreg', List.length_append, ← Nat.add_assoc]
          change { registers s1 with
            totalUndeCompressBuffer :=
              s1.totalUndeCompressBuffer + s1.undeCompressBufferLen + more.length } = _
          rw [hu]
          exact congrArg (fun r : Registers => { r with
            totalUndeCompressBuffer := r.totalUndeCompressBuffer + text.length + more.length })
            hreg1

theorem yields_readData (hs : s.nextState = .readDataSegment) (hd : isPatchingDone s = false)
    (hfit : ¬s.newpos + s.diffStrLenX > s.newSize.toNat)
    (h : Yields lz target
      (if s.diffStrLenX > 0 then
        setNextState .readHeaderPiece
          { s with oldFileCtrlOffSetJump := s.varInt.toInt, totalUndeCompressBuffer := 0 }
      else setNextState .processExtraLen { s with oldFileCtrlOffSetJump := s.varInt.toInt }) f) :
    Yields lz target s f :=
  yields_internal hs (fun _ => by simp only [onState, if_neg hfit]) hd h

theorem yields_extraLen (hs : s.nextState = .processExtraLen) (hd : isPatchingDone s = false)
    (hfit : ¬s.newpos + s.extraStrLenY > s.newSize.toNat)
    (h : Yields lz target
      (if s.extraStrLenY > 0 then
        setNextState .processExtraLenReadHeader { s with totalUndeCompressBuffer := 0 }
      else setNextState .processExtraLenPostStep s) f) :
    Yields lz target s f := by
  refine yields_internal hs (fun _ => ?_) hd h
  simp only [onState, if_neg hfit]
  split <;> rfl

theorem yields_postStep (hs : s.nextState = .processExtraLenPostStep)
    (hd : isPatchingDone s = false)
    (h : Yields lz target
      { s with
        newpos := s.newpos + s.extraStrLenY
        nextState := .readControlSegmentHeader
        expectedExternalEvent := none }
      { f with oldPos := f.oldPos + s.oldFileCtrlOffSetJump }) : Yields lz target s f :=
  yields_seekOld hs (fun _ => rfl) hd h (t := { s with newpos := s.newpos + s.extraStrLenY })

structure Owes (target : List Byte) (s : BspatchStream) (f : PatchFiles) (text : List Byte) :
    Prop where
  newSize : s.newSize ≠ 0
  newpos : s.newpos + text.length = s.newSize.toNat
  new : f.new ++ text = target

theorem yields_of_owes_nil (h : Owes target s f []) : Yields lz target s f := by
  have hdone : isPatchingDone s = true := by
    have hpos := h.newpos
    rw [isPatchingDone, Bool.and_eq_true, decide_eq_true_eq, decide_eq_true_eq]
    exact ⟨h.newSize, by rw [← hpos]; simp⟩
  rw [Yields, if_pos hdone, ← h.new, List.append_nil]

theorem not_done_of_owes {text : List Byte} (h : Owes target s f text) (hne : text ≠ []) :
    isPatchingDone s = false := by
  have hpos := h.newpos
  have hlen : 0 < text.length := List.length_pos_iff.mpr hne
  rw [isPatchingDone, Bool.and_eq_false_iff, decide_eq_false_iff_not, decide_eq_false_iff_not]
  exact .inr (by omega)

theorem yields_tail (g : Segment lz size) {text : List Byte} (hs : s.nextState = .processExtraLen)
    (h0 : s.varIntLen = 0) (hc : s.maxCompressedDataBuffer.toNat = size)
    (hm : s.maxDeCompressBuffer.toNat = size) (hy : s.extraStrLenY = g.extra.length)
    (hp : f.patch = g.extraFrames ++ rest) (ho : Owes target s f (g.extra ++ text))
    (h : ∀ s', s'.nextState = .readControlSegmentHeader →
      (∃ total, registers s' = { registers s with
        totalUndeCompressBuffer := total, newpos := s.newpos + s.extraStrLenY }) →
      Yields lz target s'
        ⟨rest, f.old, f.oldPos + s.oldFileCtrlOffSetJump, f.new ++ g.extra⟩) :
    Yields lz target s f := by
  rcases eq_or_ne (g.extra ++ text) [] with hnil | hne
  · rw [hnil] at ho
    exact yields_of_owes_nil ho
  have hd := not_done_of_owes ho hne
  have hpos := ho.newpos
  rw [List.length_append, Nat.cast_add] at hpos
  refine yields_extraLen hs hd (by rw [hy]; omega) ?_
  rcases eq_or_ne g.extra [] with hnone | hsome
  · have hframes := g.extra_framed
    rw [hnone] at hframes
    rw [if_neg (by rw [hy, hnone]; exact lt_irrefl _)]
    refine yields_postStep rfl hd ?_
    have hrest := h { s with
      newpos := s.newpos + s.extraStrLenY
      nextState := .readControlSegmentHeader
      expectedExternalEvent := none } rfl ⟨s.totalUndeCompressBuffer, rfl⟩
    rw [framed_nil hframes, List.nil_append] at hp
    rw [hnone, List.append_nil, ← hp] at hrest
    exact hrest
  · have hlen : 0 < g.extra.length := List.length_pos_iff.mpr hsome
    rw [if_pos (by rw [hy]; omega)]
    refine yields_extra g.extra_framed hsome rfl hd h0 hc hm hp ?_ fun s1 hs1 hreg1 => ?_
    · change ((0 + g.extra.length : ℕ) : ℤ) = s.extraStrLenY
      rw [hy, Nat.zero_add]
    have hd1 : isPatchingDone s1 = false := by
      have hn : s1.newSize = s.newSize := congrArg Registers.newSize hreg1
      have hp1 : s1.newpos = s.newpos := congrArg Registers.newpos hreg1
      rw [isPatchingDone, hn, hp1]
      exact hd
    have hjump : s1.oldFileCtrlOffSetJump = s.oldFileCtrlOffSetJump :=
      congrArg Registers.oldFileCtrlOffSetJump hreg1
    have hrest := h { s1 with
      newpos := s1.newpos + s1.extraStrLenY
      nextState := .readControlSegmentHeader
      expectedExternalEvent := none } rfl ⟨0 + g.extra.length,
        congrArg (fun r : Registers => { r with newpos := r.newpos + r.extraStrLenY }) hreg1⟩
    rw [← hjump] at hrest
    exact yields_postStep hs1 hd1 hrest

theorem yields_describes {old bytes text : List Byte} {pos : ℤ}
    (hdesc : Describes lz size old pos bytes text) (hs : s.nextState = .readControlSegmentHeader)
    (h0 : s.varIntLen = 0) (hc : s.maxCompressedDataBuffer.toNat = size)
    (hm : s.maxDeCompressBuffer.toNat = size) (hp : f.patch = bytes) (hold : f.old = old)
    (hpos : f.oldPos = pos) (ho : Owes target s f text) : Yields lz target s f := by
  induction hdesc generalizing s f with
  | nil => exact yields_of_owes_nil ho
  | @segment pos rest text g hge hle hrest ih =>
    rcases eq_or_ne (g.text old pos ++ text) [] with hnil | hne
    · rw [hnil] at ho
      exact yields_of_owes_nil ho
    have hd := not_done_of_owes ho hne
    have hlen := ho.newpos
    have happ : (applied old pos g.diff).length = g.diff.length := length_applied hge hle
    rw [Segment.text, List.length_append, List.length_append, happ, Nat.cast_add,
      Nat.cast_add] at hlen
    simp only [Segment.bytes, List.append_assoc] at hp
    have htail : ∀ s', s'.nextState = .processExtraLen →
        (∃ total, registers s' = { registers s with
          totalUndeCompressBuffer := total
          newpos := s.newpos + g.diff.length
          diffStrLenX := g.diff.length
          extraStrLenY := g.extra.length
          oldFileCtrlOffSetJump := g.jump }) →
        Yields lz target s' ⟨g.extraFrames ++ rest, old, pos + g.diff.length,
          f.new ++ applied old pos g.diff⟩ := by
      rintro s' hs' ⟨total, hreg⟩
      have hy : s'.extraStrLenY = g.extra.length := congrArg Registers.extraStrLenY hreg
      have hj : s'.oldFileCtrlOffSetJump = g.jump := congrArg Registers.oldFileCtrlOffSetJump hreg
      have hsize : s'.newSize = s.newSize := congrArg Registers.newSize hreg
      have hnew : s'.newpos = s.newpos + g.diff.length := congrArg Registers.newpos hreg
      have h0' : s'.varIntLen = 0 := (congrArg Registers.varIntLen hreg).trans h0
      have hc' : s'.maxCompressedDataBuffer.toNat = size :=
        (congrArg (·.maxCompressedDataBuffer.toNat) hreg).trans hc
      have hm' : s'.maxDeCompressBuffer.toNat = size :=
        (congrArg (·.maxDeCompressBuffer.toNat) hreg).trans hm
      have howes : Owes target s' ⟨g.extraFrames ++ rest, old, pos + g.diff.length,
          f.new ++ applied old pos g.diff⟩ (g.extra ++ text) := by
        refine ⟨hsize ▸ ho.newSize, ?_, ?_⟩
        · rw [hnew, hsize, List.length_append, Nat.cast_add, ← hlen]
          ring
        · rw [← ho.new, Segment.text]
          simp only [List.append_assoc]
      refine yields_tail g hs' h0' hc' hm' hy rfl howes fun s2 hs2 ⟨total2, hreg2⟩ => ?_
      refine ih hs2 ((congrArg Registers.varIntLen hreg2).trans h0')
        ((congrArg (·.maxCompressedDataBuffer.toNat) hreg2).trans hc')
        ((congrArg (·.maxDeCompressBuffer.toNat) hreg2).trans hm') rfl rfl ?_ ⟨?_, ?_, ?_⟩
      · rw [hj, Segment.next]
      · rw [show s2.newSize = s'.newSize from congrArg Registers.newSize hreg2, hsize]
        exact ho.newSize
      · rw [show s2.newSize = s'.newSize from congrArg Registers.newSize hreg2,
          show s2.newpos = s'.newpos + s'.extraStrLenY from congrArg Registers.newpos hreg2, hnew,
          hy, hsize, ← hlen]
        ring
      · rw [← ho.new, Segment.text]
        simp only [List.append_assoc]
    refine yields_control g hs hd h0 hp fun s1 hs1 hreg1 hjump => ?_
    have hx1 : s1.diffStrLenX = g.diff.length := congrArg Registers.diffStrLenX hreg1
    have hn1 : s1.newpos = s.newpos := congrArg Registers.newpos hreg1
    have hsize1 : s1.newSize = s.newSize := congrArg Registers.newSize hreg1
    have hd1 : isPatchingDone s1 = false := by
      rw [isPatchingDone, hn1, hsize1]
      exact hd
    refine yields_readData hs1 hd1 (by rw [hx1, hn1, hsize1]; omega) ?_
    rcases eq_or_ne g.diff [] with hnone | hsome
    · have hframes := g.diff_framed
      rw [hnone] at hframes
      rw [if_neg (by rw [hx1, hnone]; exact lt_irrefl _), framed_nil hframes, hjump]
      simp only [hnone, List.length_nil, Nat.cast_zero, add_zero, applied_nil, List.append_nil]
        at htail hreg1
      rw [← hold, ← hpos] at htail
      exact htail _ rfl ⟨s.totalUndeCompressBuffer,
        congrArg (fun r : Registers => { r with oldFileCtrlOffSetJump := g.jump }) hreg1⟩
    · have hpos1 : 0 < g.diff.length := List.length_pos_iff.mpr hsome
      rw [if_pos (by rw [hx1]; omega)]
      refine yields_diff g.diff_framed hsome rfl hd1 ((congrArg Registers.varIntLen hreg1).trans h0)
        ((congrArg (·.maxCompressedDataBuffer.toNat) hreg1).trans hc)
        ((congrArg (·.maxDeCompressBuffer.toNat) hreg1).trans hm) rfl (by rw [hpos]; exact hge)
        (by rw [hpos, hold]; exact hle) ?_ fun s2 hs2 hreg2 => ?_
      · change ((0 + g.diff.length : ℕ) : ℤ) = s1.diffStrLenX
        rw [hx1, Nat.zero_add]
      · have hdone := htail s2 hs2 ⟨0 + g.diff.length, ?_⟩
        · rw [← hold, ← hpos] at hdone
          exact hdone
        · rw [hreg2, hjump]
          exact congrArg (fun r : Registers => { r with
            totalUndeCompressBuffer := 0 + g.diff.length
            newpos := r.newpos + r.diffStrLenX
            oldFileCtrlOffSetJump := g.jump }) hreg1

end Parts

end SlcNode.Bspatch
