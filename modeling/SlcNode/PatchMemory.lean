import SlcNode.PatchSchedule

namespace SlcNode.PatchMemory

open Bspatch

inductive Buffer
  | piece
  | frame
deriving DecidableEq

def workingMemory : ℕ := compileTimeMemoryAlloc.toNat + 14

def frameAt (s : BspatchStream) : ℕ := (compressedAddress s - s.bsMemoryBuffer.address).toNat

def Inside (s : BspatchStream) : Buffer × ℕ → Prop
  | (.piece, n) => n ≤ frameAt s ∧ n ≤ workingMemory
  | (.frame, n) => frameAt s + n ≤ workingMemory

def accesses (lz : Lz4) (s : BspatchStream) : List (Buffer × ℕ) :=
  match s.nextState with
  | .readCtrlDiffStrLen | .readCtrlExtraStrLenY | .readCtrlOldFileCtrlOffSetJump | .readFrameLen
  | .readVarintPiece | .processVarintPiece => [(.piece, 1)]
  | .processSinglePiece | .processExtraLenSingleItem =>
    if s.varInt.toInt > s.maxDeCompressBuffer.toNat then [] else [(.frame, s.varInt.toNat)]
  | .processSinglePieceContinue | .processExtraLenSingleItemContinue =>
    [(.frame, s.frameLen.toNat), (.piece, s.maxCompressedDataBuffer.toNat)] ++
      match lz.decompressSafe s.bufferForCompressedData s.maxCompressedDataBuffer.toNat with
      | some data => [(.piece, data.length)]
      | none => []
  | .processSinglePieceContinue2 =>
    if s.i < s.undeCompressBufferLen then
      [(.frame, min s.maxDeCompressBuffer.toNat (s.undeCompressBufferLen - s.i))]
    else []
  | .writePart => [(.frame, s.readRequestSize), (.piece, s.i + s.readRequestSize)]
  | _ => []

inductive Reached (lz : Lz4) (mem : BsMemoryBuffer) (patch old : List Byte) : BsPatch → Prop
  | start (completions : Stream' Completion) :
      Reached lz mem patch old
        ⟨{ init mem with expectedExternalEvent := none }, ⟨patch, old, 0, []⟩, completions⟩
  | loop {m : BsPatch} : Reached lz mem patch old m →
      (iterate lz m).1 = .operationDoneImmediately →
      isPatchingDone (iterate lz m).2.stream = false → Reached lz mem patch old (iterate lz m).2
  | resume {m : BsPatch} {event : BsPatchApiEvent} : Reached lz mem patch old m →
      (iterate lz m).1.completion = some event →
      isPatchingDone (iterate lz m).2.stream = false →
      Reached lz mem patch old { (iterate lz m).2 with
        stream := { (iterate lz m).2.stream with expectedExternalEvent := none } }

def Sized (s : BspatchStream) : Prop :=
  s.maxCompressedDataBuffer = s.maxDeCompressBuffer ∧ 64 ≤ s.maxDeCompressBuffer.toNat

def Fits (s : BspatchStream) : Prop := s.maxDeCompressBuffer.toNat ≤ 512

def Frames (s : BspatchStream) : Prop :=
  (s.nextState = .processSinglePiece ∨ s.nextState = .processExtraLenSingleItem) ∧
    s.varInt.toInt ≤ s.maxDeCompressBuffer.toNat

/-- The sizes that pass the test: where the sum of both is taken in full, or where it wraps. -/
def Accepted (s : BspatchStream) : Prop :=
  Sized s ∧ (Fits s ∨
    2 ^ 31 ≤ s.maxDeCompressBuffer.toNat ∧ s.maxDeCompressBuffer.toNat ≤ 2 ^ 31 + 512)

instance (s : BspatchStream) : Decidable (Fits s) := inferInstanceAs (Decidable (_ ≤ _))

instance (s : BspatchStream) : Decidable (Frames s) := inferInstanceAs (Decidable (_ ∧ _))

def Counts (state : BsPatchState) : Prop :=
  state = .processSinglePiece ∨ state = .processExtraLenSingleItem

structure Counting (s : BspatchStream) : Prop where
  len : s.varIntLen ≤ 7
  after : Counts s.stateAfterReadVarInt ∨ s.stateAfterReadVarInt = .readCtrlExtraStrLenY ∨
    s.stateAfterReadVarInt = .readCtrlOldFileCtrlOffSetJump ∨
    s.stateAfterReadVarInt = .readDataSegment
  unsigned : Counts s.stateAfterReadVarInt → s.isSignedVarInt = false ∧
    (if s.varIntLen = 0 then 0 else s.varInt).toNat < 128 ^ s.varIntLen

def KeptAt : BsPatchState → BspatchStream → Prop
  | .initial, s | .initialPatchReadDone, s => s.varIntLen = 0
  | .allocWorkingBuffer, s => s.varIntLen = 0 ∧ Sized s
  | .readVarintPiece, s | .processVarintPiece, s => Accepted s ∧ Counting s
  | .readFrameLen, s => s.varIntLen = 0 ∧ Accepted s ∧ Counts s.stateAfterReadVarInt
  | .processSinglePiece, s | .processExtraLenSingleItem, s =>
    s.varIntLen = 0 ∧ Accepted s ∧ s.varInt.toNat < 2 ^ 49
  | .processSinglePieceContinue, s | .processExtraLenSingleItemContinue, s =>
    s.varIntLen = 0 ∧ Accepted s ∧ Fits s ∧ s.frameLen.toNat ≤ s.maxDeCompressBuffer.toNat
  | .processSinglePieceInit, s | .postActions, s | .processSinglePieceContinue2, s
  | .processExtraLenSingleItemContinuePostStep, s =>
    s.varIntLen = 0 ∧ Accepted s ∧ Fits s ∧
      s.undeCompressBufferLen ≤ s.maxDeCompressBuffer.toNat
  | .writePart, s =>
    s.varIntLen = 0 ∧ Accepted s ∧ Fits s ∧
      s.undeCompressBufferLen ≤ s.maxDeCompressBuffer.toNat ∧
      s.i + s.readRequestSize ≤ s.undeCompressBufferLen
  | .zero, _ | .readInitialHeader, _ | .readFrameLenPieceRead, _ => True
  | _, s => s.varIntLen = 0 ∧ Accepted s

def Kept (s : BspatchStream) : Prop := KeptAt s.nextState s

section Header

theorem sized_readInitialHeader {s : BspatchStream}
    (h : (readInitialHeader s).1 = .operationDoneImmediately) :
    Sized (readInitialHeader s).2 ∧ (readInitialHeader s).2.varIntLen = s.varIntLen := by
  unfold readInitialHeader at h ⊢
  dsimp only at h ⊢
  split_ifs at h ⊢ with hmagic hnew hsize hbounds
  have hcompressed := (not_or.mp (not_or.mp hbounds).2).1
  exact ⟨⟨rfl, not_lt.mp hcompressed⟩, rfl⟩

theorem accepted_of_alloc {s : BspatchStream} (hs : Sized s)
    (h : allocWorkingBuffers s = .operationDoneImmediately) : Accepted s := by
  refine ⟨hs, ?_⟩
  rw [allocWorkingBuffers_of_sizes s hs.1] at h
  split_ifs at h with hlt
  rw [hs.1, BitVec.lt_def, BitVec.toNat_add] at hlt
  have hmax := s.maxDeCompressBuffer.isLt
  have hlim : compileTimeMemoryAlloc.toNat = 1024 := rfl
  unfold Fits
  omega

end Header

section Number

theorem readVarInt_spec {s : BspatchStream} (hc : Counting s)
    (h : (readVarIntEventified s.isSignedVarInt s).1 = .operationDoneImmediately) :
    ∃ v : BitVec 64, (Counts s.stateAfterReadVarInt → v.toNat < 128 ^ (s.varIntLen + 1)) ∧
      s.varIntLen ≤ 6 ∧
      ((readVarIntEventified s.isSignedVarInt s).2 =
          { s with varInt := v, varIntLen := s.varIntLen + 1, nextState := .readVarintPiece } ∨
        (readVarIntEventified s.isSignedVarInt s).2 =
          { s with
            varInt := v
            varIntLen := 0
            nextState := s.stateAfterReadVarInt
            stateAfterReadVarInt := .zero }) := by
  unfold readVarIntEventified at h ⊢
  dsimp only at h ⊢
  generalize hd : (if s.isSignedVarInt = true then
      VarInt.decodeSignedVarint (s.nonCompressedDataBuffer.getD 0 0) s.varInt s.varIntLen
    else VarInt.decodeUnsignedVarint (s.nonCompressedDataBuffer.getD 0 0) s.varInt s.varIntLen) =
      d at h ⊢
  have hlt : Counts s.stateAfterReadVarInt → d.2.toNat < 128 ^ (s.varIntLen + 1) := by
    intro hcounts
    obtain ⟨hsigned, hprev⟩ := hc.unsigned hcounts
    rw [← hd, hsigned, if_neg Bool.false_ne_true]
    exact VarInt.decodeByte_lt hc.len hprev
  obtain ⟨op, v⟩ := d
  dsimp only at h ⊢
  by_cases herr : s.varIntLen + 1 ≥ 8 ∨ op = .errParameters
  · rw [if_pos herr] at h
    cases h
  · rw [if_neg herr] at h ⊢
    obtain ⟨hlen, hop⟩ := not_or.mp herr
    refine ⟨v, hlt, by omega, ?_⟩
    cases op with
    | errParameters => exact absurd rfl hop
    | operationCompleted => exact .inr rfl
    | operationNeedsMoreData => exact .inl rfl

end Number

section Step

variable {lz : Lz4} {m : BsPatch}

def Bounded (lz : Lz4) : Prop :=
  ∀ body size text, lz.decompressSafe body size = some text → text.length ≤ size

def GoesOn (status : BsPatchApiReturnCode) : Prop :=
  status = .operationDoneImmediately ∨ ∃ event, status.completion = some event

theorem immediate_of_goesOn {status : BsPatchApiReturnCode} (h : GoesOn status)
    (hc : status.completion = none) : status = .operationDoneImmediately := by
  obtain h | ⟨event, h⟩ := h
  · exact h
  · rw [hc] at h
    cases h

theorem goesOn_error : ¬ GoesOn .errCorruptedPatch := by
  rintro (h | ⟨_, h⟩) <;> cases h

theorem counting_start {s : BspatchStream} (hlen : s.varIntLen = 0)
    (hafter : Counts s.stateAfterReadVarInt ∨ s.stateAfterReadVarInt = .readCtrlExtraStrLenY ∨
      s.stateAfterReadVarInt = .readCtrlOldFileCtrlOffSetJump ∨
      s.stateAfterReadVarInt = .readDataSegment)
    (hs : Counts s.stateAfterReadVarInt → s.isSignedVarInt = false) : Counting s := by
  refine ⟨by omega, hafter, fun hcounts => ⟨hs hcounts, ?_⟩⟩
  rw [if_pos hlen, hlen]
  decide

theorem counts_readDataSegment : ¬ Counts .readDataSegment := by
  rintro (h | h) <;> cases h

theorem kept_readVarInt {s : BspatchStream} (h : Accepted s ∧ Counting s)
    (hst : (readVarIntEventified s.isSignedVarInt s).1 = .operationDoneImmediately) :
    Kept (readVarIntEventified s.isSignedVarInt s).2 := by
  obtain ⟨haccepted, hc⟩ := h
  obtain ⟨v, hv, hlen, hmore | hlast⟩ := readVarInt_spec hc hst
  · rw [hmore]
    exact ⟨haccepted, ⟨Nat.succ_le_succ hlen, hc.after,
      fun hcounts => ⟨(hc.unsigned hcounts).1, hv hcounts⟩⟩⟩
  · rw [hlast]
    have hlt : Counts s.stateAfterReadVarInt → v.toNat < 2 ^ 49 := fun hcounts =>
      (hv hcounts).trans_le (Nat.pow_le_pow_right (by decide) (by omega : s.varIntLen + 1 ≤ 7))
    have hafter := hc.after
    change KeptAt s.stateAfterReadVarInt _
    generalize s.stateAfterReadVarInt = state at hafter hlt
    rcases hafter with (rfl | rfl) | rfl | rfl | rfl
    · exact ⟨rfl, haccepted, hlt (.inl rfl)⟩
    · exact ⟨rfl, haccepted, hlt (.inr rfl)⟩
    · exact ⟨rfl, haccepted⟩
    · exact ⟨rfl, haccepted⟩
    · exact ⟨rfl, haccepted⟩

theorem kept_decompressed {s : BspatchStream} (hlz : Bounded lz)
    (h : s.varIntLen = 0 ∧ Accepted s ∧ Fits s)
    (hst : (readDeCompressBufferProcess lz s).1 = .operationDoneImmediately) :
    KeptAt .postActions (readDeCompressBufferProcess lz s).2 := by
  unfold readDeCompressBufferProcess at hst ⊢
  cases hd : lz.decompressSafe s.bufferForCompressedData s.maxCompressedDataBuffer.toNat with
  | none =>
    rw [hd] at hst
    cases hst
  | some data =>
    obtain ⟨hlen, haccepted, hfits⟩ := h
    have hdata := hlz _ _ _ hd
    rw [haccepted.1.1] at hdata
    exact ⟨hlen, haccepted, hfits, hdata⟩

theorem kept_readFrame {next : BsPatchState}
    (hnext : next = .processSinglePieceContinue ∨ next = .processExtraLenSingleItemContinue)
    (h : m.stream.varIntLen = 0 ∧ Accepted m.stream ∧ m.stream.varInt.toNat < 2 ^ 49)
    (hfits : m.stream.varInt.toInt ≤ m.stream.maxDeCompressBuffer.toNat → Fits m.stream)
    (hst : GoesOn (readDeCompressBuffer next m).1) :
    Kept (readDeCompressBuffer next m).2.stream := by
  obtain ⟨hlen, haccepted, hlt⟩ := h
  have hint := VarInt.toInt_of_lt (hlt.trans (by decide))
  unfold readDeCompressBuffer at hst ⊢
  dsimp only at hst ⊢
  split_ifs at hst ⊢ with hbig
  · exact absurd hst goesOn_error
  · have hle : m.stream.varInt.toNat ≤ m.stream.maxDeCompressBuffer.toNat := by omega
    have hfits := hfits (not_lt.mp hbig)
    rcases hnext with rfl | rfl
    · exact ⟨hlen, haccepted, hfits, hle⟩
    · exact ⟨hlen, haccepted, hfits, hle⟩

theorem kept_singleItem (hlz : Bounded lz)
    (h : m.stream.varIntLen = 0 ∧ Accepted m.stream ∧ Fits m.stream)
    (hst : GoesOn (onState lz .processExtraLenSingleItemContinue m).1) :
    Kept (onState lz .processExtraLenSingleItemContinue m).2.stream := by
  have hkept := kept_decompressed hlz h
  have hstatus := readDeCompressBufferProcess_status lz m.stream
  simp only [onState] at hst ⊢
  generalize readDeCompressBufferProcess lz m.stream = r at hkept hstatus hst ⊢
  obtain ⟨status, s⟩ := r
  obtain rfl | rfl := hstatus
  · exact hkept rfl
  · exact absurd hst goesOn_error

theorem kept_iterate (hlz : Bounded lz) (hframes : Frames m.stream → Fits m.stream)
    (h : Kept m.stream) (hst : GoesOn (iterate lz m).1) : Kept (iterate lz m).2.stream := by
  unfold Kept at h
  unfold iterate at hst ⊢
  unfold Frames at hframes
  cases hs : m.stream.nextState
  all_goals rw [hs] at h hst hframes
  case processExtraLenSingleItemContinue => exact kept_singleItem hlz ⟨h.1, h.2.1, h.2.2.1⟩ hst
  case processSinglePiece =>
    exact kept_readFrame (.inl rfl) h (fun hle => hframes ⟨.inl rfl, hle⟩) hst
  case processExtraLenSingleItem =>
    exact kept_readFrame (.inr rfl) h (fun hle => hframes ⟨.inr rfl, hle⟩) hst
  all_goals simp only [onState] at hst ⊢
  case zero | readInitialHeader | readFrameLenPieceRead => rcases hst with hst | ⟨_, hst⟩ <;> cases hst
  case initial => split_ifs <;> exact h
  case initialPatchReadDone =>
    have hok := immediate_of_goesOn hst (readInitialHeader_completion m.stream)
    obtain ⟨hsized, hlen⟩ := sized_readInitialHeader hok
    exact ⟨hlen.trans h, hsized⟩
  case allocWorkingBuffer =>
    have hok := immediate_of_goesOn hst (allocWorkingBuffers_completion m.stream)
    exact ⟨h.1, accepted_of_alloc h.2 hok⟩
  case readControlSegmentHeader | readControlSegment | processExtraLenPostStep => exact h
  case readCtrlDiffStrLen =>
    exact ⟨h.2, counting_start h.1 (.inr (.inl rfl)) fun _ => rfl⟩
  case readCtrlExtraStrLenY =>
    exact ⟨h.2, counting_start h.1 (.inr (.inr (.inl rfl))) fun _ => rfl⟩
  case readCtrlOldFileCtrlOffSetJump =>
    exact ⟨h.2, counting_start h.1 (.inr (.inr (.inr rfl))) fun hc => absurd hc counts_readDataSegment⟩
  case readDataSegment => split_ifs <;> exact h
  case readHeaderPiece => exact ⟨h.1, h.2, .inl rfl⟩
  case processExtraLenReadHeader => exact ⟨h.1, h.2, .inr rfl⟩
  case readFrameLen => exact ⟨h.2.1, counting_start h.1 (.inl h.2.2) fun _ => rfl⟩
  case readVarintPiece => exact ⟨h.1, h.2.len, h.2.after, h.2.unsigned⟩
  case processVarintPiece =>
    have hok := immediate_of_goesOn hst (readVarIntEventified_completion m.stream _)
    exact kept_readVarInt h hok
  case processSinglePieceContinue =>
    have hok := immediate_of_goesOn hst (readDeCompressBufferProcess_completion lz m.stream)
    exact kept_decompressed hlz ⟨h.1, h.2.1, h.2.2.1⟩ hok
  case processSinglePieceInit => exact h
  case processSinglePieceContinue2 =>
    split_ifs with hi hall
    · have hle : m.stream.i + m.stream.maxDeCompressBuffer.toNat ≤
          m.stream.undeCompressBufferLen := by omega
      exact ⟨h.1, h.2.1, h.2.2.1, h.2.2.2, hle⟩
    · have hle : m.stream.i + (m.stream.undeCompressBufferLen - m.stream.i) ≤
          m.stream.undeCompressBufferLen := by omega
      exact ⟨h.1, h.2.1, h.2.2.1, h.2.2.2, hle⟩
    · exact h
  case writePart => exact ⟨h.1, h.2.1, h.2.2.1, h.2.2.2.1⟩
  case postActions => split_ifs <;> exact ⟨h.1, h.2.1⟩
  case processExtraLen =>
    split_ifs at hst ⊢
    · exact absurd hst goesOn_error
    · exact h
    · exact h
  case processExtraLenSingleItemContinuePostStep => split_ifs <;> exact ⟨h.1, h.2.1⟩

end Step

section Memory

variable {lz : Lz4} {s : BspatchStream}

theorem frameAt_eq (h : Accepted s) : frameAt s = (s.maxDeCompressBuffer.toNat + 7) / 8 * 8 := by
  obtain ⟨⟨heq, -⟩, hsize⟩ := h
  have hinside := s.bsMemoryBuffer.inside
  unfold Fits at hsize
  rw [frameAt, BitVec.toNat_sub, toNat_compressedAddress, heq]
  omega

theorem frameAt_bounds (h : Accepted s) :
    s.maxDeCompressBuffer.toNat ≤ frameAt s ∧ frameAt s ≤ s.maxDeCompressBuffer.toNat + 7 ∧
      64 ≤ frameAt s := by
  have hmin := h.1.2
  rw [frameAt_eq h]
  omega

theorem workingMemory_eq : workingMemory = 1038 := rfl

theorem inside_first (h : Accepted s) : Inside s (.piece, 1) := by
  have hbounds := frameAt_bounds h
  exact ⟨by omega, by decide⟩

theorem inside_piece {n : ℕ} (h : Accepted s) (hfits : Fits s)
    (hn : n ≤ s.maxDeCompressBuffer.toNat) : Inside s (.piece, n) := by
  obtain ⟨hle, -, -⟩ := frameAt_bounds h
  unfold Fits at hfits
  exact ⟨by omega, by rw [workingMemory_eq]; omega⟩

theorem inside_frame {n : ℕ} (h : Accepted s) (hfits : Fits s)
    (hn : n ≤ s.maxDeCompressBuffer.toNat) : Inside s (.frame, n) := by
  obtain ⟨-, hle, -⟩ := frameAt_bounds h
  unfold Fits at hfits
  change frameAt s + n ≤ workingMemory
  rw [workingMemory_eq]
  omega

theorem inside_of_kept (hlz : Bounded lz) (h : Kept s) (hframes : Frames s → Fits s) :
    ∀ a ∈ accesses lz s, Inside s a := by
  unfold Kept at h
  unfold Frames at hframes
  unfold accesses
  cases hs : s.nextState
  all_goals rw [hs] at h hframes
  all_goals simp only [List.forall_mem_cons, List.not_mem_nil, false_implies, implies_true, and_true]
  case readCtrlDiffStrLen | readCtrlExtraStrLenY | readCtrlOldFileCtrlOffSetJump =>
    exact inside_first h.2
  case readFrameLen => exact inside_first h.2.1
  case readVarintPiece | processVarintPiece => exact inside_first h.1
  case processSinglePiece | processExtraLenSingleItem =>
    have hint := VarInt.toInt_of_lt (h.2.2.trans (by decide))
    split_ifs with hbig
    · exact List.forall_mem_nil _
    · have hfits := hframes ⟨by simp, not_lt.mp hbig⟩
      exact List.forall_mem_singleton.mpr (inside_frame h.2.1 hfits (by omega))
  case processSinglePieceContinue | processExtraLenSingleItemContinue =>
    obtain ⟨-, haccepted, hfits, hle⟩ := h
    rw [List.forall_mem_append, List.forall_mem_cons, List.forall_mem_singleton]
    have hsize : s.maxCompressedDataBuffer.toNat ≤ s.maxDeCompressBuffer.toNat := by
      rw [haccepted.1.1]
    refine ⟨⟨inside_frame haccepted hfits hle, inside_piece haccepted hfits hsize⟩, ?_⟩
    cases hd : lz.decompressSafe s.bufferForCompressedData s.maxCompressedDataBuffer.toNat with
    | none => exact List.forall_mem_nil _
    | some data =>
      have hdata := hlz _ _ _ hd
      rw [haccepted.1.1] at hdata
      exact List.forall_mem_singleton.mpr (inside_piece haccepted hfits hdata)
  case processSinglePieceContinue2 =>
    obtain ⟨-, haccepted, hfits, -⟩ := h
    split_ifs
    · exact List.forall_mem_singleton.mpr (inside_frame haccepted hfits (min_le_left _ _))
    · exact List.forall_mem_nil _
  case writePart =>
    obtain ⟨-, haccepted, hfits, hlen, hle⟩ := h
    exact ⟨inside_frame haccepted hfits (by omega), inside_piece haccepted hfits (by omega)⟩

theorem fits_of_inside (h : Kept s) (hframes : Frames s)
    (hinside : ∀ a ∈ accesses lz s, Inside s a) : Fits s := by
  obtain ⟨hstate, hle⟩ := hframes
  have haccepted : Accepted s := by
    unfold Kept at h
    rcases hstate with hs | hs
    · rw [hs] at h
      exact h.2.1
    · rw [hs] at h
      exact h.2.1
  have hframe : accesses lz s = [(.frame, s.varInt.toNat)] := by
    unfold accesses
    rcases hstate with hs | hs
    · rw [hs]
      exact if_neg (not_lt.mpr hle)
    · rw [hs]
      exact if_neg (not_lt.mpr hle)
  rw [hframe, List.forall_mem_singleton] at hinside
  change frameAt s + s.varInt.toNat ≤ workingMemory at hinside
  rw [workingMemory_eq] at hinside
  obtain ⟨hbelow, -, -⟩ := frameAt_bounds haccepted
  rcases haccepted.2 with hfits | hwraps
  · exact hfits
  · omega

end Memory

section Runs

variable {lz : Lz4} {mem : BsMemoryBuffer} {p old : List Byte} {m : BsPatch}

theorem kept_resumed {s : BspatchStream} (h : Kept s) :
    Kept { s with expectedExternalEvent := none } := by
  unfold Kept at h ⊢
  dsimp only
  cases hs : s.nextState
  all_goals rw [hs] at h
  case readVarintPiece | processVarintPiece => exact ⟨h.1, h.2.len, h.2.after, h.2.unsigned⟩
  all_goals exact h

theorem kept_reached (hlz : Bounded lz)
    (hframes : ∀ m, Reached lz mem p old m → Kept m.stream → Frames m.stream → Fits m.stream)
    (h : Reached lz mem p old m) : Kept m.stream := by
  induction h with
  | start cs => exact rfl
  | @loop m hm hst _ ih => exact kept_iterate hlz (hframes m hm ih) ih (.inl hst)
  | @resume m event hm hst _ ih =>
    exact kept_resumed (kept_iterate hlz (hframes m hm ih) ih (.inr ⟨event, hst⟩))

theorem memory_kept_iff (lz : Lz4) (mem : BsMemoryBuffer) (p old : List Byte) (hlz : Bounded lz) :
    (∀ m, Reached lz mem p old m → ∀ a ∈ accesses lz m.stream, Inside m.stream a) ↔
      ∀ m, Reached lz mem p old m → Frames m.stream → Fits m.stream := by
  constructor
  · intro hinside m hm hframes
    have hkept := kept_reached hlz (fun m hm hkept hframes =>
      fits_of_inside hkept hframes (hinside m hm)) hm
    exact fits_of_inside hkept hframes (hinside m hm)
  · intro hfits m hm
    exact inside_of_kept hlz (kept_reached hlz (fun m hm _ => hfits m hm) hm) (hfits m hm)

def turns (lz : Lz4) : ℕ → BsPatch → Option BsPatch
  | 0, m => some m
  | n + 1, m =>
    if (iterate lz m).1 = .operationDoneImmediately ∧
        isPatchingDone (iterate lz m).2.stream = false then turns lz n (iterate lz m).2
    else none

theorem reached_turns {n : ℕ} {m' : BsPatch} (h : Reached lz mem p old m)
    (ht : turns lz n m = some m') : Reached lz mem p old m' := by
  induction n generalizing m with
  | zero => exact Option.some_inj.mp ht ▸ h
  | succ n ih =>
    rw [turns] at ht
    split_ifs at ht with hgoes
    exact ih (.loop h hgoes.1 hgoes.2) ht

theorem bounded_literals : Bounded Lz4.literals := by
  intro body size text h
  unfold Lz4.literals at h
  cases body with
  | nil => cases h
  | cons token rest =>
    dsimp only at h
    split_ifs at h with hfits
    exact Option.some_inj.mp h ▸ hfits.2

def wrapping : List Byte :=
  fileMagic ++ [1, 0, 0, 0, 0, 0, 0, 0] ++ [0, 0, 0, 0x80, 0, 0, 0, 0] ++
    [0, 0, 0, 0x80, 0, 0, 0, 0] ++ [1, 0, 0, 1, 0x10]

theorem wrapping_frames :
    (turns Lz4.literals 15 ⟨{ init .inRam with expectedExternalEvent := none }, ⟨wrapping, [], 0, []⟩,
      Stream'.const .immediately⟩).any (fun m => Frames m.stream ∧ ¬ Fits m.stream) = true := by
  decide +kernel

theorem memory_kept_wrapping :
    ¬ ∀ m, Reached .literals .inRam wrapping [] m →
      ∀ a ∈ accesses .literals m.stream, Inside m.stream a := by
  intro hinside
  have hfits := (memory_kept_iff .literals .inRam wrapping [] bounded_literals).mp hinside
  obtain ⟨m, hm, hframes⟩ := (Option.any_eq_true _ _).mp wrapping_frames
  obtain ⟨hframes, hwraps⟩ := of_decide_eq_true hframes
  exact hwraps (hfits m (reached_turns (.start _) hm) hframes)

end Runs

end SlcNode.PatchMemory
