import Mathlib.Data.Stream.Defs
import SlcNode.VarInt

namespace SlcNode

/-- The states of the patching; `zero` is none of them, as `memset` leaves it. -/
inductive BsPatchState
  | zero
  | initial
  | initialPatchReadDone
  | allocWorkingBuffer
  | readInitialHeader
  | readControlSegmentHeader
  | readControlSegment
  | readDataSegment
  | readHeaderPiece
  | processSinglePiece
  | processSinglePieceContinue
  | processSinglePieceInit
  | processSinglePieceContinue2
  | writePart
  | postActions
  | processExtraLen
  | processExtraLenReadHeader
  | processExtraLenSingleItem
  | processExtraLenSingleItemContinue
  | processExtraLenSingleItemContinuePostStep
  | processExtraLenPostStep
  | readFrameLen
  | readFrameLenPieceRead
  | readVarintPiece
  | readCtrlDiffStrLen
  | readCtrlExtraStrLenY
  | readCtrlOldFileCtrlOffSetJump
  | processVarintPiece
deriving DecidableEq, Repr

inductive BsPatchApiEvent
  | startPatchProcessing
  | readPatchDone
  | readOldDone
  | seekOldDone
  | writeNewDone
deriving DecidableEq, Repr

inductive BsPatchApiReturnCode
  | errInvalidState
  | errUnexpectedEvent
  | errAlreadyInit
  | errOutOfMemory
  | errParameters
  | errFileIo
  | errCorruptedPatch
  | operationDoneImmediately
  | patchDone
  | patchReadWillCompleteLater
  | oldFileReadWillCompleteLater
  | oldFileSeekWillCompleteLater
  | newFileWriteWillCompleteLater
deriving DecidableEq, Repr

def BsPatchApiReturnCode.completion : BsPatchApiReturnCode → Option BsPatchApiEvent
  | .patchReadWillCompleteLater => some .readPatchDone
  | .oldFileReadWillCompleteLater => some .readOldDone
  | .oldFileSeekWillCompleteLater => some .seekOldDone
  | .newFileWriteWillCompleteLater => some .writeNewDone
  | _ => none

/-- LZ4: how much of the text fits in the given size, with the bytes for it, and the text of the
bytes if it fits in the given size. -/
structure Lz4 where
  compressDestSize : List Byte → ℕ → ℕ × List Byte
  decompressSafe : List Byte → ℕ → Option (List Byte)

def Lz4.literals : Lz4 where
  compressDestSize src _ :=
    let n := min src.length 14
    (n, BitVec.ofNat 8 (16 * n) :: src.take n)
  decompressSafe body size :=
    match body with
    | [] => none
    | token :: text =>
      if text.length = token.toNat / 16 ∧ text.length ≤ size then some text else none

/-- Where `bsMemoryBuffer` lies, an array of `int64_t` in a 32-bit address space: the stream, which
ends with it and the `allignmentBuffer`, is padded to 8 bytes. -/
structure BsMemoryBuffer where
  address : BitVec 32
  aligned : address.toNat % 8 = 0
  inside : address.toNat + 1040 < 2 ^ 32

def BsMemoryBuffer.inRam : BsMemoryBuffer := ⟨0x20000000, by decide, by decide⟩

/-- What one buffer held before its last transfer is never read again, so each is what the last
transfer brought. -/
structure BspatchStream where
  bsMemoryBuffer : BsMemoryBuffer
  undeCompressBufferLen : ℕ
  totalUndeCompressBuffer : ℕ
  varInt : BitVec 64
  varIntLen : ℕ
  frameLen : BitVec 64
  newpos : ℤ
  i : ℕ
  diffStrLenX : ℤ
  extraStrLenY : ℤ
  oldFileCtrlOffSetJump : ℤ
  nonCompressedDataBuffer : List Byte
  bufferForCompressedData : List Byte
  newSize : BitVec 32
  maxCompressedDataBuffer : BitVec 32
  maxDeCompressBuffer : BitVec 32
  readRequestSize : ℕ
  header : List Byte
  nextState : BsPatchState
  expectedExternalEvent : Option BsPatchApiEvent
  stateAfterReadVarInt : BsPatchState
  isSignedVarInt : Bool

inductive Completion
  | immediately
  | later
  | error
deriving DecidableEq

structure PatchFiles where
  patch : List Byte
  old : List Byte
  oldPos : ℤ
  new : List Byte
deriving DecidableEq

structure BsPatch where
  stream : BspatchStream
  files : PatchFiles
  completions : Stream' Completion

namespace Bspatch

def fileMagic : List Byte :=
  [0x50, 0x45, 0x4c, 0x49, 0x4f, 0x4e, 0x2f, 0x42, 0x53, 0x44, 0x49, 0x46, 0x46, 0x30, 0x30, 0x31]

def fileHeaderLen : ℕ := fileMagic.length + 24

def compileTimeMemoryAlloc : BitVec 32 := 1024

def offtin (buf : List Byte) : ℤ :=
  let y : ℤ := [6, 5, 4, 3, 2, 1, 0].foldl (fun y k => y * 256 + (buf.getD k 0).toNat)
    ((buf.getD 7 0 &&& 0x7f).toNat : ℤ)
  if buf.getD 7 0 &&& 0x80 ≠ 0 then -y else y

def init (mem : BsMemoryBuffer) : BspatchStream where
  bsMemoryBuffer := mem
  undeCompressBufferLen := 0
  totalUndeCompressBuffer := 0
  varInt := 0
  varIntLen := 0
  frameLen := 0
  newpos := 0
  i := 0
  diffStrLenX := 0
  extraStrLenY := 0
  oldFileCtrlOffSetJump := 0
  nonCompressedDataBuffer := []
  bufferForCompressedData := []
  newSize := 0
  maxCompressedDataBuffer := 0
  maxDeCompressBuffer := 0
  readRequestSize := 0
  header := []
  nextState := .initial
  expectedExternalEvent := some .startPatchProcessing
  stateAfterReadVarInt := .zero
  isSignedVarInt := false

/-- `setExpectedExternalEventByState`; the macros around it set the state even after an error. -/
def waitFor (status : BsPatchApiReturnCode) (nextState : BsPatchState) (event : BsPatchApiEvent)
    (s : BspatchStream) : BspatchStream :=
  { s with
    nextState := nextState
    expectedExternalEvent :=
      match status with
      | .operationDoneImmediately => none
      | .patchReadWillCompleteLater | .oldFileReadWillCompleteLater
      | .oldFileSeekWillCompleteLater | .newFileWriteWillCompleteLater => some event
      | _ => s.expectedExternalEvent }

def answer (later : BsPatchApiReturnCode) : Completion → BsPatchApiReturnCode
  | .immediately => .operationDoneImmediately
  | .later => later
  | .error => .errFileIo

def readPatch (length : ℕ) (store : List Byte → BspatchStream → BspatchStream)
    (nextState : BsPatchState) (m : BsPatch) : BsPatchApiReturnCode × BsPatch :=
  let status :=
    if length ≤ m.files.patch.length then answer .patchReadWillCompleteLater m.completions.head
    else .errFileIo
  (status,
    { stream := waitFor status nextState .readPatchDone
        (store (m.files.patch.take length) m.stream)
      files := { m.files with patch := m.files.patch.drop length }
      completions := m.completions.tail })

def readOld (length : ℕ) (nextState : BsPatchState) (m : BsPatch) :
    BsPatchApiReturnCode × BsPatch :=
  let status :=
    if 0 ≤ m.files.oldPos ∧ m.files.oldPos + length ≤ m.files.old.length then
      answer .oldFileReadWillCompleteLater m.completions.head
    else .errFileIo
  (status,
    { stream := waitFor status nextState .readOldDone
        { m.stream with
          bufferForCompressedData := (m.files.old.drop m.files.oldPos.toNat).take length }
      files := { m.files with oldPos := m.files.oldPos + length }
      completions := m.completions.tail })

def seekOld (seekDiff : ℤ) (nextState : BsPatchState) (m : BsPatch) :
    BsPatchApiReturnCode × BsPatch :=
  let status := answer .oldFileSeekWillCompleteLater m.completions.head
  (status,
    { stream := waitFor status nextState .seekOldDone m.stream
      files := { m.files with oldPos := m.files.oldPos + seekDiff }
      completions := m.completions.tail })

def writeNew (buffer : List Byte) (nextState : BsPatchState) (m : BsPatch) :
    BsPatchApiReturnCode × BsPatch :=
  let status := answer .newFileWriteWillCompleteLater m.completions.head
  (status,
    { stream := waitFor status nextState .writeNewDone m.stream
      files := { m.files with new := m.files.new ++ buffer }
      completions := m.completions.tail })

def toHeader (data : List Byte) (s : BspatchStream) : BspatchStream := { s with header := data }

def toNonCompressed (data : List Byte) (s : BspatchStream) : BspatchStream :=
  { s with nonCompressedDataBuffer := data }

def toCompressed (data : List Byte) (s : BspatchStream) : BspatchStream :=
  { s with bufferForCompressedData := data }

def uint32Max : ℤ := 4294967295

/-- Both sizes of the working buffers are read at the same place of the header. -/
def readInitialHeader (s : BspatchStream) : BsPatchApiReturnCode × BspatchStream :=
  if s.header.take fileMagic.length ≠ fileMagic then (.errCorruptedPatch, s)
  else
    let newSize64 := offtin (s.header.drop fileMagic.length)
    if newSize64 < 0 ∨ newSize64 > uint32Max then (.errCorruptedPatch, s)
    else
      let s := { s with newSize := BitVec.ofInt 32 newSize64 }
      let maxCompressDataBuffer64 := offtin (s.header.drop (fileMagic.length + 8))
      if maxCompressDataBuffer64 < 0 ∨ maxCompressDataBuffer64 > uint32Max then
        (.errCorruptedPatch, s)
      else
        let s := { s with maxCompressedDataBuffer := BitVec.ofInt 32 maxCompressDataBuffer64 }
        let maxDeCompressBuffer64 := offtin (s.header.drop (fileMagic.length + 8))
        if maxDeCompressBuffer64 < 0 ∨ maxDeCompressBuffer64 > uint32Max then
          (.errCorruptedPatch, s)
        else
          let s := { s with maxDeCompressBuffer := BitVec.ofInt 32 maxDeCompressBuffer64 }
          if s.maxDeCompressBuffer > s.maxCompressedDataBuffer ∨ s.maxCompressedDataBuffer < 64 ∨
              s.maxDeCompressBuffer < 1 then (.errCorruptedPatch, s)
          else (.operationDoneImmediately, s)

def allignTo8ByteBoundary (address : BitVec 64) : BitVec 64 :=
  if address % 8 ≠ 0 then address + (8 - address % 8) else address

def compressedAddress (s : BspatchStream) : BitVec 32 :=
  let address := s.bsMemoryBuffer.address + s.maxCompressedDataBuffer
  (allignTo8ByteBoundary (address.setWidth 64)).setWidth 32

/-- Sizes and addresses are added in 32 bits. -/
def allocWorkingBuffers (s : BspatchStream) : BsPatchApiReturnCode :=
  if compileTimeMemoryAlloc < s.maxCompressedDataBuffer + s.maxDeCompressBuffer then .errOutOfMemory
  else if compressedAddress s + s.maxDeCompressBuffer > s.bsMemoryBuffer.address + 1040 then
    .errOutOfMemory
  else .operationDoneImmediately

def readVarIntEventified (isSigned : Bool) (s : BspatchStream) :
    BsPatchApiReturnCode × BspatchStream :=
  let b := s.nonCompressedDataBuffer.getD 0 0
  let (op, varInt) :=
    if isSigned then VarInt.decodeSignedVarint b s.varInt s.varIntLen
    else VarInt.decodeUnsignedVarint b s.varInt s.varIntLen
  let s := { s with varInt := varInt, varIntLen := s.varIntLen + 1 }
  let status : BsPatchApiReturnCode ⊕ VarIntOpCode :=
    if s.varIntLen ≥ 8 ∨ op = .errParameters then .inl .errCorruptedPatch else .inr op
  match status with
  | .inr .operationNeedsMoreData =>
    (.operationDoneImmediately, { s with nextState := .readVarintPiece })
  | .inl code => (code, { s with
      varIntLen := 0, nextState := s.stateAfterReadVarInt, stateAfterReadVarInt := .zero })
  | .inr _ => (.operationDoneImmediately, { s with
      varIntLen := 0, nextState := s.stateAfterReadVarInt, stateAfterReadVarInt := .zero })

def readDeCompressBuffer (nextState : BsPatchState) (m : BsPatch) :
    BsPatchApiReturnCode × BsPatch :=
  let frameLen := m.stream.varInt
  let m := { m with stream := { m.stream with frameLen := frameLen } }
  if frameLen.toInt > m.stream.maxDeCompressBuffer.toNat then
    (.errCorruptedPatch, { m with
      stream := waitFor .errCorruptedPatch nextState .readPatchDone m.stream })
  else readPatch frameLen.toNat toCompressed nextState m

def readDeCompressBufferProcess (lz : Lz4) (s : BspatchStream) :
    BsPatchApiReturnCode × BspatchStream :=
  match lz.decompressSafe s.bufferForCompressedData s.maxCompressedDataBuffer.toNat with
  | some data =>
    (if 0 < data.length then .operationDoneImmediately else .errCorruptedPatch,
      { s with nonCompressedDataBuffer := data, undeCompressBufferLen := data.length })
  | none => (.errCorruptedPatch, s)

def addOld (s : BspatchStream) : List Byte :=
  (List.range s.readRequestSize).map fun k =>
    s.bufferForCompressedData.getD k 0 + s.nonCompressedDataBuffer.getD (s.i + k) 0

def isPatchingDone (s : BspatchStream) : Bool :=
  decide (s.newSize ≠ 0) && decide (s.newpos ≥ s.newSize.toNat)

def setNextState (nextState : BsPatchState) (s : BspatchStream) : BspatchStream :=
  { s with nextState := nextState }

def onState (lz : Lz4) (state : BsPatchState) (m : BsPatch) : BsPatchApiReturnCode × BsPatch :=
  let s := m.stream
  let ok (s : BspatchStream) : BsPatchApiReturnCode × BsPatch :=
    (.operationDoneImmediately, { m with stream := s })
  match state with
  | .initial =>
    if s.newSize = 0 then readPatch fileHeaderLen toHeader .initialPatchReadDone m
    else (.errAlreadyInit, { m with
      stream := waitFor .errAlreadyInit .initialPatchReadDone .readPatchDone s })
  | .initialPatchReadDone =>
    let (status, s) := readInitialHeader s
    (status, { m with stream := setNextState .allocWorkingBuffer s })
  | .allocWorkingBuffer =>
    (allocWorkingBuffers s, { m with stream := setNextState .readControlSegmentHeader s })
  | .readControlSegmentHeader => ok (setNextState .readControlSegment s)
  | .readControlSegment => ok (setNextState .readCtrlDiffStrLen s)
  | .readCtrlDiffStrLen =>
    readPatch 1 toNonCompressed .processVarintPiece { m with
      stream := { s with stateAfterReadVarInt := .readCtrlExtraStrLenY, isSignedVarInt := false } }
  | .readCtrlExtraStrLenY =>
    readPatch 1 toNonCompressed .processVarintPiece { m with
      stream := { s with
        diffStrLenX := s.varInt.toInt
        stateAfterReadVarInt := .readCtrlOldFileCtrlOffSetJump
        isSignedVarInt := false } }
  | .readCtrlOldFileCtrlOffSetJump =>
    readPatch 1 toNonCompressed .processVarintPiece { m with
      stream := { s with
        extraStrLenY := s.varInt.toInt
        stateAfterReadVarInt := .readDataSegment
        isSignedVarInt := true } }
  | .readDataSegment =>
    let s := { s with oldFileCtrlOffSetJump := s.varInt.toInt }
    let status : BsPatchApiReturnCode :=
      if s.newpos + s.diffStrLenX > (s.newSize.toNat : ℤ) then .errCorruptedPatch
      else .operationDoneImmediately
    (status, { m with
      stream :=
        if s.diffStrLenX > 0 then
          setNextState .readHeaderPiece { s with totalUndeCompressBuffer := 0 }
        else setNextState .processExtraLen s })
  | .readHeaderPiece =>
    ok (setNextState .readFrameLen { s with stateAfterReadVarInt := .processSinglePiece })
  | .readFrameLen =>
    readPatch 1 toNonCompressed .processVarintPiece { m with
      stream := { s with isSignedVarInt := false } }
  | .readVarintPiece => readPatch 1 toNonCompressed .processVarintPiece m
  | .processVarintPiece =>
    let (status, s) := readVarIntEventified s.isSignedVarInt s
    (status, { m with stream := s })
  | .processSinglePiece => readDeCompressBuffer .processSinglePieceContinue m
  | .processSinglePieceContinue =>
    let (status, s) := readDeCompressBufferProcess lz s
    (status, { m with stream := setNextState .processSinglePieceInit s })
  | .processSinglePieceInit => ok (setNextState .processSinglePieceContinue2 { s with i := 0 })
  | .processSinglePieceContinue2 =>
    if s.i < s.undeCompressBufferLen then
      let dataLeft := s.undeCompressBufferLen - s.i
      let size :=
        if s.maxDeCompressBuffer.toNat ≤ dataLeft then s.maxDeCompressBuffer.toNat else dataLeft
      readOld size .writePart { m with stream := { s with readRequestSize := size } }
    else ok (setNextState .postActions s)
  | .writePart =>
    let newBytes := addOld s
    writeNew newBytes .processSinglePieceContinue2 { m with
      stream := { s with bufferForCompressedData := newBytes, i := s.i + s.readRequestSize } }
  | .postActions =>
    let s :=
      { s with totalUndeCompressBuffer := s.totalUndeCompressBuffer + s.undeCompressBufferLen }
    if (s.totalUndeCompressBuffer : ℤ) < s.diffStrLenX then ok (setNextState .readHeaderPiece s)
    else ok (setNextState .processExtraLen { s with newpos := s.newpos + s.diffStrLenX })
  | .processExtraLen =>
    if s.newpos + s.extraStrLenY > (s.newSize.toNat : ℤ) then (.errCorruptedPatch, m)
    else if s.extraStrLenY > 0 then
      ok (setNextState .processExtraLenReadHeader { s with totalUndeCompressBuffer := 0 })
    else ok (setNextState .processExtraLenPostStep s)
  | .processExtraLenReadHeader =>
    ok (setNextState .readFrameLen { s with stateAfterReadVarInt := .processExtraLenSingleItem })
  | .processExtraLenSingleItem => readDeCompressBuffer .processExtraLenSingleItemContinue m
  | .processExtraLenSingleItemContinue =>
    match readDeCompressBufferProcess lz s with
    | (.operationDoneImmediately, s) =>
      writeNew s.nonCompressedDataBuffer .processExtraLenSingleItemContinuePostStep
        { m with stream := s }
    | (status, s) => (status, { m with
        stream := waitFor status .processExtraLenSingleItemContinuePostStep .writeNewDone s })
  | .processExtraLenSingleItemContinuePostStep =>
    let s :=
      { s with totalUndeCompressBuffer := s.totalUndeCompressBuffer + s.undeCompressBufferLen }
    if (s.totalUndeCompressBuffer : ℤ) < s.extraStrLenY then
      ok (setNextState .processExtraLenReadHeader s)
    else ok (setNextState .processExtraLenPostStep s)
  | .processExtraLenPostStep =>
    seekOld s.oldFileCtrlOffSetJump .readControlSegmentHeader { m with
      stream := { s with newpos := s.newpos + s.extraStrLenY } }
  | .zero | .readInitialHeader | .readFrameLenPieceRead => (.errInvalidState, m)

def iterate (lz : Lz4) (m : BsPatch) : BsPatchApiReturnCode × BsPatch :=
  onState lz m.stream.nextState m

def processLoop (lz : Lz4) : ℕ → BsPatch → Option (BsPatchApiReturnCode × BsPatch)
  | 0, _ => none
  | fuel + 1, m =>
    let (status, m) := iterate lz m
    if isPatchingDone m.stream then some (.patchDone, m)
    else if status = .operationDoneImmediately then processLoop lz fuel m
    else some (status, m)

def processPatchEvent (lz : Lz4) (fuel : ℕ) (event : BsPatchApiEvent) (m : BsPatch) :
    Option (BsPatchApiReturnCode × BsPatch) :=
  if m.stream.expectedExternalEvent ≠ some event then some (.errUnexpectedEvent, m)
  else processLoop lz fuel { m with stream := { m.stream with expectedExternalEvent := none } }

def drive (lz : Lz4) : ℕ → BsPatchApiEvent → BsPatch → Option (BsPatchApiReturnCode × BsPatch)
  | 0, _, _ => none
  | fuel + 1, event, m =>
    match processPatchEvent lz fuel event m with
    | some (code, m) =>
      match code.completion with
      | some event => drive lz fuel event m
      | none => some (code, m)
    | none => none

def patch (lz : Lz4) (mem : BsMemoryBuffer) (fuel : ℕ) (patch old : List Byte)
    (completions : Stream' Completion) : Option (BsPatchApiReturnCode × BsPatch) :=
  drive lz fuel .startPatchProcessing ⟨init mem, ⟨patch, old, 0, []⟩, completions⟩

section Addresses

variable (s : BspatchStream)

theorem toNat_allignTo8ByteBoundary {a : BitVec 64} (h : a.toNat < 2 ^ 32) :
    (allignTo8ByteBoundary a).toNat = (a.toNat + 7) / 8 * 8 := by
  have hmod : (a % 8).toNat = a.toNat % 8 := BitVec.toNat_umod
  unfold allignTo8ByteBoundary
  split_ifs with hz
  · have hne : (a % 8).toNat ≠ 0 := fun h0 => hz (BitVec.eq_of_toNat_eq h0)
    rw [BitVec.toNat_add, BitVec.toNat_sub, hmod]
    change (a.toNat + (2 ^ 64 - a.toNat % 8 + 8) % 2 ^ 64) % 2 ^ 64 = _
    omega
  · have h0 : (a % 8).toNat = 0 := congrArg BitVec.toNat (not_not.mp hz)
    omega

theorem toNat_compressedAddress : (compressedAddress s).toNat =
    (s.bsMemoryBuffer.address.toNat + (s.maxCompressedDataBuffer.toNat + 7) / 8 * 8) % 2 ^ 32 := by
  have haligned := s.bsMemoryBuffer.aligned
  have hsize := s.maxCompressedDataBuffer.isLt
  have hlt := (s.bsMemoryBuffer.address + s.maxCompressedDataBuffer).isLt
  have hwide : ((s.bsMemoryBuffer.address + s.maxCompressedDataBuffer).setWidth 64).toNat =
      (s.bsMemoryBuffer.address + s.maxCompressedDataBuffer).toNat := by
    rw [BitVec.toNat_setWidth]
    omega
  unfold compressedAddress
  dsimp only
  rw [BitVec.toNat_setWidth, toNat_allignTo8ByteBoundary (by omega), hwide, BitVec.toNat_add]
  omega

/-- On buffers of one size the second test adds nothing: where the sum of the sizes wraps, so does
the address. -/
theorem allocWorkingBuffers_of_sizes (h : s.maxCompressedDataBuffer = s.maxDeCompressBuffer) :
    allocWorkingBuffers s =
      if compileTimeMemoryAlloc < s.maxCompressedDataBuffer + s.maxDeCompressBuffer then
        .errOutOfMemory
      else .operationDoneImmediately := by
  have hstart := toNat_compressedAddress s
  have hinside := s.bsMemoryBuffer.inside
  have hsize := s.maxDeCompressBuffer.isLt
  unfold allocWorkingBuffers
  split_ifs with hfirst hsecond
  · rfl
  · rw [BitVec.lt_def, BitVec.toNat_add, h] at hfirst
    rw [gt_iff_lt, BitVec.lt_def, BitVec.toNat_add, BitVec.toNat_add, hstart, h] at hsecond
    change ¬1024 < _ at hfirst
    change (_ + 1040) % 2 ^ 32 < _ at hsecond
    omega
  · rfl

end Addresses

end Bspatch

end SlcNode
