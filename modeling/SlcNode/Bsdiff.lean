import Mathlib.Data.List.Count
import SlcNode.Bspatch

namespace SlcNode.Bsdiff

def matchlen : List Byte → List Byte → ℕ
  | a :: old, b :: new => if a ≠ b then 0 else matchlen old new + 1
  | _, _ => 0

/-- `memcmp(old, new, MIN(oldsize, newsize)) < 0`. -/
def memcmpLt : List Byte → List Byte → Bool
  | a :: old, b :: new => if a = b then memcmpLt old new else decide (a < b)
  | _, _ => false

section Request

structure BsdiffRequest where
  old : List Byte
  new : List Byte
  I : ℕ → ℕ

variable (req : BsdiffRequest)

def search (new : List Byte) (st en : ℕ) : ℕ × ℕ :=
  if en - st < 2 then
    let x := matchlen (req.old.drop (req.I st)) new
    let y := matchlen (req.old.drop (req.I en)) new
    if x > y then (x, req.I st) else (y, req.I en)
  else
    let x := st + (en - st) / 2
    if memcmpLt (req.old.drop (req.I x)) new then search new x en else search new st x
termination_by en - st

def sameAsLast (lastoffset : ℤ) (k : ℕ) : Bool :=
  decide (k + lastoffset < req.old.length) &&
    req.old.getD (k + lastoffset).toNat 0 == req.new.getD k 0

def gained (lastoffset : ℤ) (scsc stop : ℕ) : ℕ :=
  (List.range' scsc (stop - scsc)).countP (sameAsLast req lastoffset)

structure Scan where
  scan : ℕ
  len : ℕ
  pos : ℕ
  oldscore : ℤ

def scanLoop (lastoffset : ℤ) (scsc : ℕ) (s : Scan) : Scan :=
  if s.scan < req.new.length then
    let (len, pos) := search req (req.new.drop s.scan) 0 req.old.length
    let oldscore := s.oldscore + gained req lastoffset scsc (s.scan + len)
    if ((len : ℤ) = oldscore ∧ len ≠ 0) ∨ (len : ℤ) > oldscore + 8 then
      ⟨s.scan, len, pos, oldscore⟩
    else
      scanLoop lastoffset (max scsc (s.scan + len))
        ⟨s.scan + 1, len, pos,
          if sameAsLast req lastoffset s.scan then oldscore - 1 else oldscore⟩
  else s
termination_by req.new.length - s.scan

structure Best where
  s : ℤ
  S : ℤ
  len : ℕ

def payOff (same : ℕ → Bool) (b : Best) (i : ℕ) : Best :=
  let s := if same i then b.s + 1 else b.s
  if s * 2 - (i + 1 : ℕ) > b.S * 2 - b.len then ⟨s, s, i + 1⟩ else { b with s := s }

/-- How far an extension pays off: the first length where twice the equal bytes exceed it most. -/
def extent (same : ℕ → Bool) (limit : ℕ) : ℕ :=
  ((List.range limit).foldl (payOff same) ⟨0, 0, 0⟩).len

def splitOff (gain : ℕ → ℤ) (b : Best) (i : ℕ) : Best :=
  let s := b.s + gain i
  if s > b.S then ⟨s, s, i + 1⟩ else { b with s := s }

def overlapLens (gain : ℕ → ℤ) (overlap : ℕ) : ℕ :=
  ((List.range overlap).foldl (splitOff gain) ⟨0, 0, 0⟩).len

structure BsdiffStream where
  written : List Byte
  maxDeCompressBufferSize : ℕ

def writeFrames (lz : Lz4) (maxFrameSize : ℕ) : ℕ → List Byte → BsdiffStream → Option BsdiffStream
  | _, [], stream => some stream
  | 0, _ :: _, _ => none
  | fuel + 1, b :: buffer, stream =>
    let (srcPtr, temp) := lz.compressDestSize ((b :: buffer).take maxFrameSize) maxFrameSize
    if temp.length = 0 then none
    else
      match VarInt.encodeUnsignedVarint (BitVec.ofNat 64 temp.length) 8 with
      | none => none
      | some buf =>
        writeFrames lz maxFrameSize fuel ((b :: buffer).drop srcPtr)
          { written := stream.written ++ (buf ++ temp)
            maxDeCompressBufferSize := max stream.maxDeCompressBufferSize temp.length }

def writeDeCompressBuffer (lz : Lz4) (maxFrameSize : ℕ) (buffer : List Byte)
    (stream : BsdiffStream) : Option BsdiffStream :=
  writeFrames lz maxFrameSize buffer.length buffer stream

structure Extents where
  lenf : ℕ
  lenb : ℕ

def extents (lastscan lastpos scan pos : ℕ) : Extents :=
  let lenf := extent
    (fun i => req.old.getD (lastpos + i) 0 == req.new.getD (lastscan + i) 0)
    (min (scan - lastscan) (req.old.length - lastpos))
  let lenb :=
    if scan < req.new.length then
      extent (fun i => req.old.getD (pos - (i + 1)) 0 == req.new.getD (scan - (i + 1)) 0)
        (min (scan - lastscan) pos)
    else 0
  if lastscan + lenf > scan - lenb then
    let overlap := (lastscan + lenf) - (scan - lenb)
    let lens := overlapLens
      (fun i =>
        (if req.new.getD (lastscan + lenf - overlap + i) 0 =
          req.old.getD (lastpos + lenf - overlap + i) 0 then 1 else 0) -
        (if req.new.getD (scan - lenb + i) 0 = req.old.getD (pos - lenb + i) 0 then 1 else 0))
      overlap
    ⟨lenf + lens - overlap, lenb - lens⟩
  else ⟨lenf, lenb⟩

def writeSegment (lz : Lz4) (maxFrameSize lastscan lastpos scan pos : ℕ) (e : Extents)
    (stream : BsdiffStream) : Option BsdiffStream := do
  let extraStrLenY := (scan - e.lenb) - (lastscan + e.lenf)
  let oldFileCtrlOffSetJump : ℤ := ((pos - e.lenb : ℕ) : ℤ) - (lastpos + e.lenf : ℕ)
  let x ← VarInt.encodeUnsignedVarint (BitVec.ofNat 64 e.lenf) 8
  let y ← VarInt.encodeUnsignedVarint (BitVec.ofNat 64 extraStrLenY) 8
  let z ← VarInt.encodeSignedVarint (BitVec.ofInt 64 oldFileCtrlOffSetJump) 8
  let diff := (List.range e.lenf).map fun i =>
    req.new.getD (lastscan + i) 0 - req.old.getD (lastpos + i) 0
  let extra := (List.range extraStrLenY).map fun i => req.new.getD (lastscan + e.lenf + i) 0
  let stream ← writeDeCompressBuffer lz maxFrameSize diff
    { stream with written := stream.written ++ (x ++ (y ++ z)) }
  writeDeCompressBuffer lz maxFrameSize extra stream

structure Progress where
  scan : ℕ
  len : ℕ
  pos : ℕ
  lastscan : ℕ
  lastpos : ℕ
  lastoffset : ℤ

def diffLoop (lz : Lz4) (maxFrameSize : ℕ) : ℕ → Progress → BsdiffStream → Option BsdiffStream
  | 0, _, _ => none
  | fuel + 1, p, stream =>
    if p.scan < req.new.length then
      let start := p.scan + p.len
      let s := scanLoop req p.lastoffset start ⟨start, p.len, p.pos, 0⟩
      if (s.len : ℤ) ≠ s.oldscore ∨ s.scan = req.new.length then
        let e := extents req p.lastscan p.lastpos s.scan s.pos
        match writeSegment req lz maxFrameSize p.lastscan p.lastpos s.scan s.pos e stream with
        | none => none
        | some stream =>
          diffLoop lz maxFrameSize fuel
            ⟨s.scan, s.len, s.pos, s.scan - e.lenb, s.pos - e.lenb, (s.pos : ℤ) - s.scan⟩ stream
      else
        diffLoop lz maxFrameSize fuel
          ⟨s.scan, s.len, s.pos, p.lastscan, p.lastpos, p.lastoffset⟩ stream
    else some stream

end Request

def offtout (x : ℤ) : List Byte :=
  let buf := LittleEndian.bytes 8 x.natAbs
  if x < 0 then buf.modify 7 (· ||| 0x80) else buf

def bsdiff (lz : Lz4) (maxFrameSize : ℕ) (req : BsdiffRequest) : Option (List Byte) :=
  (diffLoop req lz maxFrameSize (req.new.length + 2) ⟨0, 0, 0, 0, 0, 0⟩ ⟨[], 0⟩).map fun stream =>
    Bspatch.fileMagic ++ (offtout req.new.length ++ (offtout maxFrameSize ++
      (offtout stream.maxDeCompressBufferSize ++ stream.written)))

end SlcNode.Bsdiff
