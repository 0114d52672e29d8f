import SlcNode.BsdiffScan
import SlcNode.PatchFormat

namespace SlcNode

structure Lz4.Faithful (lz : Lz4) : Prop where
  takes {src : List Byte} {size : ℕ} : src ≠ [] → 64 ≤ size →
    0 < (lz.compressDestSize src size).1 ∧ (lz.compressDestSize src size).1 ≤ src.length
  writes {src : List Byte} {size : ℕ} : src ≠ [] → 64 ≤ size →
    0 < (lz.compressDestSize src size).2.length ∧ (lz.compressDestSize src size).2.length ≤ size
  restores {src : List Byte} {size n : ℕ} : src ≠ [] → 64 ≤ size →
    (lz.compressDestSize src size).1 ≤ n →
    lz.decompressSafe (lz.compressDestSize src size).2 n =
      some (src.take (lz.compressDestSize src size).1)

namespace Bsdiff

open Bspatch

theorem numeral_unsigned {n : ℕ} (h : n < 2 ^ 49) :
    ∃ bs, VarInt.encodeUnsignedVarint (BitVec.ofNat 64 n) 8 = some bs ∧ Numeral bs n := by
  have hn : (BitVec.ofNat 64 n).toNat = n := by
    rw [BitVec.toNat_ofNat]
    exact Nat.mod_eq_of_lt (by omega)
  rw [VarInt.encodeUnsignedVarint_eq, hn]
  obtain ⟨bs, hbs⟩ := Base128.encode_of_lt (n := 8) (v := n) (by decide) (by omega)
  exact ⟨bs, hbs, Base128.whole_encode hbs,
    (Base128.length_encode_le (by decide) hbs).mpr h, Base128.value_encode hbs⟩

theorem numeral_signed {v : ℤ} (h : v.natAbs < 2 ^ 48) :
    ∃ bs, VarInt.encodeSignedVarint (BitVec.ofInt 64 v) 8 = some bs ∧
      Numeral bs (VarInt.zigzag v) := by
  have hv : (BitVec.ofInt 64 v).toInt = v := by
    rw [BitVec.toInt_ofInt]
    exact Int.bmod_eq_of_le (by omega) (by omega)
  have hz : VarInt.zigzag v < 2 ^ 49 := by
    unfold VarInt.zigzag
    split <;> omega
  rw [VarInt.encodeSignedVarint_eq (by rw [hv]; omega), hv]
  obtain ⟨bs, hbs⟩ := Base128.encode_of_lt (n := 8) (v := VarInt.zigzag v) (by decide) (by omega)
  exact ⟨bs, hbs, Base128.whole_encode hbs,
    (Base128.length_encode_le (by decide) hbs).mpr hz, Base128.value_encode hbs⟩

variable {lz : Lz4} {size : ℕ}

theorem writeFrames_framed (hlz : lz.Faithful) (hmin : 64 ≤ size) (hmax : size ≤ 512) {fuel : ℕ}
    {buffer : List Byte} (hfuel : buffer.length ≤ fuel) (stream : BsdiffStream) :
    ∃ stream' bytes, writeFrames lz size fuel buffer stream = some stream' ∧
      stream'.written = stream.written ++ bytes ∧ Framed lz size bytes buffer := by
  induction fuel generalizing buffer stream with
  | zero =>
    obtain rfl := List.length_eq_zero_iff.mp (Nat.le_zero.mp hfuel)
    exact ⟨stream, [], rfl, (List.append_nil _).symm, .nil⟩
  | succ fuel ih =>
    cases buffer with
    | nil => exact ⟨stream, [], rfl, (List.append_nil _).symm, .nil⟩
    | cons b buffer =>
      have hne : (b :: buffer).take size ≠ [] := by
        rw [ne_eq, List.take_eq_nil_iff]
        rintro (h | h)
        · omega
        · cases h
      have htakes := hlz.takes hne hmin
      have hwrites := hlz.writes hne hmin
      have hrestores := hlz.restores (n := size) hne hmin
      rw [List.length_take] at htakes
      rw [writeFrames]
      rcases hc : lz.compressDestSize ((b :: buffer).take size) size with ⟨srcPtr, temp⟩
      rw [hc] at htakes hwrites hrestores
      dsimp only at htakes hwrites hrestores ⊢
      obtain ⟨hd, henc, hnum⟩ := numeral_unsigned (by omega : temp.length < 2 ^ 49)
      have hleft : ((b :: buffer).drop srcPtr).length ≤ fuel := by
        rw [List.length_drop]
        omega
      obtain ⟨stream', bytes, hrest, hwritten, hframed⟩ := ih hleft
        { written := stream.written ++ (hd ++ temp)
          maxDeCompressBufferSize := max stream.maxDeCompressBufferSize temp.length }
      rw [if_neg (by omega), henc]
      refine ⟨stream', hd ++ (temp ++ bytes), hrest, ?_, ?_⟩
      · rw [hwritten]
        simp only [List.append_assoc]
      · have htext : ((b :: buffer).take size).take srcPtr = (b :: buffer).take srcPtr := by
          rw [List.take_take, min_eq_left (by omega)]
        have hrestored := hrestores (by omega)
        rw [htext] at hrestored
        have htook : ((b :: buffer).take srcPtr).length = srcPtr := by
          rw [List.length_take]
          omega
        have hframe := Framed.frame hnum hwrites.2 hrestored
          (List.ne_nil_of_length_pos (by omega)) (by omega) hframed
        rwa [List.take_append_drop] at hframe

theorem map_getD_eq {l : List Byte} {k n : ℕ} (h : k + n ≤ l.length) :
    ((List.range n).map fun i => l.getD (k + i) 0) = (l.drop k).take n := by
  apply List.ext_getElem
  · simp only [List.length_map, List.length_range, List.length_take, List.length_drop]
    omega
  · intro i hi hi'
    simp only [List.length_map, List.length_range] at hi
    have hlt : k + i < l.length := by omega
    simp [hlt]

theorem applied_diff {old new : List Byte} {lastpos lastscan n : ℕ} (hold : lastpos + n ≤ old.length)
    (hnew : lastscan + n ≤ new.length) :
    applied old lastpos ((List.range n).map fun i =>
      new.getD (lastscan + i) 0 - old.getD (lastpos + i) 0) = (new.drop lastscan).take n := by
  rw [applied, Int.toNat_natCast]
  apply List.ext_getElem
  · simp only [List.length_zipWith, List.length_map, List.length_range, List.length_take,
      List.length_drop]
    omega
  · intro i hi hi'
    simp only [List.length_take] at hi'
    have hlt : lastpos + i < old.length := by omega
    have hlt' : lastscan + i < new.length := by omega
    simp [hlt, hlt']

theorem take_append_drop_of_le {l : List Byte} {i k : ℕ} (h : i ≤ k) :
    (l.drop i).take (k - i) ++ l.drop k = l.drop i := by
  have hdrop : l.drop k = (l.drop i).drop (k - i) := by
    rw [List.drop_drop]
    congr 1
    omega
  rw [hdrop, List.take_append_drop]

variable {req : BsdiffRequest}

theorem writeSegment_segment (hlz : lz.Faithful) (hmin : 64 ≤ size) (hmax : size ≤ 512)
    (hold : req.old.length < 2 ^ 48) (hnew : req.new.length < 2 ^ 31)
    {lastscan lastpos scan pos : ℕ} {e : Extents} (he : Apart req lastscan lastpos scan pos e)
    (hscan : scan ≤ req.new.length) (hpos : pos ≤ req.old.length) (stream : BsdiffStream) :
    ∃ stream', ∃ g : Segment lz size,
      writeSegment req lz size lastscan lastpos scan pos e stream = some stream' ∧
        stream'.written = stream.written ++ g.bytes ∧
        lastpos + g.diff.length ≤ req.old.length ∧ g.next lastpos = (pos - e.lenb : ℕ) ∧
        g.text req.old lastpos = (req.new.drop lastscan).take (scan - e.lenb - lastscan) := by
  have happart := he.lenb_le_scan
  have hlenb := he.lenb_le_pos
  have hlenf := he.lenf_le
  set extraLen := (scan - e.lenb) - (lastscan + e.lenf) with hextraLen
  set jump : ℤ := ((pos - e.lenb : ℕ) : ℤ) - (lastpos + e.lenf : ℕ) with hjump
  set diff := (List.range e.lenf).map fun i =>
    req.new.getD (lastscan + i) 0 - req.old.getD (lastpos + i) 0 with hdiff
  set extra := (List.range extraLen).map fun i => req.new.getD (lastscan + e.lenf + i) 0
    with hextra
  have hdiffLen : diff.length = e.lenf := by rw [hdiff, List.length_map, List.length_range]
  have hextraLen' : extra.length = extraLen := by rw [hextra, List.length_map, List.length_range]
  obtain ⟨x, hx, hxn⟩ := numeral_unsigned (by omega : e.lenf < 2 ^ 49)
  obtain ⟨y, hy, hyn⟩ := numeral_unsigned (by omega : extraLen < 2 ^ 49)
  obtain ⟨z, hz, hzn⟩ := numeral_signed (by omega : jump.natAbs < 2 ^ 48)
  obtain ⟨s1, diffFrames, hs1, hw1, hf1⟩ := writeFrames_framed hlz hmin hmax
    (le_refl diff.length) { stream with written := stream.written ++ (x ++ (y ++ z)) }
  obtain ⟨s2, extraFrames, hs2, hw2, hf2⟩ := writeFrames_framed hlz hmin hmax
    (le_refl extra.length) s1
  have hwrite : writeSegment req lz size lastscan lastpos scan pos e stream = some s2 := by
    simp only [writeSegment, ← hextraLen, ← hjump, ← hdiff, ← hextra, hx, hy, hz,
      writeDeCompressBuffer, hs1, hs2, Option.bind_eq_bind, Option.bind_some]
  refine ⟨s2, ⟨diff, extra, jump, x, y, z, diffFrames, extraFrames, hdiffLen ▸ hxn,
    hextraLen' ▸ hyn, hzn, hf1, hf2⟩, hwrite, ?_, ?_, ?_, ?_⟩
  · rw [hw2, hw1]
    simp only [Segment.bytes, List.append_assoc]
  · dsimp only
    rw [hdiffLen]
    exact hlenf
  · rw [Segment.next]
    dsimp only
    omega
  · rw [Segment.text]
    dsimp only
    rw [hdiff, hextra, applied_diff hlenf (by omega), map_getD_eq (by omega),
      ← List.drop_drop, ← List.take_add]
    congr 1
    omega

structure Underway (req : BsdiffRequest) (p : Progress) : Prop where
  lastscan_le : p.lastscan ≤ p.scan
  scan_le : p.scan ≤ req.new.length
  pos_le : p.pos ≤ req.old.length
  lastpos_le : p.lastpos ≤ req.old.length
  reach_le : p.scan < req.new.length → p.scan + p.len ≤ req.new.length
  at_end : p.scan = req.new.length → p.lastscan = req.new.length

def Fueled (req : BsdiffRequest) (p : Progress) (fuel : ℕ) : Prop :=
  1 ≤ fuel ∧ (p.scan < req.new.length → req.new.length + 2 ≤ p.scan + p.len + fuel)

theorem diffLoop_describes (hlz : lz.Faithful) (hI : req.TableInside) (hmin : 64 ≤ size)
    (hmax : size ≤ 512) (hold : req.old.length < 2 ^ 48) (hnew : req.new.length < 2 ^ 31)
    {fuel : ℕ} {p : Progress} (hp : Underway req p) (hfuel : Fueled req p fuel)
    (stream : BsdiffStream) :
    ∃ stream' bytes, diffLoop req lz size fuel p stream = some stream' ∧
      stream'.written = stream.written ++ bytes ∧
      Describes lz size req.old p.lastpos bytes (req.new.drop p.lastscan) := by
  induction fuel generalizing p stream with
  | zero => exact absurd hfuel.1 (by decide)
  | succ fuel ih =>
    rw [diffLoop]
    by_cases hlt : p.scan < req.new.length
    · rw [if_pos hlt]
      have hreach := hp.reach_le hlt
      have hs : Scanned req _ (scanLoop req p.lastoffset (p.scan + p.len) _) :=
        scanLoop_scanned (s := ⟨p.scan + p.len, p.len, p.pos, 0⟩) hI (zero_add _) hreach hp.pos_le
      dsimp only at hs ⊢
      generalize scanLoop req p.lastoffset (p.scan + p.len) _ = s at hs ⊢
      have hstart := hs.start_le
      have hlast := hp.lastscan_le
      have hend := hfuel.2 hlt
      split
      · have he : Apart req p.lastscan p.lastpos s.scan s.pos _ :=
          extents_apart (by omega) hs.scan_le hp.lastpos_le
        obtain ⟨s1, g, hwrite, hw, hle, hnext, htext⟩ := writeSegment_segment hlz hmin hmax hold hnew
          he hs.scan_le hs.pos_le stream
        rw [hwrite]
        dsimp only
        have hlenb := he.lenb_le_scan
        have hpos := he.lenb_le_pos
        have hnextUp : Underway req ⟨s.scan, s.len, s.pos,
            s.scan - (extents req p.lastscan p.lastpos s.scan s.pos).lenb,
            s.pos - (extents req p.lastscan p.lastpos s.scan s.pos).lenb,
            (s.pos : ℤ) - s.scan⟩ :=
          ⟨Nat.sub_le _ _, hs.scan_le, hs.pos_le, (Nat.sub_le _ _).trans hs.pos_le, hs.reach_le,
            fun h => by dsimp only at h ⊢; rw [he.at_end h, h, Nat.sub_zero]⟩
        obtain ⟨s2, bytes, hrest, hw2, hdesc⟩ := ih hnextUp ⟨by omega, fun h => by
          have hlen := hs.len_pos h
          dsimp only
          omega⟩ s1
        refine ⟨s2, g.bytes ++ bytes, hrest, ?_, ?_⟩
        · rw [hw2, hw, List.append_assoc]
        · have hseg := Describes.segment g (Int.natCast_nonneg p.lastpos) (by exact_mod_cast hle)
            (by rw [hnext]; exact hdesc)
          rw [htext, take_append_drop_of_le (by omega)] at hseg
          exact hseg
      · next hno =>
        obtain ⟨hlen, hne⟩ := not_or.mp hno
        have hlt' : s.scan < req.new.length := lt_of_le_of_ne hs.scan_le hne
        have hpos := hs.len_pos hlt'
        have hnextUp : Underway req
            ⟨s.scan, s.len, s.pos, p.lastscan, p.lastpos, p.lastoffset⟩ :=
          ⟨by dsimp only; omega, hs.scan_le, hs.pos_le, hp.lastpos_le, hs.reach_le,
            fun h => absurd h hne⟩
        exact ih hnextUp ⟨by omega, fun _ => by dsimp only; omega⟩ stream
    · rw [if_neg hlt]
      have hlast := hp.at_end (le_antisymm hp.scan_le (not_lt.mp hlt))
      refine ⟨stream, [], rfl, (List.append_nil _).symm, ?_⟩
      rw [hlast, List.drop_length]
      exact .nil

end Bsdiff

end SlcNode
