import SlcNode.Bspatch

namespace SlcNode.Bspatch

structure Numeral (bs : List Byte) (n : ℕ) : Prop where
  whole : Base128.Whole bs
  length_le : bs.length ≤ 7
  value : Base128.value bs = n

inductive Framed (lz : Lz4) (size : ℕ) : List Byte → List Byte → Prop
  | nil : Framed lz size [] []
  | frame {len body text rest more : List Byte} : Numeral len body.length →
      body.length ≤ size → lz.decompressSafe body size = some text → text ≠ [] →
      text.length ≤ size → Framed lz size rest more →
      Framed lz size (len ++ (body ++ rest)) (text ++ more)

def applied (old : List Byte) (pos : ℤ) (diff : List Byte) : List Byte :=
  List.zipWith (· + ·) (old.drop pos.toNat) diff

structure Segment (lz : Lz4) (size : ℕ) where
  diff : List Byte
  extra : List Byte
  jump : ℤ
  diffLen : List Byte
  extraLen : List Byte
  jumpBytes : List Byte
  diffFrames : List Byte
  extraFrames : List Byte
  diffLen_numeral : Numeral diffLen diff.length
  extraLen_numeral : Numeral extraLen extra.length
  jump_numeral : Numeral jumpBytes (VarInt.zigzag jump)
  diff_framed : Framed lz size diffFrames diff
  extra_framed : Framed lz size extraFrames extra

namespace Segment

variable {lz : Lz4} {size : ℕ}

def bytes (g : Segment lz size) : List Byte :=
  g.diffLen ++ (g.extraLen ++ (g.jumpBytes ++ (g.diffFrames ++ g.extraFrames)))

def text (g : Segment lz size) (old : List Byte) (pos : ℤ) : List Byte :=
  applied old pos g.diff ++ g.extra

def next (g : Segment lz size) (pos : ℤ) : ℤ := pos + g.diff.length + g.jump

end Segment

inductive Describes (lz : Lz4) (size : ℕ) (old : List Byte) : ℤ → List Byte → List Byte → Prop
  | nil {pos : ℤ} : Describes lz size old pos [] []
  | segment {pos : ℤ} {rest new : List Byte} (g : Segment lz size) :
      0 ≤ pos → pos + g.diff.length ≤ old.length → Describes lz size old (g.next pos) rest new →
      Describes lz size old pos (g.bytes ++ rest) (g.text old pos ++ new)

variable {lz : Lz4} {size : ℕ}

theorem length_applied {old diff : List Byte} {pos : ℤ} (h : 0 ≤ pos)
    (hle : pos + diff.length ≤ old.length) : (applied old pos diff).length = diff.length := by
  rw [applied, List.length_zipWith, List.length_drop]
  omega

theorem applied_nil (old : List Byte) (pos : ℤ) : applied old pos [] = [] :=
  List.zipWith_nil_right

theorem applied_append (old xs ys : List Byte) {pos : ℤ} (h : 0 ≤ pos) :
    applied old pos (xs ++ ys) = applied old pos xs ++ applied old (pos + xs.length) ys := by
  have hpos : (pos + xs.length).toNat = pos.toNat + xs.length := by omega
  rw [applied, applied, applied, hpos, ← List.drop_drop]
  clear hpos
  generalize old.drop pos.toNat = l
  induction xs generalizing l with
  | nil => simp
  | cons x xs ih =>
    cases l with
    | nil => simp
    | cons y l => simp only [List.cons_append, List.zipWith_cons_cons, ih, List.length_cons,
        List.drop_succ_cons]

theorem framed_nil {bytes : List Byte} (h : Framed lz size bytes []) : bytes = [] := by
  generalize ht : ([] : List Byte) = text at h
  cases h with
  | nil => rfl
  | frame _ _ _ hne _ _ => exact absurd (List.append_eq_nil_iff.mp ht.symm).1 hne

end SlcNode.Bspatch
