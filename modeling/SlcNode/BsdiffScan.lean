import SlcNode.Bsdiff

namespace SlcNode.Bsdiff

theorem matchlen_le (old new : List Byte) : matchlen old new ≤ new.length := by
  induction old generalizing new with
  | nil => exact Nat.zero_le _
  | cons a old ih =>
    cases new with
    | nil => exact Nat.zero_le _
    | cons b new =>
      rw [matchlen]
      split
      · exact Nat.zero_le _
      · exact Nat.succ_le_succ (ih new)

/-- What the search relies on of `qsufsort`: the entries of the table are places in the old file. -/
def BsdiffRequest.TableInside (req : BsdiffRequest) : Prop :=
  ∀ k ≤ req.old.length, req.I k ≤ req.old.length

variable {req : BsdiffRequest}

theorem search_le (hI : req.TableInside) (new : List Byte) {st en : ℕ} (hst : st ≤ req.old.length)
    (hen : en ≤ req.old.length) :
    (search req new st en).1 ≤ new.length ∧ (search req new st en).2 ≤ req.old.length := by
  fun_induction search req new st en with
  | case1 st en hlt x y hxy => exact ⟨matchlen_le _ _, hI st hst⟩
  | case2 st en hlt x y hxy => exact ⟨matchlen_le _ _, hI en hen⟩
  | case3 st en hlt x hx ih => exact ih (by omega) hen
  | case4 st en hlt x hx ih => exact ih hst (by omega)

theorem len_foldl_le {step : Best → ℕ → Best}
    (h : ∀ b i, (step b i).len = b.len ∨ (step b i).len = i + 1) (n : ℕ) :
    ((List.range n).foldl step ⟨0, 0, 0⟩).len ≤ n := by
  induction n with
  | zero => exact Nat.le_refl 0
  | succ n ih =>
    rw [List.range_succ, List.foldl_append, List.foldl_cons, List.foldl_nil]
    rcases h ((List.range n).foldl step ⟨0, 0, 0⟩) n with hlen | hlen <;> omega

theorem extent_le (same : ℕ → Bool) (limit : ℕ) : extent same limit ≤ limit := by
  refine len_foldl_le (fun b i => ?_) limit
  unfold payOff
  generalize (if same i then b.s + 1 else b.s) = s
  dsimp only
  split
  · exact .inr rfl
  · exact .inl rfl

theorem overlapLens_le (gain : ℕ → ℤ) (overlap : ℕ) : overlapLens gain overlap ≤ overlap := by
  refine len_foldl_le (fun b i => ?_) overlap
  unfold splitOff
  dsimp only
  split
  · exact .inr rfl
  · exact .inl rfl

def equalBefore (req : BsdiffRequest) (lastoffset : ℤ) (k : ℕ) : ℕ := gained req lastoffset 0 k

theorem gained_add (req : BsdiffRequest) (lastoffset : ℤ) (scsc stop : ℕ) :
    equalBefore req lastoffset scsc + gained req lastoffset scsc stop =
      equalBefore req lastoffset (max scsc stop) := by
  unfold equalBefore gained
  rw [← List.countP_append, Nat.sub_zero, Nat.sub_zero]
  congr 1
  have happ : List.range' 0 scsc ++ List.range' (0 + scsc) (stop - scsc) =
      List.range' 0 (scsc + (stop - scsc)) := List.range'_append_1
  rw [Nat.zero_add] at happ
  rw [happ]
  congr 1
  omega

theorem equalBefore_succ (req : BsdiffRequest) (lastoffset : ℤ) (k : ℕ) :
    equalBefore req lastoffset (k + 1) =
      equalBefore req lastoffset k + if sameAsLast req lastoffset k then 1 else 0 := by
  have hlast : gained req lastoffset k (k + 1) = if sameAsLast req lastoffset k then 1 else 0 := by
    simp [gained, List.countP_cons]
  rw [← hlast, gained_add, max_eq_right (Nat.le_succ k)]

theorem equalBefore_mono (req : BsdiffRequest) (lastoffset : ℤ) {a b : ℕ} (h : a ≤ b) :
    equalBefore req lastoffset a ≤ equalBefore req lastoffset b := by
  have hadd := gained_add req lastoffset a b
  rw [max_eq_right h] at hadd
  omega

structure Scanned (req : BsdiffRequest) (start : ℕ) (r : Scan) : Prop where
  start_le : start ≤ r.scan
  scan_le : r.scan ≤ req.new.length
  pos_le : r.pos ≤ req.old.length
  len_pos : r.scan < req.new.length → 0 < r.len
  reach_le : r.scan < req.new.length → r.scan + r.len ≤ req.new.length

theorem scanLoop_scanned (hI : req.TableInside) {lastoffset : ℤ} {scsc : ℕ} {s : Scan}
    (hscore : s.oldscore + equalBefore req lastoffset s.scan = equalBefore req lastoffset scsc)
    (hscan : s.scan ≤ req.new.length) (hpos : s.pos ≤ req.old.length) :
    Scanned req s.scan (scanLoop req lastoffset scsc s) := by
  fun_induction scanLoop req lastoffset scsc s with
  | case1 scsc s hlt len pos hsearch oldscore hstop =>
    have hle := search_le hI (req.new.drop s.scan) (Nat.zero_le _) le_rfl
    rw [hsearch, List.length_drop] at hle
    have hadd := gained_add req lastoffset scsc (s.scan + len)
    have hmono := equalBefore_mono req lastoffset
      ((Nat.le_add_right s.scan len).trans (le_max_right scsc _))
    refine ⟨le_rfl, hscan, hle.2, fun _ => ?_, fun _ => ?_⟩
    · dsimp only at *
      rcases hstop with ⟨-, hne⟩ | hgt
      · exact Nat.pos_of_ne_zero hne
      · omega
    · dsimp only at *
      omega
  | case2 scsc s hlt len pos hsearch oldscore hstop ih =>
    have hle := search_le hI (req.new.drop s.scan) (Nat.zero_le _) le_rfl
    rw [hsearch] at hle
    have hadd := gained_add req lastoffset scsc (s.scan + len)
    have hsucc := equalBefore_succ req lastoffset s.scan
    have hnext := ih ?_ hlt hle.2
    · exact { hnext with start_le := (Nat.le_succ _).trans hnext.start_le }
    · dsimp only
      by_cases hsame : sameAsLast req lastoffset s.scan = true
      · rw [if_pos hsame] at hsucc
        rw [dif_pos hsame]
        omega
      · rw [if_neg hsame] at hsucc
        rw [dif_neg hsame]
        omega
  | case3 scsc s hlt =>
    exact ⟨le_rfl, hscan, hpos, fun h => absurd h hlt, fun h => absurd h hlt⟩

structure Apart (req : BsdiffRequest) (lastscan lastpos scan pos : ℕ) (e : Extents) : Prop where
  lenb_le_scan : lastscan + e.lenf + e.lenb ≤ scan
  lenb_le_pos : e.lenb ≤ pos
  lenf_le : lastpos + e.lenf ≤ req.old.length
  at_end : scan = req.new.length → e.lenb = 0

theorem extents_apart {lastscan lastpos scan pos : ℕ} (hscan : lastscan ≤ scan)
    (hle : scan ≤ req.new.length) (hlast : lastpos ≤ req.old.length) :
    Apart req lastscan lastpos scan pos (extents req lastscan lastpos scan pos) := by
  unfold extents
  generalize hf : extent _ (min (scan - lastscan) (req.old.length - lastpos)) = lenf
  have hlenf := hf ▸ extent_le _ (min (scan - lastscan) (req.old.length - lastpos))
  have hlenb : ∀ same, (if scan < req.new.length then extent same (min (scan - lastscan) pos)
      else 0) ≤ min (scan - lastscan) pos := by
    intro same
    split
    · exact extent_le _ _
    · exact Nat.zero_le _
  generalize hb : (if scan < req.new.length then extent _ (min (scan - lastscan) pos) else 0) = lenb
  have hlenb' := hb ▸ hlenb _
  have hend : scan = req.new.length → lenb = 0 := by
    rintro rfl
    rw [← hb, if_neg (lt_irrefl _)]
  dsimp only
  split
  · next hover =>
    generalize hl : overlapLens _ (lastscan + lenf - (scan - lenb)) = lens
    have hlens := hl ▸ overlapLens_le _ (lastscan + lenf - (scan - lenb))
    exact ⟨by dsimp only; omega, by dsimp only; omega, by dsimp only; omega, fun h => by
      dsimp only
      rw [hend h, Nat.zero_sub]⟩
  · next hover => exact ⟨by dsimp only; omega, by dsimp only; omega, by dsimp only; omega, hend⟩

end SlcNode.Bsdiff
