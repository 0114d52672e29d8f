import SlcNode.StoredFile

namespace SlcNode

namespace Flash

open DataStore

variable {s : Flash} {name : String} {content : List Byte} {pos buffsize fuel : ℕ} {offset : ℤ}

def FsOp.readCount : FsOp → Option ℕ
  | .read size => some size
  | _ => none

def readCounts (log : List (FsOp × ℤ)) : List ℕ := log.filterMap fun e => FsOp.readCount e.1

def asked (name : String) (offset : ℤ) (buffsize : ℕ) (s : Flash) : List ℕ :=
  (readCounts (readFile name offset buffsize s).2.log).drop (readCounts s.log).length

def readChunks (name : String) (buffsize : ℕ) : ℕ → ℤ → Fs (Option (List Byte))
  | 0, _ => pure none
  | fuel + 1, offset => do
    let r ← readFile name offset buffsize
    let chunk := r.buff.take r.ret.toNat
    if r.remain = 0 then
      return some chunk
    let rest ← readChunks name buffsize fuel (offset + r.ret)
    return rest.map (chunk ++ ·)

def AlwaysCalm (s : Flash) : Prop := ∀ k, s.outcomes.get k = .ok

def chunkAt (content : List Byte) (pos buffsize : ℕ) : ReadResult :=
  let chunk := (content.drop pos).take buffsize
  { ret := chunk.length
    buff := chunk ++ List.replicate (buffsize - chunk.length) 0
    remain := if chunk.length > 0 then content.length - pos - chunk.length else 0 }

theorem intSub_nonneg_iff {a b : ℤ} (hlow : -2 ^ 31 ≤ a - b) (hhigh : a - b < 2 ^ 32) :
    0 ≤ intSub a b ↔ b ≤ a ∧ a - b < 2 ^ 31 := by
  by_cases hfits : a - b < 2 ^ 31
  · rw [intSub_of_fits hlow hfits]
    omega
  · have hwrap : intSub a b = a - b - 2 ^ 32 := by
      rw [intSub, ← Int.sub_bmod_right, Int.bmod_eq_of_le (by omega) (by omega)]
      rfl
    omega

/-- As a `size_t` a negative count is far larger than the buffer. -/
theorem readSize_within_iff {fsize offset : ℤ} (hint : buffsize < 2 ^ 31)
    (hlow : -2 ^ 31 ≤ fsize - offset) (hhigh : fsize - offset < 2 ^ 32) :
    (readSize fsize offset buffsize % 2 ^ 32).toNat ≤ buffsize ↔
      offset ≤ fsize ∧ fsize - offset < 2 ^ 31 := by
  have hmin : -2 ^ 31 ≤ intSub fsize offset := Int.le_bmod (by decide)
  rw [← intSub_nonneg_iff hlow hhigh, readSize]
  split <;> omega

@[simp] theorem readCounts_append (log log' : List (FsOp × ℤ)) :
    readCounts (log ++ log') = readCounts log ++ readCounts log' := List.filterMap_append

theorem ensureBd_calm (hcalm : AlwaysCalm s) :
    ∃ s', ensureBd s = (0, s') ∧ s'.files = s.files ∧ AlwaysCalm s' ∧
      readCounts s'.log = readCounts s.log := by
  cases hb : s.bdInit with
  | true => exact ⟨s, ensureBd_true hb, rfl, hcalm, rfl⟩
  | false =>
    have hflag : ¬ (getBdInit s).1 = true := fun h => absurd (hb.symm.trans h) Bool.false_ne_true
    have hhead : s.outcomes.head = .ok := hcalm 0
    have hinit : (initBd s).1 = 0 := by
      simp only [initBd, perform, hhead, Outcome.code_ok]
    rw [ensureBd, bind_apply, if_neg hflag]
    refine ⟨_, bind_pass initBd _ _ hinit, rfl, fun k => hcalm (k + 1), ?_⟩
    exact (readCounts_append s.log [(.bdInit, _)]).trans (List.append_nil _)

theorem readFile_reads (offset : ℤ) (buffsize : ℕ) (hcalm : AlwaysCalm s)
    (hfile : s.files name = some content) :
    ∃ s', s'.opened = some ⟨name, 0⟩ ∧ s'.files = s.files ∧ AlwaysCalm s' ∧
      readCounts s'.log = readCounts s.log ∧
      (readFile name offset buffsize s).1 = (readOpened offset buffsize s').1 ∧
      (readFile name offset buffsize s).2.files = (readOpened offset buffsize s').2.files ∧
      (readFile name offset buffsize s).2.outcomes = (readOpened offset buffsize s').2.outcomes ∧
      readCounts (readFile name offset buffsize s).2.log =
        readCounts (readOpened offset buffsize s').2.log := by
  obtain ⟨s₁, hensure, hfiles, hcalm₁, hlog⟩ := ensureBd_calm hcalm
  have hmount := mount_calm (hcalm₁ 0)
  have hopen := openFile_calm [.rdonly, .binary] (s := (mount s₁).2)
    (by rw [hmount]; exact hcalm₁ 1) (by decide) (by decide)
    (by rw [hmount]; exact (congrFun hfiles name).trans hfile)
  rw [hmount] at hopen
  rw [readFile, withMount, bind_pass _ _ _ (by rw [hensure]), hensure,
    bind_pass mount _ _ (by rw [hmount]), hmount, bind_apply, withFile,
    bind_pass _ _ _ (by rw [hopen]), hopen]
  refine ⟨{ s₁ with
      mounted := true
      opened := some ⟨name, 0⟩
      outcomes := s₁.outcomes.tail.tail
      log := s₁.log ++ [(.mount, 0)] ++ [(.openFile name [.rdonly, .binary], 0)] },
    rfl, hfiles, fun k => hcalm₁ (k + 2), ?_, rfl, rfl, rfl, ?_⟩
  · simp only [readCounts_append, hlog]
    exact (List.append_nil _).trans (List.append_nil _)
  · exact (readCounts_append _ [(.unmount, 0)]).trans ((List.append_nil _).trans
      ((readCounts_append _ [(.close, 0)]).trans (List.append_nil _)))

theorem readOpened_asks (hbuff : buffsize ≠ 0) :
    readCounts (readOpened offset buffsize s).2.log = readCounts s.log ++
      [(readSize s.content.length offset buffsize % 2 ^ 32).toNat] := by
  rw [readOpened, bind_apply, if_neg hbuff]
  simp only [bind_apply, pure_apply, size, seek, read]
  split <;> exact readCounts_append _ _

theorem asked_calm (offset : ℤ) (hbuff : buffsize ≠ 0) (hcalm : AlwaysCalm s)
    (hfile : s.files name = some content) :
    asked name offset buffsize s = [(readSize content.length offset buffsize % 2 ^ 32).toNat] := by
  obtain ⟨s', hopened, hfiles, -, hlog, -, -, -, hasks⟩ :=
    readFile_reads offset buffsize hcalm hfile
  rw [asked, hasks, readOpened_asks hbuff, hlog, List.drop_left,
    content_of_opened hopened ((congrFun hfiles name).trans hfile)]

theorem readOpened_at (hpos : pos ≤ content.length) (hbuff : 0 < buffsize)
    (hint : buffsize < 2 ^ 31) (hlen : content.length < 2 ^ 31) (hcalm : AlwaysCalm s)
    (hopened : s.opened = some ⟨name, 0⟩) (hfile : s.files name = some content) :
    (readOpened pos buffsize s).1 = chunkAt content pos buffsize ∧
      (readOpened pos buffsize s).2.files = s.files ∧ AlwaysCalm (readOpened pos buffsize s).2 := by
  have hcontent : s.content = content := content_of_opened hopened hfile
  have hsize : size s = ((content.length : ℤ), s) := by rw [size, hcontent]
  have hreadsize : readSize content.length pos buffsize =
      ((min (content.length - pos) buffsize : ℕ) : ℤ) := by
    rw [readSize_of_fits (by omega) (by omega)]
    split <;> omega
  have hseek : seek pos s = ((), { s with opened := some ⟨name, pos⟩ }) := by
    rw [seek, if_pos (Int.natCast_nonneg pos), hopened, Option.map_some, Int.toNat_natCast]
  have htake : (content.drop pos).take (min (content.length - pos) buffsize) =
      (content.drop pos).take buffsize := by
    rw [List.take_eq_take_iff, List.length_drop]
    omega
  have hread := read_calm (s := { s with opened := some ⟨name, pos⟩ })
    (n := min (content.length - pos) buffsize) (hcalm 0) (by omega) rfl
    (content_of_opened rfl hfile)
  rw [htake] at hread
  rw [readOpened, bind_apply, hsize, if_neg hbuff.ne', bind_apply, hseek, bind_apply, hreadsize,
    hread]
  refine ⟨?_, rfl, fun k => hcalm (k + 1)⟩
  simp only [pure_apply, chunkAt, Int.natCast_pos, gt_iff_lt]

theorem readFile_at (hpos : pos ≤ content.length) (hbuff : 0 < buffsize) (hint : buffsize < 2 ^ 31)
    (hlen : content.length < 2 ^ 31) (hcalm : AlwaysCalm s) (hfile : s.files name = some content) :
    (readFile name pos buffsize s).1 = chunkAt content pos buffsize ∧
      (readFile name pos buffsize s).2.files = s.files ∧
      AlwaysCalm (readFile name pos buffsize s).2 := by
  obtain ⟨s', hopened, hfiles, hcalm', -, hret, hkept, houtcomes, -⟩ :=
    readFile_reads pos buffsize hcalm hfile
  obtain ⟨hchunk, hsame, hlast⟩ := readOpened_at hpos hbuff hint hlen hcalm' hopened
    ((congrFun hfiles name).trans hfile)
  refine ⟨hret.trans hchunk, (hkept.trans hsame).trans hfiles, ?_⟩
  unfold AlwaysCalm
  rw [houtcomes]
  exact hlast

theorem chunkAt_take (content : List Byte) (pos buffsize : ℕ) :
    (chunkAt content pos buffsize).buff.take (chunkAt content pos buffsize).ret.toNat =
      (content.drop pos).take buffsize := by
  simp only [chunkAt, Int.toNat_natCast, List.take_left]

theorem chunkAt_remain (hpos : pos ≤ content.length) (hbuff : 0 < buffsize) :
    (chunkAt content pos buffsize).remain = (content.length - pos - buffsize : ℕ) := by
  simp only [chunkAt, List.length_take, List.length_drop]
  split <;> omega

theorem chunkAt_ret (hmore : buffsize ≤ content.length - pos) :
    (chunkAt content pos buffsize).ret = buffsize := by
  simp only [chunkAt, List.length_take, List.length_drop]
  omega

theorem readChunks_step (hpos : pos ≤ content.length) (hbuff : 0 < buffsize)
    (hint : buffsize < 2 ^ 31) (hlen : content.length < 2 ^ 31) (hcalm : AlwaysCalm s)
    (hfile : s.files name = some content) :
    (readChunks name buffsize (fuel + 1) pos s).1 =
      if content.length - pos ≤ buffsize then some (content.drop pos)
      else ((readChunks name buffsize fuel (pos + buffsize : ℕ)
        (readFile name pos buffsize s).2).1).map ((content.drop pos).take buffsize ++ ·) := by
  obtain ⟨hret, -, -⟩ := readFile_at hpos hbuff hint hlen hcalm hfile
  rw [readChunks, bind_apply, hret, chunkAt_take, chunkAt_remain hpos hbuff]
  by_cases hlast : content.length - pos ≤ buffsize
  · have hremain : ((content.length - pos - buffsize : ℕ) : ℤ) = 0 := by omega
    have htake : (content.drop pos).take buffsize = content.drop pos := by
      apply List.take_of_length_le
      rw [List.length_drop]
      exact hlast
    rw [if_pos hremain, if_pos hlast, htake]
    rfl
  · have hremain : ((content.length - pos - buffsize : ℕ) : ℤ) ≠ 0 := by omega
    rw [if_neg hremain, if_neg hlast, chunkAt_ret (by omega), bind_apply]
    rfl

theorem readChunks_from (hbuff : 0 < buffsize) (hint : buffsize < 2 ^ 31)
    (hlen : content.length < 2 ^ 31) (hcalm : AlwaysCalm s) (hfile : s.files name = some content)
    (hpos : pos ≤ content.length) (hfuel : content.length - pos < fuel) :
    (readChunks name buffsize fuel pos s).1 = some (content.drop pos) := by
  induction fuel generalizing pos s with
  | zero => omega
  | succ fuel ih =>
    rw [readChunks_step hpos hbuff hint hlen hcalm hfile]
    split
    · rfl
    · obtain ⟨-, hfiles, hcalm'⟩ := readFile_at hpos hbuff hint hlen hcalm hfile
      have hnext : pos + buffsize ≤ content.length := by omega
      have hrest := ih hcalm' ((congrFun hfiles name).trans hfile) hnext (by omega)
      rw [hrest, Option.map_some, ← List.drop_drop, List.take_append_drop]

theorem chunked_iff (hbuff : 0 < buffsize) (hint : buffsize < 2 ^ 31)
    (hlow : -2 ^ 31 ≤ offset) (hhigh : offset < 2 ^ 31) (hcalm : AlwaysCalm s)
    (hfile : s.files name = some content) (hsize : content.length < 2 ^ 31) :
    (∃ count, asked name offset buffsize s = [count] ∧ count ≤ buffsize) ∧
        (∀ fuel > content.length, (readChunks name buffsize fuel 0 s).1 = some content) ↔
      offset ≤ content.length ∧ content.length - offset < 2 ^ 31 := by
  have hloop (fuel : ℕ) (hfuel : fuel > content.length) :
      (readChunks name buffsize fuel 0 s).1 = some content :=
    readChunks_from hbuff hint hsize hcalm hfile (Nat.zero_le _) (by omega)
  rw [and_iff_left hloop, asked_calm offset hbuff.ne' hcalm hfile,
    ← readSize_within_iff hint (by omega) (by omega)]
  constructor
  · rintro ⟨count, heq, hle⟩
    rwa [← List.singleton_inj.mp heq] at hle
  · exact fun hle => ⟨_, rfl, hle⟩

theorem chunked_iff_second_byte :
    (∃ count, asked "data/sysconfig" 1 2 (holding "data/sysconfig" [1, 2, 3]) = [count] ∧
        count ≤ 2) ∧
      (readChunks "data/sysconfig" 2 4 0 (holding "data/sysconfig" [1, 2, 3])).1 =
        some [1, 2, 3] := by
  have hfile : (holding "data/sysconfig" [1, 2, 3]).files "data/sysconfig" = some [1, 2, 3] := by
    decide
  have hboth := (chunked_iff (by decide : 0 < 2) (by decide) (by decide : -2 ^ 31 ≤ (1 : ℤ))
    (by decide) (fun _ => rfl) hfile (by decide)).mpr (by decide)
  exact ⟨hboth.1, hboth.2 4 (by decide)⟩

theorem beyond_end_outside :
    asked "data/sysconfig" 10 8 (holding "data/sysconfig" [1, 2, 3, 4]) = [4294967290] ∧
      ¬4294967290 ≤ 8 := by
  decide

end Flash

end SlcNode
