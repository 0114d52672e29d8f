import SlcNode.Flash
import SlcNode.Library.EventRun

namespace SlcNode

namespace Outcome

theorem code_neg {o : Outcome} (h : o.code ≠ 0) : o.code < 0 := by
  cases o with
  | ok => exact absurd rfl h
  | error c => simp only [code]; omega
  | short count => exact absurd rfl h

theorem amount_le (o : Outcome) (available : ℕ) : o.amount available ≤ available := by
  cases o <;> simp [amount]

end Outcome

namespace Flash

variable {α β : Type} {s s' : Flash} {name : String}

theorem bind_apply (p : Fs α) (f : α → Fs β) (s : Flash) : (p >>= f) s = f (p s).1 (p s).2 := rfl

theorem pure_apply (a : α) (s : Flash) : (pure a : Fs α) s = (a, s) := rfl

def Ready (s s' : Flash) : Prop :=
  s'.bdInit = true ∧ s'.files = s.files ∧ s'.opened = s.opened

theorem bind_goto (p : Fs ℤ) (g f : ℤ → Fs α) (h : (p s).1 ≠ 0) :
    (p >>= fun ret => if ret ≠ 0 then g ret else f ret) s = g (p s).1 (p s).2 := by
  rw [bind_apply, if_pos h]

theorem bind_pass (p : Fs ℤ) (g f : ℤ → Fs α) (h : (p s).1 = 0) :
    (p >>= fun ret => if ret ≠ 0 then g ret else f ret) s = f (p s).1 (p s).2 := by
  rw [bind_apply, if_neg (not_not.mpr h)]

theorem ensureBd_true (h : s.bdInit = true) : ensureBd s = (0, s) := by
  have hflag : (getBdInit s).1 = true := h
  rw [ensureBd, bind_apply, if_pos hflag]
  rfl

theorem ensureBd_cases (s : Flash) :
    (∃ ret < 0, ∃ s', ensureBd s = (ret, s') ∧ s'.files = s.files) ∨
      ∃ s', ensureBd s = (0, s') ∧ Ready s s' := by
  cases hb : s.bdInit with
  | true => exact .inr ⟨s, ensureBd_true hb, hb, rfl, rfl⟩
  | false =>
    have hflag : ¬ (getBdInit s).1 = true := fun h => absurd (hb.symm.trans h) Bool.false_ne_true
    rw [ensureBd, bind_apply, if_neg hflag]
    by_cases hc : (initBd s).1 = 0
    · exact .inr ⟨_, bind_pass initBd _ _ hc, rfl, rfl, rfl⟩
    · exact .inl ⟨_, Outcome.code_neg hc, _, bind_goto initBd _ _ hc, rfl⟩

theorem mount_keeps (s : Flash) :
    (mount s).2.bdInit = s.bdInit ∧ (mount s).2.files = s.files ∧ (mount s).2.opened = s.opened := by
  simp only [mount, perform]
  split <;> exact ⟨rfl, rfl, rfl⟩

theorem withMount_cases (fail : ℤ → α) (body : Fs α) (s : Flash) :
    (∃ ret < 0, ∃ s', withMount fail body s = (fail ret, s') ∧ s'.files = s.files) ∨
      ∃ s', Ready s s' ∧ withMount fail body s = ((body s').1, (unmount (body s').2).2) := by
  rw [withMount]
  rcases ensureBd_cases s with ⟨ret, hret, s₁, heq, hfiles⟩ | ⟨s₁, heq, hinit, hfiles, hopened⟩
  · refine .inl ⟨ret, hret, s₁, ?_, hfiles⟩
    rw [bind_goto _ _ _ (by rw [heq]; exact hret.ne), heq]
    rfl
  · rw [bind_pass _ _ _ (by rw [heq]), heq]
    obtain ⟨hinit', hfiles', hopened'⟩ := mount_keeps s₁
    by_cases hc : (mount s₁).1 = 0
    · exact .inr ⟨(mount s₁).2, ⟨hinit'.trans hinit, hfiles'.trans hfiles, hopened'.trans hopened⟩,
        bind_pass mount _ _ hc⟩
    · exact .inl ⟨_, Outcome.code_neg hc, _, bind_goto mount _ _ hc, hfiles'.trans hfiles⟩

theorem openFile_cases (name : String) (flags : List OpenFlag) (s : Flash) :
    (∃ ret < 0, ∃ s', openFile name flags s = (ret, s') ∧ s'.files = s.files) ∨
      ∃ s', openFile name flags s = (0, s') ∧ s'.bdInit = s.bdInit ∧
        s'.files = Function.update s.files name
          (some (if .trunc ∈ flags then [] else (s.files name).getD [])) ∧
        s'.opened = some ⟨name, if .append ∈ flags then
          (if .trunc ∈ flags then [] else (s.files name).getD []).length else 0⟩ := by
  simp only [openFile, perform]
  by_cases hc : s.outcomes.head.code = 0
  · by_cases hn : s.files name = none ∧ .creat ∉ flags
    · rw [if_neg (not_not.mpr hc), if_pos hn]
      exact .inl ⟨-2, by decide, _, rfl, rfl⟩
    · rw [if_neg (not_not.mpr hc), if_neg hn]
      exact .inr ⟨_, rfl, rfl, rfl, rfl⟩
  · rw [if_pos hc]
    exact .inl ⟨_, Outcome.code_neg hc, _, rfl, rfl⟩

theorem withFile_cases (name : String) (flags : List OpenFlag) (fail : ℤ → α) (body : Fs α)
    (s : Flash) :
    (∃ ret < 0, ∃ s', withFile name flags fail body s = (fail ret, s') ∧ s'.files = s.files) ∨
      ∃ s', s'.bdInit = s.bdInit ∧
        s'.files = Function.update s.files name
          (some (if .trunc ∈ flags then [] else (s.files name).getD [])) ∧
        s'.opened = some ⟨name, if .append ∈ flags then
          (if .trunc ∈ flags then [] else (s.files name).getD []).length else 0⟩ ∧
        withFile name flags fail body s = ((body s').1, (close (body s').2).2) := by
  rw [withFile]
  rcases openFile_cases name flags s with ⟨ret, hret, s₁, heq, hfiles⟩ |
    ⟨s₁, heq, hinit, hfiles, hopened⟩
  · refine .inl ⟨ret, hret, s₁, ?_, hfiles⟩
    rw [bind_goto _ _ _ (by rw [heq]; exact hret.ne), heq]
    rfl
  · refine .inr ⟨s₁, hinit, hfiles, hopened, ?_⟩
    rw [bind_pass _ _ _ (by rw [heq]), heq]
    rfl

theorem write_cases (buff : List Byte) {f : OpenFile} (hf : s.opened = some f) :
    ((write buff s).1 < 0 ∧ (write buff s).2.files = s.files) ∨
      ∃ k ≤ buff.length, (write buff s).1 = k ∧ (write buff s).2.bdInit = s.bdInit ∧
        (write buff s).2.files = Function.update s.files f.name
          (some (overwrite f.pos (buff.take k) ((s.files f.name).getD []))) := by
  simp only [write, perform, hf]
  by_cases hc : s.outcomes.head.code = 0
  · rw [if_neg (not_not.mpr hc)]
    have hcontent : s.content = (s.files f.name).getD [] := by rw [content, hf, Option.bind_some]
    refine .inr ⟨_, Outcome.amount_le s.outcomes.head buff.length, ?_, rfl, by rw [hcontent]⟩
    rw [List.length_take, Nat.min_eq_left (Outcome.amount_le _ _)]
  · rw [if_pos hc]
    exact .inl ⟨Outcome.code_neg hc, rfl⟩

theorem writeFile_cases (name : String) (buff : List Byte) (append : Bool) (s : Flash) :
    ((writeFile name buff append s).1 < 0 ∧
        ((writeFile name buff append s).2.files = s.files ∨
          (writeFile name buff append s).2.files =
            Function.update s.files name (some ((s.files name).getD [])))) ∨
      ∃ k ≤ buff.length, (writeFile name buff append s).1 = k ∧
        (writeFile name buff append s).2.bdInit = true ∧
        (writeFile name buff append s).2.files = Function.update s.files name
          (some (overwrite (if append then ((s.files name).getD []).length else 0)
            (buff.take k) ((s.files name).getD []))) := by
  have htrunc : .trunc ∉ writeFlags append := by cases append <;> decide
  have happend : .append ∈ writeFlags append ↔ append = true := by cases append <;> decide
  rw [writeFile]
  rcases withMount_cases id (withFile name (writeFlags append) id (write buff)) s with
    ⟨ret, hret, s', heq, hfiles⟩ | ⟨s₁, ⟨hinit, hfiles, hopened⟩, heq⟩
  · rw [heq]
    exact .inl ⟨hret, .inl hfiles⟩
  rw [heq]
  rcases withFile_cases name (writeFlags append) id (write buff) s₁ with
    ⟨ret, hret, s', heq, hfiles'⟩ | ⟨s₂, hinit', hfiles', hopened', heq⟩
  · rw [heq]
    exact .inl ⟨hret, .inl (hfiles'.trans hfiles)⟩
  rw [heq]
  simp only [htrunc, if_false, happend, hfiles] at hfiles' hopened'
  have hold : (s₂.files name).getD [] = (s.files name).getD [] := by
    rw [hfiles', Function.update_self, Option.getD_some]
  rcases write_cases buff hopened' with ⟨hret, hsame⟩ | ⟨k, hk, hret, hinit'', hwritten⟩
  · exact .inl ⟨hret, .inr (hsame.trans hfiles')⟩
  · refine .inr ⟨k, hk, hret, (hinit''.trans hinit').trans hinit, hwritten.trans ?_⟩
    rw [hold, hfiles', Function.update_idem]

theorem remove_success (hret : (remove name s).1 = 0) :
    (remove name s).2.files = DataStore.removeFile s.files name := by
  simp only [remove, perform] at hret ⊢
  by_cases hc : s.outcomes.head.code = 0
  · rw [if_neg (not_not.mpr hc)] at hret ⊢
    by_cases hn : s.files name = none
    · rw [if_pos hn] at hret
      simp at hret
    · rw [if_neg hn]
      rfl
  · rw [if_pos hc] at hret
    exact absurd hret hc

theorem removeFile_success (hret : (removeFile name s).1 = 0) :
    (removeFile name s).2.files = DataStore.removeFile s.files name := by
  rw [removeFile] at hret ⊢
  rcases withMount_cases id (remove name) s with ⟨ret, hneg, s', heq, -⟩ |
    ⟨s₁, ⟨-, hfiles, -⟩, heq⟩
  · rw [heq] at hret
    exact absurd hret hneg.ne
  · rw [heq] at hret ⊢
    exact (remove_success hret).trans (by rw [hfiles])

def Calm (n : ℕ) (s : Flash) : Prop := ∀ k < n, s.outcomes.get k = .ok

theorem mount_calm (h : s.outcomes.get 0 = .ok) :
    mount s = (0, { s with
      mounted := true
      outcomes := s.outcomes.tail
      log := s.log ++ [(.mount, 0)] }) := by
  have hhead : s.outcomes.head = .ok := h
  simp only [mount, perform, hhead, Outcome.code_ok, if_true]

theorem openFile_calm {content : List Byte} (flags : List OpenFlag) (h : s.outcomes.get 0 = .ok)
    (htrunc : .trunc ∉ flags) (happend : .append ∉ flags) (hfile : s.files name = some content) :
    openFile name flags s = (0, { s with
      opened := some ⟨name, 0⟩
      outcomes := s.outcomes.tail
      log := s.log ++ [(.openFile name flags, 0)] }) := by
  have hhead : s.outcomes.head = .ok := h
  have hsame : Function.update s.files name (some content) = s.files := by
    rw [← hfile, Function.update_eq_self]
  simp [openFile, perform, hhead, hfile, htrunc, happend, hsame]

theorem seek_pos {pos : ℕ} (hopened : s.opened = some ⟨name, pos⟩) : seek pos s = ((), s) := by
  rw [seek, if_pos (Int.natCast_nonneg pos), hopened, Option.map_some, Int.toNat_natCast, ← hopened]

theorem read_calm {pos n : ℕ} {content : List Byte} (h : s.outcomes.get 0 = .ok)
    (hn : n < 2 ^ 31) (hopened : s.opened = some ⟨name, pos⟩) (hcontent : s.content = content) :
    (read n s).1 =
      ((((content.drop pos).take n).length : ℤ), (content.drop pos).take n) := by
  have hhead : s.outcomes.head = .ok := h
  have hsize : ((n : ℤ) % 2 ^ 32).toNat = n := by omega
  simp only [read, hsize, hhead, hopened, hcontent, Outcome.code_ok, Outcome.amount_ok, ne_eq,
    not_true_eq_false, if_false, Option.map_some, Option.getD_some, List.take_length]

theorem intSub_of_fits {a b : ℤ} (hlow : -2 ^ 31 ≤ a - b) (hhigh : a - b < 2 ^ 31) :
    intSub a b = a - b := by
  rw [intSub, Int.bmod_eq_of_le (by omega) (by omega)]

theorem readSize_of_fits {fsize offset buffsize : ℤ} (hlow : -2 ^ 31 ≤ fsize - offset)
    (hhigh : fsize - offset < 2 ^ 31) :
    readSize fsize offset buffsize =
      if fsize - offset < buffsize then fsize - offset else buffsize := by
  rw [readSize, intSub_of_fits hlow hhigh]

theorem content_of_opened {content : List Byte} {pos : ℕ} (hopened : s.opened = some ⟨name, pos⟩)
    (hfile : s.files name = some content) : s.content = content := by
  rw [Flash.content, hopened, Option.bind_some, hfile, Option.getD_some]

theorem readOpened_calm {content : List Byte} {buffsize : ℕ} (hint : buffsize < 2 ^ 31)
    (hlen : content.length < 2 ^ 31) (h : s.outcomes.get 0 = .ok)
    (hopened : s.opened = some ⟨name, 0⟩) (hfile : s.files name = some content) :
    (readOpened 0 buffsize s).1 = DataStore.readFile s.files name buffsize := by
  have hcontent : s.content = content := content_of_opened hopened hfile
  have hsize : size s = ((content.length : ℤ), s) := by rw [size, hcontent]
  have hreadsize : readSize content.length 0 buffsize =
      ((min content.length buffsize : ℕ) : ℤ) := by
    rw [readSize_of_fits (by omega) (by omega)]
    split <;> omega
  rw [readOpened, bind_apply, hsize, DataStore.readFile, hfile]
  by_cases hzero : buffsize = 0
  · subst hzero
    rfl
  · have hread := read_calm (n := min content.length buffsize) h (by omega) hopened hcontent
    have htake : content.take (min content.length buffsize) = content.take buffsize := by
      rw [List.take_eq_take_iff]
      omega
    rw [List.drop_zero, htake] at hread
    have hseek : seek 0 s = ((), s) := seek_pos hopened
    rw [if_neg hzero, bind_apply, hseek, bind_apply, hreadsize, hread]
    dsimp only
    rw [pure_apply]
    simp only [sub_zero, Int.natCast_pos, gt_iff_lt]

theorem length_of_whole {b : List Byte} (hpos : 0 < b.length)
    (h : (readOpened 0 b.length s).1 = ⟨b.length, b, 0⟩) : s.content.length = b.length := by
  have hremain := congrArg DataStore.ReadResult.remain h
  have hret := congrArg DataStore.ReadResult.ret h
  rw [readOpened, bind_apply, if_neg hpos.ne'] at hret hremain
  simp only [bind_apply, pure_apply, size, seek] at hret hremain
  rw [hret, if_pos (by omega)] at hremain
  omega

theorem readFile_opened {content : List Byte} (offset : ℤ) (buffsize : ℕ) (hinit : s.bdInit = true)
    (hcalm : Calm 3 s) (hfile : s.files name = some content) :
    ∃ s', (readFile name offset buffsize s).1 = (readOpened offset buffsize s').1 ∧
      s'.outcomes.get 0 = .ok ∧ s'.opened = some ⟨name, 0⟩ ∧ s'.files = s.files := by
  have hmount := mount_calm (hcalm 0 (by decide))
  have hopen := openFile_calm [.rdonly, .binary] (s := (mount s).2)
    (by rw [hmount]; exact hcalm 1 (by decide)) (by decide) (by decide) (by rw [hmount]; exact hfile)
  rw [hmount] at hopen
  rw [readFile, withMount, bind_pass _ _ _ (by rw [ensureBd_true hinit]), ensureBd_true hinit,
    bind_pass mount _ _ (by rw [hmount]), hmount, bind_apply, withFile,
    bind_pass _ _ _ (by rw [hopen]), hopen]
  exact ⟨_, rfl, hcalm 2 (by decide), rfl, rfl⟩

def stored (s : Flash) (name : String) : List Byte := (s.files name).getD []

theorem writeFile_success {b : List Byte} (hpos : 0 < b.length)
    (hw : (writeFile name b false s).1 = b.length) :
    (writeFile name b false s).2.bdInit = true ∧
      (writeFile name b false s).2.files =
        DataStore.writeFile s.files name (overwrite 0 b (s.stored name)) := by
  rcases writeFile_cases name b false s with ⟨hret, -⟩ | ⟨k, -, hret, hinit, hfiles⟩
  · omega
  · have hk : k = b.length := by exact_mod_cast hret.symm.trans hw
    rw [hk, List.take_length] at hfiles
    exact ⟨hinit, hfiles⟩

theorem writeFile_exact {b : List Byte} (hpos : 0 < b.length)
    (hw : (writeFile name b false s).1 = b.length) (hlen : (s.stored name).length ≤ b.length) :
    (writeFile name b false s).2.files = DataStore.writeFile s.files name b := by
  rw [(writeFile_success hpos hw).2, Overwrite.overwrite_zero_eq_new_iff.mpr hlen]

theorem readFile_writeFile {b : List Byte} (hpos : 0 < b.length) (hint : b.length < 2 ^ 31)
    (hw : (writeFile name b false s).1 = b.length)
    (hr : Calm 3 (writeFile name b false s).2) (hlen : (s.stored name).length ≤ b.length) :
    (readFile name 0 b.length (writeFile name b false s).2).1 = ⟨b.length, b, 0⟩ := by
  obtain ⟨hinit, -⟩ := writeFile_success hpos hw
  have hfiles := writeFile_exact hpos hw hlen
  have hfile : (writeFile name b false s).2.files name = some b := by
    rw [hfiles, DataStore.writeFile_self]
  obtain ⟨s', hread, hcalm, hopened, hsame⟩ := readFile_opened 0 b.length hinit hr hfile
  rw [hread, readOpened_calm hint hint hcalm hopened ((congrFun hsame name).trans hfile),
    DataStore.readFile_of_length ((congrFun hsame name).trans hfile) rfl]

theorem restored_iff {b : List Byte} (hpos : 0 < b.length) (hint : b.length < 2 ^ 31)
    (hw : (writeFile name b false s).1 = b.length)
    (hr : Calm 3 (writeFile name b false s).2) :
    (readFile name 0 b.length (writeFile name b false s).2).1 = ⟨b.length, b, 0⟩ ↔
      (s.stored name).length ≤ b.length := by
  refine ⟨fun h => ?_, readFile_writeFile hpos hint hw hr⟩
  obtain ⟨hinit, hfiles⟩ := writeFile_success hpos hw
  have hfile : (writeFile name b false s).2.files name =
      some (overwrite 0 b (s.stored name)) := by rw [hfiles, DataStore.writeFile_self]
  obtain ⟨s', hread, -, hopened, hsame⟩ := readFile_opened 0 b.length hinit hr hfile
  have hwhole := length_of_whole hpos (hread.symm.trans h)
  rw [content_of_opened hopened ((congrFun hsame name).trans hfile),
    Overwrite.length_overwrite_zero] at hwhole
  omega

def holding (name : String) (content : List Byte) : Flash :=
  { bdInit := true
    mounted := false
    opened := none
    files := fun other => if other = name then some content else none
    outcomes := fun _ => .ok
    log := [] }

theorem restored_same_length :
    (readFile "data/sysconfig" 0 2 (writeFile "data/sysconfig" [7, 8] false
      (holding "data/sysconfig" [1, 2])).2).1 = ⟨2, [7, 8], 0⟩ :=
  (restored_iff (s := holding "data/sysconfig" [1, 2]) (b := [7, 8]) (by decide) (by decide)
    (by rfl) (fun _ _ => rfl)).mpr (by decide)

theorem longer_file_remains :
    let s := holding "data/sysconfig" [1, 2, 3]
    let written := writeFile "data/sysconfig" [7, 8] false s
    written.1 = 2 ∧ (readFile "data/sysconfig" 0 2 written.2).1 ≠ ⟨2, [7, 8], 0⟩ := by
  decide

theorem length_le_writeFile (name other : String) (buff : List Byte) (append : Bool) (s : Flash) :
    (s.stored other).length ≤ ((writeFile name buff append s).2.stored other).length := by
  by_cases hother : other = name
  · subst hother
    rcases writeFile_cases other buff append s with ⟨-, hfiles | hfiles⟩ | ⟨k, -, -, -, hfiles⟩
    · rw [stored, stored, hfiles]
    · simp only [stored, hfiles, Function.update_self, Option.getD_some, le_refl]
    · simp only [stored, hfiles, Function.update_self, Option.getD_some]
      cases append with
      | true =>
        rw [if_pos rfl, Overwrite.overwrite_end, List.length_append]
        omega
      | false =>
        rw [if_neg Bool.false_ne_true, Overwrite.length_overwrite_zero]
        omega
  · rcases writeFile_cases name buff append s with ⟨-, hfiles | hfiles⟩ | ⟨k, -, -, -, hfiles⟩
    · rw [stored, stored, hfiles]
    · rw [stored, stored, hfiles, Function.update_of_ne hother]
    · rw [stored, stored, hfiles, Function.update_of_ne hother]

structure Write where
  name : String
  buff : List Byte
  append : Bool

def step (s : Flash) (w : Write) : Flash := (writeFile w.name w.buff w.append s).2

theorem length_le_run (name : String) (s : Flash) (ws : List Write) :
    (s.stored name).length ≤ ((EventRun.run step s ws).stored name).length := by
  have hstep : ∀ s' w, (s.stored name).length ≤ (stored s' name).length →
      (s.stored name).length ≤ (stored (step s' w) name).length :=
    fun s' w h => h.trans (length_le_writeFile w.name name w.buff w.append s')
  exact EventRun.inv_every_run hstep (le_refl _) ws

theorem never_restored {b : List Byte} {ws : List Write} (hpos : 0 < b.length)
    (hint : b.length < 2 ^ 31) (hlong : b.length < (s.stored name).length)
    (hw : (writeFile name b false (EventRun.run step s ws)).1 = b.length)
    (hr : Calm 3 (writeFile name b false (EventRun.run step s ws)).2) :
    (readFile name 0 b.length (writeFile name b false (EventRun.run step s ws)).2).1 ≠
      ⟨b.length, b, 0⟩ := by
  intro hrestored
  have hshort := (restored_iff hpos hint hw hr).mp hrestored
  have hgrown := length_le_run name s ws
  omega

end Flash

end SlcNode
