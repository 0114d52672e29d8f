import SlcNode.Library.Bracketing
import SlcNode.StoredFile

namespace SlcNode

inductive FsResource
  | fileSystem
  | file
deriving DecidableEq

inductive DataStoreCall
  | init (dirname : String)
  | writeFile (name : String) (buff : List Byte) (append : Bool)
  | readFile (name : String) (offset : ℤ) (buffsize : ℕ)
  | removeFile (name : String)

namespace Flash

open Bracketing EventRun

variable {α β : Type} {s s' s'' : Flash}

def call (s : Flash) : DataStoreCall → Flash
  | .init dirname => (init dirname s).2
  | .writeFile name buff append => (writeFile name buff append s).2
  | .readFile name offset buffsize => (readFile name offset buffsize s).2
  | .removeFile name => (removeFile name s).2

def powerOn (files : Files) (outcomes : Stream' Outcome) : Flash :=
  { bdInit := false, mounted := false, opened := none, files := files, outcomes := outcomes, log := [] }

def mark : FsOp × ℤ → Mark FsResource
  | (.mount, ret) => if ret = 0 then .opens .fileSystem else .neutral
  | (.unmount, _) => .closes .fileSystem
  | (.openFile _ _, ret) => if ret = 0 then .opens .file else .neutral
  | (.close, _) => .closes .file
  | _ => .neutral

def bdInits (log : List (FsOp × ℤ)) : ℕ := log.count (.bdInit, 0)

/-- Between the two states everything that was taken has been given back, and the block device
was taken only where the flag did not say so already. -/
structure Tidy (s s' : Flash) : Prop where
  log : ∃ l, s'.log = s.log ++ l ∧ Bracketed mark l ∧ bdInits l + s.bdInit.toNat = s'.bdInit.toNat
  mounted : s'.mounted = s.mounted
  opened : s'.opened.isSome = s.opened.isSome

theorem tidy_refl (s : Flash) : Tidy s s where
  log := ⟨[], (List.append_nil _).symm, .nil, Nat.zero_add _⟩
  mounted := rfl
  opened := rfl

theorem tidy_trans (h : Tidy s s') (h' : Tidy s' s'') : Tidy s s'' where
  log := by
    obtain ⟨l, hlog, hl, hbd⟩ := h.log
    obtain ⟨l', hlog', hl', hbd'⟩ := h'.log
    refine ⟨l ++ l', by rw [hlog', hlog, List.append_assoc], bracketed_append hl hl', ?_⟩
    simp only [bdInits, List.count_append] at hbd hbd' ⊢
    omega
  mounted := h'.mounted.trans h.mounted
  opened := h'.opened.trans h.opened

theorem opened_none_of_tidy (h : Tidy s s') (ho : s.opened = none) : s'.opened = none := by
  have hsome := h.opened
  rw [ho] at hsome
  exact Option.not_isSome_iff_eq_none.mp (by rw [hsome]; exact Bool.false_ne_true)

theorem tidy_neutral {e : FsOp × ℤ} (hlog : s'.log = s.log ++ [e]) (he : mark e = .neutral)
    (hinit : e ≠ (.bdInit, 0)) (hbd : s'.bdInit = s.bdInit) (hm : s'.mounted = s.mounted)
    (ho : s'.opened.isSome = s.opened.isSome) : Tidy s s' where
  log := by
    refine ⟨[e], hlog, bracketed_singleton he, ?_⟩
    rw [bdInits, List.count_singleton, if_neg (by simpa using hinit), Nat.zero_add, hbd]
  mounted := hm
  opened := ho

theorem tidy_ensureBd (s : Flash) : Tidy s (ensureBd s).2 := by
  cases hb : s.bdInit with
  | true =>
    rw [ensureBd_true hb]
    exact tidy_refl s
  | false =>
    have hflag : ¬ (getBdInit s).1 = true := fun h => absurd (hb.symm.trans h) Bool.false_ne_true
    have hrun : ensureBd s = (initBd >>= fun ret => if ret ≠ 0 then pure ret else do
        setBdInit
        pure 0) s := by
      rw [ensureBd, bind_apply, if_neg hflag]
      rfl
    rw [hrun]
    by_cases hc : (initBd s).1 = 0
    · rw [bind_pass initBd _ _ hc]
      refine ⟨⟨[(.bdInit, (initBd s).1)], rfl, bracketed_singleton rfl, ?_⟩, rfl, rfl⟩
      rw [hc, hb]
      rfl
    · rw [bind_goto initBd _ _ hc]
      exact tidy_neutral rfl rfl (fun h => hc (congrArg Prod.snd h)) rfl rfl rfl

theorem perform_log (op : FsOp) (answer : Outcome → Flash → ℤ × Flash) (s : Flash) :
    (perform op answer s).2.log = s.log ++ [(op, (perform op answer s).1)] := rfl

theorem tidy_mount_failed (h : (mount s).1 ≠ 0) : Tidy s (mount s).2 := by
  have hcode : ¬ s.outcomes.head.code = 0 := h
  have hm : (mount s).2.mounted = s.mounted := by simp only [mount, perform, if_neg hcode]
  obtain ⟨hbd, -, ho⟩ := mount_keeps s
  exact tidy_neutral (perform_log _ _ s) (if_neg h) (by simp) hbd hm (by rw [ho])

theorem bdInits_singleton {e : FsOp × ℤ} (he : mark e ≠ .neutral) : bdInits [e] = 0 := by
  refine List.count_singleton.trans (if_neg fun h => he ?_)
  rw [beq_iff_eq.mp h]
  rfl

theorem tidy_around {s₁ s₂ : Flash} {e f : FsOp × ℤ} {k : FsResource} (he : mark e = .opens k)
    (hlog : s₁.log = s.log ++ [e]) (hbd : s₁.bdInit = s.bdInit) (hbody : Tidy s₁ s₂)
    (hf : mark f = .closes k) (hlog' : s'.log = s₂.log ++ [f]) (hbd' : s'.bdInit = s₂.bdInit)
    (hm : s'.mounted = s.mounted) (ho : s'.opened.isSome = s.opened.isSome) : Tidy s s' where
  log := by
    obtain ⟨l, hl, hin, hinits⟩ := hbody.log
    refine ⟨[e] ++ l ++ [f], ?_, bracketed_around he hin hf, ?_⟩
    · rw [hlog', hl, hlog]
      simp only [List.append_assoc]
    · have hen : bdInits [e] = 0 := bdInits_singleton (by rw [he]; nofun)
      have hfn : bdInits [f] = 0 := bdInits_singleton (by rw [hf]; nofun)
      rw [hbd] at hinits
      rw [hbd', ← hinits]
      simp only [bdInits, List.count_append] at hen hfn ⊢
      omega
  mounted := hm
  opened := ho

theorem tidy_mounted (h : (mount s).1 = 0) (hm : s.mounted = false) (hbody : Tidy (mount s).2 s') :
    Tidy s (unmount s').2 := by
  have he : mark (.mount, (mount s).1) = .opens .fileSystem := if_pos h
  obtain ⟨hbd, -, ho⟩ := mount_keeps s
  refine tidy_around (f := (.unmount, 0)) he (perform_log _ _ s) hbd hbody rfl rfl rfl hm.symm ?_
  rw [← ho]
  exact hbody.opened

theorem openFile_keeps (name : String) (flags : List OpenFlag) (s : Flash) :
    (openFile name flags s).2.bdInit = s.bdInit ∧ (openFile name flags s).2.mounted = s.mounted ∧
      ((openFile name flags s).1 ≠ 0 → (openFile name flags s).2.opened = s.opened) := by
  simp only [openFile, perform]
  split_ifs
  · exact ⟨rfl, rfl, fun _ => rfl⟩
  · exact ⟨rfl, rfl, fun _ => rfl⟩
  all_goals exact ⟨rfl, rfl, fun h => absurd rfl h⟩

theorem tidy_openFile_failed {name : String} {flags : List OpenFlag}
    (h : (openFile name flags s).1 ≠ 0) : Tidy s (openFile name flags s).2 := by
  have he : mark (.openFile name flags, (openFile name flags s).1) = .neutral := if_neg h
  obtain ⟨hbd, hm, ho⟩ := openFile_keeps name flags s
  exact tidy_neutral (perform_log _ _ s) he (by simp) hbd hm (by rw [ho h])

theorem tidy_opened {name : String} {flags : List OpenFlag} (h : (openFile name flags s).1 = 0)
    (ho : s.opened = none) (hbody : Tidy (openFile name flags s).2 s') : Tidy s (close s').2 := by
  have he : mark (.openFile name flags, (openFile name flags s).1) = .opens .file := if_pos h
  obtain ⟨hbd, hm, -⟩ := openFile_keeps name flags s
  refine tidy_around (f := (.close, 0)) he (perform_log _ _ s) hbd hbody rfl rfl rfl ?_ ?_
  · exact hbody.mounted.trans hm
  · rw [ho]
    rfl

theorem tidy_format (s : Flash) : Tidy s (format s).2 := by
  have hkeep : (format s).2.bdInit = s.bdInit ∧ (format s).2.mounted = s.mounted ∧
      (format s).2.opened = s.opened := by
    simp only [format, perform]
    split_ifs <;> exact ⟨rfl, rfl, rfl⟩
  obtain ⟨hbd, hm, ho⟩ := hkeep
  exact tidy_neutral (perform_log _ _ s) rfl (by simp) hbd hm (by rw [ho])

theorem tidy_mkdir (dirname : String) (s : Flash) : Tidy s (mkdir dirname s).2 :=
  tidy_neutral (perform_log _ _ s) rfl (by simp) rfl rfl rfl

theorem tidy_read (readsize : ℤ) (s : Flash) : Tidy s (read readsize s).2 :=
  tidy_neutral (e := (.read _, (read readsize s).1.1)) rfl rfl (by simp) rfl rfl rfl

theorem tidy_write (buff : List Byte) (s : Flash) : Tidy s (write buff s).2 := by
  have hkeep : (write buff s).2.bdInit = s.bdInit ∧ (write buff s).2.mounted = s.mounted ∧
      (write buff s).2.opened.isSome = s.opened.isSome := by
    cases ho : s.opened <;>
    · simp only [write, perform, ho]
      split_ifs <;> simp [ho]
  obtain ⟨hbd, hm, ho⟩ := hkeep
  exact tidy_neutral (perform_log _ _ s) rfl (by simp) hbd hm ho

theorem tidy_remove (name : String) (s : Flash) : Tidy s (remove name s).2 := by
  have hkeep : (remove name s).2.bdInit = s.bdInit ∧ (remove name s).2.mounted = s.mounted ∧
      (remove name s).2.opened = s.opened := by
    simp only [remove, perform]
    split_ifs <;> exact ⟨rfl, rfl, rfl⟩
  obtain ⟨hbd, hm, ho⟩ := hkeep
  exact tidy_neutral (perform_log _ _ s) rfl (by simp) hbd hm (by rw [ho])

theorem tidy_seek (offset : ℤ) (s : Flash) : Tidy s (seek offset s).2 := by
  unfold seek
  split_ifs
  · exact { tidy_refl s with opened := Option.isSome_map }
  · exact tidy_refl s

theorem tidy_readOpened (offset : ℤ) (buffsize : ℕ) (s : Flash) :
    Tidy s (readOpened offset buffsize s).2 := by
  rw [readOpened, bind_apply]
  split_ifs
  · exact tidy_refl s
  all_goals
    dsimp only
    rw [bind_apply, bind_apply]
    exact tidy_trans (tidy_seek offset s) (tidy_read _ _)

theorem tidy_withFile (name : String) (flags : List OpenFlag) (fail : ℤ → α) (body : Fs α)
    (hbody : ∀ s, Tidy s (body s).2) (ho : s.opened = none) :
    Tidy s (withFile name flags fail body s).2 := by
  rw [withFile]
  by_cases hc : (openFile name flags s).1 = 0
  · rw [bind_pass _ _ _ hc, bind_apply]
    exact tidy_opened hc ho (hbody _)
  · rw [bind_goto _ _ _ hc]
    exact tidy_openFile_failed hc

theorem tidy_withMount (fail : ℤ → α) (body : Fs α)
    (hbody : ∀ s, s.opened = none → Tidy s (body s).2) (hm : s.mounted = false)
    (ho : s.opened = none) : Tidy s (withMount fail body s).2 := by
  have hbd := tidy_ensureBd s
  have hm' : (ensureBd s).2.mounted = false := hbd.mounted.trans hm
  have ho' : (mount (ensureBd s).2).2.opened = none := by
    rw [(mount_keeps _).2.2]
    exact opened_none_of_tidy hbd ho
  rw [withMount]
  by_cases hc : (ensureBd s).1 = 0
  · rw [bind_pass _ _ _ hc]
    by_cases hc' : (mount (ensureBd s).2).1 = 0
    · rw [bind_pass _ _ _ hc', bind_apply]
      exact tidy_trans hbd (tidy_mounted hc' hm' (hbody _ ho'))
    · rw [bind_goto _ _ _ hc']
      exact tidy_trans hbd (tidy_mount_failed hc')
  · rw [bind_goto _ _ _ hc]
    exact hbd

theorem mountFormatted_cases (s : Flash) :
    ((mountFormatted s).1 ≠ 0 ∧ Tidy s (mountFormatted s).2) ∨
      ∃ s₁, Tidy s s₁ ∧ (mount s₁).1 = 0 ∧ mountFormatted s = (0, (mount s₁).2) := by
  rw [mountFormatted, bind_apply]
  by_cases hc : (mount s).1 = 0
  · rw [if_pos hc]
    exact .inr ⟨s, tidy_refl s, hc, rfl⟩
  have hformat := tidy_trans (tidy_mount_failed hc) (tidy_format (mount s).2)
  rw [if_neg hc]
  by_cases hf : (format (mount s).2).1 = 0
  · rw [bind_pass _ _ _ hf]
    by_cases hc' : (mount (format (mount s).2).2).1 = 0
    · exact .inr ⟨_, hformat, hc', Prod.ext hc' rfl⟩
    · exact .inl ⟨hc', tidy_trans hformat (tidy_mount_failed hc')⟩
  · rw [bind_goto _ _ _ hf]
    exact .inl ⟨hf, hformat⟩

theorem tidy_init (dirname : String) (hm : s.mounted = false) : Tidy s (init dirname s).2 := by
  have hbd := tidy_ensureBd s
  have hm' : (ensureBd s).2.mounted = false := hbd.mounted.trans hm
  rw [init]
  by_cases hc : (ensureBd s).1 = 0
  · rw [bind_pass _ _ _ hc]
    rcases mountFormatted_cases (ensureBd s).2 with ⟨hc', ht⟩ | ⟨s₁, ht, hc', heq⟩
    · rw [bind_goto _ _ _ hc']
      exact tidy_trans hbd ht
    · rw [bind_pass _ _ _ (by rw [heq]), heq, bind_apply]
      exact tidy_trans (tidy_trans hbd ht)
        (tidy_mounted hc' (ht.mounted.trans hm') (tidy_mkdir dirname _))
  · rw [bind_goto _ _ _ hc]
    exact hbd

theorem tidy_call (c : DataStoreCall) (hm : s.mounted = false) (ho : s.opened = none) :
    Tidy s (s.call c) := by
  cases c with
  | init dirname => exact tidy_init dirname hm
  | writeFile name buff append =>
    exact tidy_withMount id _ (fun _ => tidy_withFile _ _ _ _ (tidy_write buff)) hm ho
  | readFile name offset buffsize =>
    exact tidy_withMount _ _ (fun _ => tidy_withFile _ _ _ _ (tidy_readOpened offset buffsize)) hm ho
  | removeFile name => exact tidy_withMount id _ (fun s _ => tidy_remove name s) hm ho

structure AtRest (s : Flash) : Prop where
  mounted : s.mounted = false
  opened : s.opened = none
  inits : bdInits s.log = s.bdInit.toNat

theorem atRest_call (h : AtRest s) (c : DataStoreCall) : AtRest (s.call c) := by
  have ht := tidy_call c h.mounted h.opened
  refine ⟨ht.mounted.trans h.mounted, opened_none_of_tidy ht h.opened, ?_⟩
  obtain ⟨l, hlog, -, hinits⟩ := ht.log
  rw [hlog, bdInits, List.count_append, ← hinits, ← h.inits, Nat.add_comm]
  rfl

theorem atRest_run (files : Files) (outcomes : Stream' Outcome) (cs : List DataStoreCall) :
    AtRest (run call (powerOn files outcomes) cs) := by
  have hstart : AtRest (powerOn files outcomes) := ⟨rfl, rfl, rfl⟩
  have hstep : ∀ s c, AtRest s → AtRest (call s c) := fun _ c h => atRest_call h c
  exact inv_every_run hstep hstart cs

theorem calls_disciplined (files : Files) (outcomes : Stream' Outcome) (cs : List DataStoreCall)
    (c : DataStoreCall) :
    let before := run call (powerOn files outcomes) cs
    let after := before.call c
    after.mounted = false ∧ after.opened = none ∧ bdInits after.log ≤ 1 ∧
      ∃ l, after.log = before.log ++ l ∧ Bracketed mark l ∧
        ∀ k, (l.map mark).count (.opens k) = (l.map mark).count (.closes k) := by
  intro before after
  have hrest : AtRest before := atRest_run files outcomes cs
  have hrest' : AtRest after := atRest_call hrest c
  obtain ⟨l, hlog, hl, -⟩ := (tidy_call c hrest.mounted hrest.opened).log
  refine ⟨hrest'.mounted, hrest'.opened, ?_, l, hlog, hl, count_bracketed hl⟩
  rw [hrest'.inits]
  exact Bool.toNat_le _

end Flash

end SlcNode
