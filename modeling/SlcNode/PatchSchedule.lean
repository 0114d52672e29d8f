import SlcNode.Bspatch

namespace SlcNode.Bspatch

/-- The application never reports an error of its own. -/
def Obliging (completions : Stream' Completion) : Prop := ∀ k, completions.get k ≠ .error

theorem obliging_tail {cs : Stream' Completion} (h : Obliging cs) : Obliging cs.tail :=
  fun k => h (k + 1)

theorem head_of_obliging {cs : Stream' Completion} (h : Obliging cs) :
    cs.head = .immediately ∨ cs.head = .later := by
  have h0 : cs.head ≠ .error := h 0
  cases hc : cs.head with
  | immediately => exact .inl rfl
  | later => exact .inr rfl
  | error => exact absurd hc h0

/-- What a turn comes to, whichever way the application ends its operations: a status of its own,
or an operation to wait for. -/
inductive Turn
  | goes (status : BsPatchApiReturnCode) (stream : BspatchStream) (files : PatchFiles)
  | asks (later : BsPatchApiReturnCode) (event : BsPatchApiEvent) (nextState : BsPatchState)
      (stream : BspatchStream) (files : PatchFiles)

namespace Turn

def status : Turn → BsPatchApiReturnCode
  | goes status _ _ => status
  | asks _ _ _ _ _ => .operationDoneImmediately

def stream : Turn → BspatchStream
  | goes _ s _ => s
  | asks _ _ nextState s _ => { s with nextState := nextState, expectedExternalEvent := none }

def files : Turn → PatchFiles
  | goes _ _ f => f
  | asks _ _ _ _ f => f

inductive Of : Turn → (Stream' Completion → BsPatchApiReturnCode × BsPatch) → Prop
  | goes {status : BsPatchApiReturnCode} {s : BspatchStream} {f : PatchFiles}
      {g : Stream' Completion → BsPatchApiReturnCode × BsPatch} :
      status.completion = none →
      (∀ cs, ∃ cs', (Obliging cs → Obliging cs') ∧ g cs = (status, ⟨s, f, cs'⟩)) →
      Of (.goes status s f) g
  | asks {later : BsPatchApiReturnCode} {event : BsPatchApiEvent} {nextState : BsPatchState}
      {s : BspatchStream} {f : PatchFiles}
      {g : Stream' Completion → BsPatchApiReturnCode × BsPatch} :
      later.completion = some event →
      (∀ cs, g cs =
        (answer later cs.head, ⟨waitFor (answer later cs.head) nextState event s, f, cs.tail⟩)) →
      Of (.asks later event nextState s f) g

end Turn

section Operations

variable (s : BspatchStream) (f : PatchFiles) (next : BsPatchState)

theorem turn_internal {status : BsPatchApiReturnCode} (h : status.completion = none) :
    Turn.Of (.goes status s f) fun cs => (status, ⟨s, f, cs⟩) :=
  .goes h fun cs => ⟨cs, id, rfl⟩

theorem turn_readPatch {n : ℕ} (store : List Byte → BspatchStream → BspatchStream)
    (h : n ≤ f.patch.length) :
    Turn.Of (.asks .patchReadWillCompleteLater .readPatchDone next
        (store (f.patch.take n) s) { f with patch := f.patch.drop n })
      fun cs => readPatch n store next ⟨s, f, cs⟩ := by
  refine .asks rfl fun cs => ?_
  simp only [readPatch, if_pos h]

theorem turn_readPatch_short {n : ℕ} (store : List Byte → BspatchStream → BspatchStream)
    (h : ¬n ≤ f.patch.length) :
    Turn.Of (.goes .errFileIo (waitFor .errFileIo next .readPatchDone (store (f.patch.take n) s))
        { f with patch := f.patch.drop n })
      fun cs => readPatch n store next ⟨s, f, cs⟩ := by
  refine .goes rfl fun cs => ⟨cs.tail, obliging_tail, ?_⟩
  simp only [readPatch, if_neg h]

theorem turn_readOld {n : ℕ} (h : 0 ≤ f.oldPos ∧ f.oldPos + n ≤ f.old.length) :
    Turn.Of (.asks .oldFileReadWillCompleteLater .readOldDone next
        { s with bufferForCompressedData := (f.old.drop f.oldPos.toNat).take n }
        { f with oldPos := f.oldPos + n })
      fun cs => readOld n next ⟨s, f, cs⟩ := by
  refine .asks rfl fun cs => ?_
  simp only [readOld, if_pos h]

theorem turn_readOld_short {n : ℕ} (h : ¬(0 ≤ f.oldPos ∧ f.oldPos + n ≤ f.old.length)) :
    Turn.Of (.goes .errFileIo (waitFor .errFileIo next .readOldDone
        { s with bufferForCompressedData := (f.old.drop f.oldPos.toNat).take n })
        { f with oldPos := f.oldPos + n })
      fun cs => readOld n next ⟨s, f, cs⟩ := by
  refine .goes rfl fun cs => ⟨cs.tail, obliging_tail, ?_⟩
  simp only [readOld, if_neg h]

theorem turn_seekOld (diff : ℤ) :
    Turn.Of (.asks .oldFileSeekWillCompleteLater .seekOldDone next s
        { f with oldPos := f.oldPos + diff })
      fun cs => seekOld diff next ⟨s, f, cs⟩ :=
  .asks rfl fun _ => rfl

theorem turn_writeNew (buffer : List Byte) :
    Turn.Of (.asks .newFileWriteWillCompleteLater .writeNewDone next s
        { f with new := f.new ++ buffer })
      fun cs => writeNew buffer next ⟨s, f, cs⟩ :=
  .asks rfl fun _ => rfl

end Operations

section Turns

variable (lz : Lz4) (s : BspatchStream) (f : PatchFiles)

theorem readPatch_turn (n : ℕ) (store : List Byte → BspatchStream → BspatchStream)
    (next : BsPatchState) : ∃ t, Turn.Of t fun cs => readPatch n store next ⟨s, f, cs⟩ := by
  by_cases h : n ≤ f.patch.length
  · exact ⟨_, turn_readPatch s f next store h⟩
  · exact ⟨_, turn_readPatch_short s f next store h⟩

theorem readOld_turn (n : ℕ) (next : BsPatchState) :
    ∃ t, Turn.Of t fun cs => readOld n next ⟨s, f, cs⟩ := by
  by_cases h : 0 ≤ f.oldPos ∧ f.oldPos + n ≤ f.old.length
  · exact ⟨_, turn_readOld s f next h⟩
  · exact ⟨_, turn_readOld_short s f next h⟩

theorem readDeCompressBuffer_turn (next : BsPatchState) :
    ∃ t, Turn.Of t fun cs => readDeCompressBuffer next ⟨s, f, cs⟩ := by
  by_cases h : s.varInt.toInt > s.maxDeCompressBuffer.toNat
  · simp only [readDeCompressBuffer, if_pos h]
    exact ⟨_, turn_internal _ f rfl⟩
  · simp only [readDeCompressBuffer, if_neg h]
    exact readPatch_turn _ f _ _ _

theorem readInitialHeader_completion : (readInitialHeader s).1.completion = none := by
  unfold readInitialHeader
  split_ifs <;> first | rfl | (dsimp only; split_ifs <;> rfl)

theorem allocWorkingBuffers_completion : (allocWorkingBuffers s).completion = none := by
  unfold allocWorkingBuffers
  split_ifs <;> rfl

theorem readVarIntEventified_completion (isSigned : Bool) :
    (readVarIntEventified isSigned s).1.completion = none := by
  unfold readVarIntEventified
  dsimp only
  split
  · rfl
  · next code _ h =>
    split_ifs at h <;> cases h <;> rfl
  · rfl

theorem readDeCompressBufferProcess_status :
    (readDeCompressBufferProcess lz s).1 = .operationDoneImmediately ∨
      (readDeCompressBufferProcess lz s).1 = .errCorruptedPatch := by
  unfold readDeCompressBufferProcess
  split
  · exact ite_eq_or_eq _ _ _
  · exact .inr rfl

theorem readDeCompressBufferProcess_completion :
    (readDeCompressBufferProcess lz s).1.completion = none := by
  rcases readDeCompressBufferProcess_status lz s with h | h <;> rw [h] <;> rfl

theorem singleItem_turn : ∃ t, Turn.Of t fun cs =>
    match readDeCompressBufferProcess lz s with
    | (.operationDoneImmediately, s) =>
      writeNew s.nonCompressedDataBuffer .processExtraLenSingleItemContinuePostStep ⟨s, f, cs⟩
    | (status, s) => (status, ⟨waitFor status .processExtraLenSingleItemContinuePostStep
        .writeNewDone s, f, cs⟩) := by
  have hst := readDeCompressBufferProcess_status lz s
  rcases h : readDeCompressBufferProcess lz s with ⟨status, s'⟩
  rw [h] at hst
  rcases hst with rfl | rfl
  · exact ⟨_, turn_writeNew s' f _ _⟩
  · exact ⟨_, turn_internal _ f rfl⟩

theorem iterate_turn : ∃ t, Turn.Of t fun cs => iterate lz ⟨s, f, cs⟩ := by
  simp only [iterate]
  cases s.nextState
  all_goals simp only [onState]
  case initial =>
    split_ifs
    · exact readPatch_turn s f _ _ _
    · exact ⟨_, turn_internal _ f rfl⟩
  case initialPatchReadDone => exact ⟨_, turn_internal _ f (readInitialHeader_completion s)⟩
  case allocWorkingBuffer => exact ⟨_, turn_internal _ f (allocWorkingBuffers_completion s)⟩
  case readDataSegment => split_ifs <;> exact ⟨_, turn_internal _ f rfl⟩
  case processVarintPiece =>
    exact ⟨_, turn_internal _ f (readVarIntEventified_completion s _)⟩
  case processSinglePieceContinue =>
    exact ⟨_, turn_internal _ f (readDeCompressBufferProcess_completion lz s)⟩
  case processSinglePieceContinue2 =>
    split_ifs
    · exact readOld_turn _ f _ _
    · exact readOld_turn _ f _ _
    · exact ⟨_, turn_internal _ f rfl⟩
  case writePart => exact ⟨_, turn_writeNew _ f _ _⟩
  case processExtraLenPostStep => exact ⟨_, turn_seekOld _ f _ _⟩
  case processSinglePiece | processExtraLenSingleItem => exact readDeCompressBuffer_turn s f _
  case processExtraLenSingleItemContinue => exact singleItem_turn lz s f
  case readCtrlDiffStrLen | readCtrlExtraStrLenY | readCtrlOldFileCtrlOffSetJump | readFrameLen |
      readVarintPiece => exact readPatch_turn _ f _ _ _
  case postActions | processExtraLenSingleItemContinuePostStep =>
    split_ifs <;> exact ⟨_, turn_internal _ f rfl⟩
  case processExtraLen => split_ifs <;> exact ⟨_, turn_internal _ f rfl⟩
  all_goals exact ⟨_, turn_internal _ f rfl⟩

end Turns

inductive Comes (lz : Lz4) :
    BspatchStream → PatchFiles → BsPatchApiReturnCode → PatchFiles → Prop
  | done {s : BspatchStream} {f : PatchFiles} {t : Turn} :
      (t.Of fun cs => iterate lz ⟨s, f, cs⟩) → isPatchingDone t.stream = true →
      Comes lz s f .patchDone t.files
  | stops {s : BspatchStream} {f : PatchFiles} {t : Turn} :
      (t.Of fun cs => iterate lz ⟨s, f, cs⟩) → isPatchingDone t.stream = false →
      t.status ≠ .operationDoneImmediately → Comes lz s f t.status t.files
  | goes {s : BspatchStream} {f f' : PatchFiles} {t : Turn} {code : BsPatchApiReturnCode} :
      (t.Of fun cs => iterate lz ⟨s, f, cs⟩) → isPatchingDone t.stream = false →
      t.status = .operationDoneImmediately → Comes lz t.stream t.files code f' →
      Comes lz s f code f'

def finish (lz : Lz4) (fuel : ℕ) (r : BsPatchApiReturnCode × BsPatch) :
    Option (BsPatchApiReturnCode × BsPatch) :=
  match r.1.completion with
  | some event => drive lz fuel event r.2
  | none => some r

theorem drive_succ (lz : Lz4) (fuel : ℕ) (event : BsPatchApiEvent) (m : BsPatch) :
    drive lz (fuel + 1) event m = (processPatchEvent lz fuel event m).bind (finish lz fuel) := by
  rw [drive]
  rcases processPatchEvent lz fuel event m with _ | ⟨code, m'⟩ <;> rfl

theorem drive_expected {lz : Lz4} {fuel : ℕ} {event : BsPatchApiEvent} {s : BspatchStream}
    {f : PatchFiles} {cs : Stream' Completion} (h : s.expectedExternalEvent = some event) :
    drive lz (fuel + 1) event ⟨s, f, cs⟩ =
      (processLoop lz fuel ⟨{ s with expectedExternalEvent := none }, f, cs⟩).bind
        (finish lz fuel) := by
  rw [drive_succ, processPatchEvent, if_neg (not_not_intro h)]

theorem drive_waitFor {lz : Lz4} {fuel : ℕ} {later : BsPatchApiReturnCode}
    {event : BsPatchApiEvent} {next : BsPatchState} {s : BspatchStream} {f : PatchFiles}
    {cs : Stream' Completion} (h : later.completion = some event) :
    drive lz (fuel + 1) event ⟨waitFor later next event s, f, cs⟩ =
      (processLoop lz fuel
        ⟨{ s with nextState := next, expectedExternalEvent := none }, f, cs⟩).bind
          (finish lz fuel) := by
  rw [drive_expected (by cases later <;> cases h <;> rfl)]
  rfl

theorem finish_final {lz : Lz4} {fuel : ℕ} {c : BsPatchApiReturnCode} {m : BsPatch}
    (h : c.completion = none) : finish lz fuel (c, m) = some (c, m) := by
  rw [finish, h]

theorem finish_later {lz : Lz4} {fuel : ℕ} {c : BsPatchApiReturnCode} {event : BsPatchApiEvent}
    {m : BsPatch} (h : c.completion = some event) :
    finish lz fuel (c, m) = drive lz fuel event m := by
  rw [finish, h]

theorem processLoop_succ (lz : Lz4) (fuel : ℕ) (m : BsPatch) :
    processLoop lz (fuel + 1) m =
      if isPatchingDone (iterate lz m).2.stream then some (.patchDone, (iterate lz m).2)
      else if (iterate lz m).1 = .operationDoneImmediately then
        processLoop lz fuel (iterate lz m).2
      else some (iterate lz m) := by
  rw [processLoop]

section Shape

variable {t : Turn} {g : Stream' Completion → BsPatchApiReturnCode × BsPatch}

theorem Turn.Of.view (h : t.Of g) (cs : Stream' Completion) :
    isPatchingDone (g cs).2.stream = isPatchingDone t.stream ∧ (g cs).2.files = t.files := by
  cases h with
  | goes _ hg =>
    obtain ⟨cs', -, hcs'⟩ := hg cs
    rw [hcs']
    exact ⟨rfl, rfl⟩
  | asks _ hg =>
    rw [hg cs]
    exact ⟨rfl, rfl⟩

theorem Turn.Of.goesOn (h : t.Of g) (ht : t.status = .operationDoneImmediately)
    {cs : Stream' Completion} (hcs : Obliging cs) : ∃ cs', Obliging cs' ∧
      (g cs = (.operationDoneImmediately, ⟨t.stream, t.files, cs'⟩) ∨
        ∃ later event next s, later.completion = some event ∧
          t.stream = { s with nextState := next, expectedExternalEvent := none } ∧
          g cs = (later, ⟨waitFor later next event s, t.files, cs'⟩)) := by
  cases h with
  | goes _ hg =>
    obtain ⟨cs', hob, hcs'⟩ := hg cs
    refine ⟨cs', hob hcs, .inl ?_⟩
    rw [hcs']
    exact congrArg (·, _) ht
  | @asks later event next s f _ hl hg =>
    refine ⟨cs.tail, obliging_tail hcs, ?_⟩
    rw [hg cs]
    rcases head_of_obliging hcs with hhead | hhead
    · exact .inl (by rw [hhead]; rfl)
    · exact .inr ⟨later, event, next, s, hl, rfl, by rw [hhead]; rfl⟩

theorem Turn.Of.stops (h : t.Of g) (ht : t.status ≠ .operationDoneImmediately)
    (cs : Stream' Completion) :
    t.status.completion = none ∧ ∃ cs', g cs = (t.status, ⟨t.stream, t.files, cs'⟩) := by
  cases h with
  | goes hst hg =>
    obtain ⟨cs', -, hcs'⟩ := hg cs
    exact ⟨hst, cs', hcs'⟩
  | asks => exact absurd rfl ht

end Shape

theorem not_immediate {later : BsPatchApiReturnCode} {event : BsPatchApiEvent}
    (h : later.completion = some event) : later ≠ .operationDoneImmediately := by
  rintro rfl
  cases h

section Ends

variable {lz : Lz4} {s : BspatchStream} {f r : PatchFiles} {code : BsPatchApiReturnCode}
  {cs : Stream' Completion}

theorem ends_of_comes (h : Comes lz s f code r) (hcs : Obliging cs) :
    ∃ n, ∀ j ≥ n, ∀ k ≥ n, ∃ m, (processLoop lz j ⟨s, f, cs⟩).bind (finish lz k) = some (code, m) ∧
      m.files = r := by
  induction h generalizing cs with
  | @done s f t ht hdone =>
    obtain ⟨hd, hf⟩ := ht.view cs
    refine ⟨1, fun j hj k _ => ⟨_, ?_, hf⟩⟩
    obtain ⟨j, rfl⟩ := Nat.exists_eq_succ_of_ne_zero (Nat.ne_of_gt hj)
    rw [processLoop_succ, if_pos (hd.trans hdone), Option.bind_some]
    exact finish_final (c := .patchDone) rfl
  | @stops s f t ht hdone hst =>
    obtain ⟨hd, hf⟩ := ht.view cs
    obtain ⟨hfin, cs', hg⟩ := ht.stops hst cs
    refine ⟨1, fun j hj k _ => ⟨⟨t.stream, t.files, cs'⟩, ?_, rfl⟩⟩
    obtain ⟨j, rfl⟩ := Nat.exists_eq_succ_of_ne_zero (Nat.ne_of_gt hj)
    rw [processLoop_succ, hg, if_neg (by rw [hdone]; exact Bool.false_ne_true), if_neg hst]
    exact finish_final hfin
  | @goes s f f' t code ht hdone hst hrest ih =>
    obtain ⟨hd, -⟩ := ht.view cs
    rw [hdone] at hd
    obtain ⟨cs', hcs', hg⟩ := ht.goesOn hst hcs
    obtain ⟨n, hn⟩ := ih hcs'
    refine ⟨n + 1, fun j hj k hk => ?_⟩
    obtain ⟨j, rfl⟩ := Nat.exists_eq_succ_of_ne_zero (by omega : j ≠ 0)
    obtain ⟨k, rfl⟩ := Nat.exists_eq_succ_of_ne_zero (by omega : k ≠ 0)
    rw [processLoop_succ, if_neg (by rw [hd]; exact Bool.false_ne_true)]
    rcases hg with hg | ⟨later, event, next, s1, hl, hs1, hg⟩
    · rw [hg, if_pos rfl]
      exact hn j (by omega) (k + 1) (by omega)
    · rw [hg, if_neg (not_immediate hl)]
      rw [Option.bind_some, finish_later hl, drive_waitFor hl, ← hs1]
      exact hn k (by omega) k (by omega)

theorem comes_of_ends {j k : ℕ} {m : BsPatch} (hcs : Obliging cs)
    (h : (processLoop lz j ⟨s, f, cs⟩).bind (finish lz k) = some (code, m)) :
    Comes lz s f code m.files := by
  -- The loop runs on its own fuel, and each wait starts it again on what the application has left.
  induction k using Nat.strong_induction_on generalizing j s f cs with
  | _ k ihk =>
  induction j generalizing s f cs with
  | zero => cases h
  | succ j ihj =>
    obtain ⟨t, ht⟩ := iterate_turn lz s f
    obtain ⟨hd, hf⟩ := ht.view cs
    rw [processLoop_succ, hd] at h
    cases hdone : isPatchingDone t.stream with
    | true =>
      rw [if_pos hdone, Option.bind_some, finish_final (c := .patchDone) rfl] at h
      cases h
      rw [hf]
      exact .done ht hdone
    | false =>
      rw [if_neg (by rw [hdone]; exact Bool.false_ne_true)] at h
      by_cases hst : t.status = .operationDoneImmediately
      · refine .goes ht hdone hst ?_
        obtain ⟨cs', hcs', hg | ⟨later, event, next, s1, hl, hs1, hg⟩⟩ := ht.goesOn hst hcs
        · rw [hg, if_pos rfl] at h
          exact ihj hcs' h
        · rw [hg, if_neg (not_immediate hl), Option.bind_some, finish_later hl] at h
          cases k with
          | zero => cases h
          | succ k =>
            rw [drive_waitFor hl, ← hs1] at h
            exact ihk k (Nat.lt_succ_self k) hcs' h
      · obtain ⟨hfin, cs', hg⟩ := ht.stops hst cs
        rw [hg, if_neg hst, Option.bind_some, finish_final hfin] at h
        cases h
        exact .stops ht hdone hst

end Ends

theorem patch_succ (lz : Lz4) (mem : BsMemoryBuffer) (fuel : ℕ) (p old : List Byte)
    (cs : Stream' Completion) :
    patch lz mem (fuel + 1) p old cs =
      (processLoop lz fuel ⟨{ init mem with expectedExternalEvent := none }, ⟨p, old, 0, []⟩, cs⟩
        ).bind (finish lz fuel) :=
  drive_expected rfl

theorem schedule_independent (lz : Lz4) (mem : BsMemoryBuffer) {p old : List Byte}
    {cs cs' : Stream' Completion} {fuel : ℕ} {code : BsPatchApiReturnCode} {m : BsPatch}
    (hcs : Obliging cs) (hcs' : Obliging cs') (h : patch lz mem fuel p old cs = some (code, m)) :
    ∃ n, ∀ k ≥ n, ∃ m', patch lz mem k p old cs' = some (code, m') ∧ m'.files = m.files := by
  cases fuel with
  | zero => cases h
  | succ fuel =>
    rw [patch_succ] at h
    obtain ⟨n, hn⟩ := ends_of_comes (comes_of_ends hcs h) hcs'
    refine ⟨n + 1, fun k hk => ?_⟩
    obtain ⟨k, rfl⟩ := Nat.exists_eq_succ_of_ne_zero (by omega : k ≠ 0)
    rw [patch_succ]
    exact hn k (by omega) k (by omega)

theorem obliging_const {c : Completion} (h : c ≠ .error) : Obliging (Stream'.const c) :=
  fun _ => h

def shortPatch : List Byte :=
  fileMagic ++ [3, 0, 0, 0, 0, 0, 0, 0, 64, 0, 0, 0, 0, 0, 0, 0, 4, 0, 0, 0, 0, 0, 0, 0,
    0, 3, 0, 4, 48, 1, 3, 4]

theorem schedule_independent_slow : ∃ n, ∀ k ≥ n, ∃ m',
    patch .literals .inRam k shortPatch [1, 2] (Stream'.const .later) = some (.patchDone, m') ∧
      m'.files = ⟨[], [1, 2], 0, [1, 3, 4]⟩ := by
  have hquick : (patch .literals .inRam 60 shortPatch [1, 2] (Stream'.const .immediately)).map
      (fun r => (r.1, r.2.files)) = some (.patchDone, ⟨[], [1, 2], 0, [1, 3, 4]⟩) := by decide
  obtain ⟨⟨code, m⟩, hm, hr⟩ := Option.map_eq_some_iff.mp hquick
  obtain ⟨rfl, hfiles⟩ := Prod.mk.inj hr
  rw [← hfiles]
  exact schedule_independent _ _ (obliging_const (by decide)) (obliging_const (by decide)) hm

end SlcNode.Bspatch
