import SlcNode.CustomAtCmd

namespace SlcNode.CommandText

open EventRun CustomAt

def percent : Byte := 0x25

def printf (conv : List Byte → List Byte) : List Byte → List Byte
  | [] => []
  | c :: rest =>
    if c = percent then
      match rest with
      | [] => conv []
      | d :: rest' => if d = percent then percent :: printf conv rest' else conv (d :: rest')
    else c :: printf conv rest

theorem printf_cons_of_ne (conv : List Byte → List Byte) {c : Byte} (hc : c ≠ percent)
    (rest : List Byte) : printf conv (c :: rest) = c :: printf conv rest := by
  rw [printf.eq_def]
  exact if_neg hc

theorem printf_of_not_mem (conv : List Byte → List Byte) {s : List Byte} (h : percent ∉ s) :
    printf conv s = s := by
  induction s with
  | nil => rfl
  | cons c rest ih =>
    rw [List.mem_cons, not_or] at h
    rw [printf_cons_of_ne conv (Ne.symm h.1), ih h.2]

theorem printf_length_le (s : List Byte) : (printf (fun _ => []) s).length ≤ s.length := by
  fun_induction printf (fun _ => []) s with
  | case1 => exact le_refl _
  | case2 => exact Nat.zero_le _
  | case3 rest' ih =>
    simp only [List.length_cons]
    omega
  | case4 => exact Nat.zero_le _
  | case5 c rest hc ih =>
    simp only [List.length_cons]
    omega

theorem printf_percent_lt (rest : List Byte) :
    (printf (fun _ => []) (percent :: rest)).length < rest.length + 1 := by
  rw [printf.eq_def]
  dsimp only
  rw [if_pos rfl]
  cases rest with
  | nil => exact Nat.zero_lt_one
  | cons d rest' =>
    have hle := printf_length_le rest'
    dsimp only
    split_ifs
    · simp only [List.length_cons]
      omega
    · exact Nat.zero_lt_succ _

theorem printf_length_lt {s : List Byte} (h : percent ∈ s) :
    (printf (fun _ => []) s).length < s.length := by
  induction s with
  | nil => exact absurd h List.not_mem_nil
  | cons c rest ih =>
    by_cases hc : c = percent
    · rw [hc]
      exact printf_percent_lt rest
    · have hrest := ih ((List.mem_cons.mp h).resolve_left (Ne.symm hc))
      rw [printf_cons_of_ne _ hc]
      simp only [List.length_cons]
      omega

theorem printed_iff (s : List Byte) :
    (∀ conv, (printf conv s).take (resourceMaxAtCmdStringSize - 1) = s) ↔
      s.length < resourceMaxAtCmdStringSize ∧ percent ∉ s := by
  constructor
  · intro h
    have hlen := congrArg List.length (h fun _ => [])
    have hle := printf_length_le s
    rw [List.length_take] at hlen
    change min 19 _ = _ at hlen
    refine ⟨Nat.lt_succ_of_le (hlen ▸ Nat.min_le_left 19 _), fun hs => ?_⟩
    have hlt := printf_length_lt hs
    omega
  · rintro ⟨hlen, hs⟩ conv
    rw [printf_of_not_mem conv hs]
    exact List.take_of_length_le (Nat.le_of_lt_succ hlen)

section Answer

variable {print : List Byte → List Byte} {c : CustomAt}

theorem block_buffer (c : CustomAt) : c.block.customAtCmd = c.customAtCmd ∧
    c.block.customAtCmdTooLong = c.customAtCmdTooLong := by
  rw [block]
  cases c.next with
  | test =>
    dsimp only
    split <;> exact ⟨rfl, rfl⟩
  | upload => exact ⟨rfl, rfl⟩
  | clear => exact ⟨rfl, rfl⟩

theorem answer_block (c : CustomAt) : c.block.answer = c.answer := by
  rw [answer, answer, (block_buffer c).1, (block_buffer c).2]

theorem answer_blocks (n : ℕ) (c : CustomAt) :
    (run (CustomAt.step print) c (List.replicate n .block)).answer = c.answer := by
  induction n generalizing c with
  | zero => rfl
  | succ n ih => rw [List.replicate_succ, run_cons, ih, CustomAt.step, answer_block]

abbrev Long (cmd : List Byte) : Prop := resourceMaxAtCmdStringSize < cmd.length

theorem tooLong_step (c : CustomAt) (e : AtEvent) :
    (c.step print e).customAtCmdTooLong = true ↔
      c.customAtCmdTooLong = true ∨ ∃ cmd, e = .put cmd ∧ Long cmd := by
  cases e with
  | put buff =>
    rw [CustomAt.step, updateCustomAtCmd]
    split
    case isTrue h => exact iff_of_true rfl (.inr ⟨buff, rfl, h⟩)
    case isFalse h =>
      refine ⟨.inl, ?_⟩
      rintro (hc | ⟨cmd, hcmd, hlong⟩)
      · exact hc
      · cases hcmd
        exact absurd hlong h
  | block =>
    rw [CustomAt.step, (block_buffer c).2]
    refine ⟨.inl, ?_⟩
    rintro (hc | ⟨cmd, hcmd, -⟩)
    · exact hc
    · cases hcmd

theorem tooLong_run (c : CustomAt) (es : List AtEvent) :
    (run (CustomAt.step print) c es).customAtCmdTooLong = true ↔
      c.customAtCmdTooLong = true ∨ ∃ cmd, AtEvent.put cmd ∈ es ∧ Long cmd := by
  induction es generalizing c with
  | nil =>
    rw [run_nil]
    simp only [List.not_mem_nil, false_and, exists_false, or_false]
  | cons e es ih =>
    rw [run_cons, ih, tooLong_step, or_assoc, ← exists_or]
    simp only [List.mem_cons, or_and_right, eq_comm]

theorem answer_put_long {cmd : List Byte} (h : Long cmd) (c : CustomAt) :
    (c.step print (.put cmd)).answer = .tooLong := by
  rw [CustomAt.step, updateCustomAtCmd, if_pos h]
  rfl

theorem answer_put_short {cmd : List Byte} (h : ¬Long cmd) (c : CustomAt) :
    (c.step print (.put cmd)).answer =
      if c.customAtCmdTooLong then .tooLong
      else .response ((print cmd).take (resourceMaxAtCmdStringSize - 1)) := by
  rw [CustomAt.step, updateCustomAtCmd, if_neg h]
  rfl

end Answer

def faithful (cmd : List Byte) : AtAnswer :=
  if Long cmd then .tooLong else .response cmd

def LongBefore (es : List AtEvent) : Prop := ∃ cmd, AtEvent.put cmd ∈ es ∧ Long cmd

theorem faithful_put_iff (conv : List Byte → List Byte) (es : List AtEvent) (cmd : List Byte) :
    ((run (CustomAt.step (printf conv)) CustomAt.init es).step (printf conv) (.put cmd)).answer =
        faithful cmd ↔
      Long cmd ∨ ¬LongBefore es ∧ (printf conv cmd).take (resourceMaxAtCmdStringSize - 1) = cmd := by
  have hbefore : (run (CustomAt.step (printf conv)) CustomAt.init es).customAtCmdTooLong = true ↔
      LongBefore es := by
    rw [tooLong_run]
    exact or_iff_right Bool.false_ne_true
  by_cases hlong : Long cmd
  · rw [answer_put_long hlong, faithful, if_pos hlong]
    exact iff_of_true rfl (.inl hlong)
  · rw [answer_put_short hlong, faithful, if_neg hlong, or_iff_right hlong]
    by_cases h : LongBefore es
    · rw [if_pos (hbefore.mpr h)]
      exact iff_of_false AtAnswer.noConfusion fun hf => hf.1 h
    · rw [if_neg (mt hbefore.mp h), AtAnswer.response.injEq]
      exact (and_iff_right h).symm

theorem published_faithful_iff (es : List AtEvent) (cmd : List Byte) (n : ℕ) :
    (∀ conv, (run (CustomAt.step (printf conv)) CustomAt.init
        (es ++ .put cmd :: List.replicate n .block)).uploadAnswer.answers.getLast? =
          some (faithful cmd)) ↔
      Long cmd ∨
        ¬LongBefore es ∧ cmd.length < resourceMaxAtCmdStringSize ∧ percent ∉ cmd := by
  simp only [uploadAnswer, List.getLast?_concat, Option.some.injEq, run_append, run_cons,
    answer_blocks, faithful_put_iff]
  rw [← printed_iff, forall_or_left, forall_and_left]

theorem twenty_letters_cut :
    ¬∀ conv, (run (CustomAt.step (printf conv)) CustomAt.init
        ([] ++ .put (List.replicate 20 0x41) :: List.replicate 1 .block)).uploadAnswer.answers.getLast? =
          some (faithful (List.replicate 20 0x41)) := by
  intro h
  exact absurd (h id) (by decide)

end SlcNode.CommandText
