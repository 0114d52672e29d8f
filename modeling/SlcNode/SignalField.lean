import SlcNode.AtOwnership
import Mathlib.Data.List.TakeWhile
import Mathlib.Tactic.Common

namespace SlcNode.CellularAt

abbrev comma : Byte := 44

structure FieldCopy where
  start : ℕ
  count : ℕ
  strtmp : List Byte
deriving DecidableEq

def fieldCopy (limit : ℤ) (strtmp : List Byte) : Option (List Byte) → Option FieldCopy
  | none => none
  | some reply =>
    let bounds := fieldBounds reply.length 0 false reply.length reply
    if 0 < reply.length ∧ bounds.1 < limit then
      some {
        start := bounds.1 + 1
        count := bounds.2 - bounds.1
        strtmp := memcpy strtmp (((replyBuff reply).drop (bounds.1 + 1)).take (bounds.2 - bounds.1)) }
    else none

def strtmpAfter (strtmp : List Byte) (copy : Option FieldCopy) : List Byte :=
  (copy.map FieldCopy.strtmp).getD strtmp

def rsrpCopy (strrsrp : Option (List Byte)) : Option FieldCopy :=
  fieldCopy (replyLen strrsrp) (List.replicate 10 0) strrsrp

def rsrqCopy (strrsrp strrsrq : Option (List Byte)) : Option FieldCopy :=
  fieldCopy (replyLen strrsrp) (strtmpAfter (List.replicate 10 0) (rsrpCopy strrsrp)) strrsrq

theorem convertField_eq (tgt : Target) (limit : ℤ) (strtmp : List Byte)
    (reply : Option (List Byte)) :
    convertField tgt limit strtmp reply =
      ((fieldCopy limit strtmp reply).elim 0 fun c => tgt.strtof (c.strtmp.takeWhile (· ≠ 0)),
        strtmpAfter strtmp (fieldCopy limit strtmp reply)) := by
  cases reply with
  | none => rfl
  | some reply =>
    simp only [convertField, fieldCopy]
    by_cases hlen : 0 < reply.length
    · by_cases hstart : ((fieldBounds reply.length 0 false reply.length reply).1 : ℤ) < limit
      · rw [if_pos hlen, if_pos hstart, if_pos ⟨hlen, hstart⟩]
        rfl
      · rw [if_pos hlen, if_neg hstart, if_neg fun h => hstart h.2]
        rfl
    · rw [if_neg hlen, if_neg fun h => hlen h.1]
      rfl

theorem fieldBounds_skip (len : ℕ) {a : List Byte} (ha : comma ∉ a) (i : ℕ) (passed : Bool)
    (idxStart : ℕ) (l : List Byte) :
    fieldBounds len i passed idxStart (a ++ l) = fieldBounds len (i + a.length) passed idxStart l := by
  induction a generalizing i with
  | nil => rfl
  | cons c a ih =>
    rw [List.mem_cons, not_or] at ha
    rw [List.cons_append, fieldBounds, if_neg (Ne.symm ha.1), ih ha.2, List.length_cons]
    congr 1
    omega

theorem fieldBounds_none (len : ℕ) {a : List Byte} (ha : comma ∉ a) (i : ℕ) (passed : Bool)
    (idxStart : ℕ) : fieldBounds len i passed idxStart a = (idxStart, len) := by
  have h := fieldBounds_skip len ha i passed idxStart []
  rwa [List.append_nil] at h

theorem fieldBounds_first (len i idxStart : ℕ) (l : List Byte) :
    fieldBounds len i false idxStart (comma :: l) = fieldBounds len (i + 1) true idxStart l := rfl

theorem fieldBounds_second (len i : ℕ) (l : List Byte) :
    fieldBounds len i true len (comma :: l) = fieldBounds len (i + 1) true i l := by
  rw [fieldBounds, if_pos rfl, if_neg (by simp), if_pos rfl]

theorem fieldBounds_third {len idxStart : ℕ} (h : idxStart ≠ len) (i : ℕ) (l : List Byte) :
    fieldBounds len i true idxStart (comma :: l) = (idxStart, i) := by
  rw [fieldBounds, if_pos rfl, if_neg (by simp), if_neg h]

def thirdField (reply : List Byte) : Option (List Byte) := (reply.splitOn comma)[2]?

def secondComma (reply : List Byte) : ℕ := (((reply.splitOn comma).take 2).map List.length).sum + 1

def Ends (t : List Byte) : Prop := t = [] ∨ ∃ r, t = comma :: r

theorem exists_field (l : List Byte) :
    ∃ f t, l = f ++ t ∧ comma ∉ f ∧ Ends t ∧ (l.splitOn comma).head? = some f := by
  by_cases hc : comma ∈ l
  · obtain ⟨f, r, rfl, hf⟩ := List.eq_append_cons_of_mem hc
    refine ⟨f, comma :: r, rfl, hf, .inr ⟨r, rfl⟩, ?_⟩
    rw [List.splitOn_append_cons_self_of_not_mem hf]
    rfl
  · refine ⟨l, [], (List.append_nil l).symm, hc, .inl rfl, ?_⟩
    rw [List.splitOn_eq_singleton hc]
    rfl

inductive Layout : List Byte → Prop
  | short {reply : List Byte} : thirdField reply = none →
      fieldBounds reply.length 0 false reply.length reply = (reply.length, reply.length) → Layout reply
  | long {a b f t : List Byte} : comma ∉ f → Ends t →
      thirdField (a ++ comma :: (b ++ comma :: (f ++ t))) = some f →
      secondComma (a ++ comma :: (b ++ comma :: (f ++ t))) = a.length + b.length + 1 →
      fieldBounds (a ++ comma :: (b ++ comma :: (f ++ t))).length 0 false
        (a ++ comma :: (b ++ comma :: (f ++ t))).length (a ++ comma :: (b ++ comma :: (f ++ t))) =
          (a.length + b.length + 1, a.length + b.length + 2 + f.length) →
      Layout (a ++ comma :: (b ++ comma :: (f ++ t)))

theorem fieldBounds_long {a b f t : List Byte} (ha : comma ∉ a) (hb : comma ∉ b) (hf : comma ∉ f)
    (ht : Ends t) {len : ℕ} (hlen : len = a.length + b.length + 2 + f.length + t.length) :
    fieldBounds len 0 false len (a ++ comma :: (b ++ comma :: (f ++ t))) =
      (a.length + b.length + 1, a.length + b.length + 2 + f.length) := by
  have hstart : 0 + a.length + 1 + b.length = a.length + b.length + 1 := by omega
  have hne : a.length + b.length + 1 ≠ len := by omega
  rw [fieldBounds_skip len ha, fieldBounds_first, fieldBounds_skip len hb, fieldBounds_second,
    fieldBounds_skip len hf, hstart]
  rcases ht with rfl | ⟨r, rfl⟩
  · rw [fieldBounds, hlen]
    rfl
  · rw [fieldBounds_third hne]

theorem layout (reply : List Byte) : Layout reply := by
  by_cases hc : comma ∈ reply
  · obtain ⟨a, l, rfl, ha⟩ := List.eq_append_cons_of_mem hc
    have hsplit := List.splitOn_append_cons_self_of_not_mem ha l
    by_cases hl : comma ∈ l
    · obtain ⟨b, r, rfl, hb⟩ := List.eq_append_cons_of_mem hl
      rw [List.splitOn_append_cons_self_of_not_mem hb] at hsplit
      obtain ⟨f, t, rfl, hf, ht, hhead⟩ := exists_field r
      refine .long hf ht ?_ ?_ (fieldBounds_long ha hb hf ht ?_)
      · rw [thirdField, hsplit, ← hhead]
        simp [List.head?_eq_getElem?]
      · rw [secondComma, hsplit]
        simp
      · simp only [List.length_append, List.length_cons]
        omega
    · refine .short ?_ ?_
      · rw [thirdField, hsplit, List.splitOn_eq_singleton hl]
        rfl
      · rw [fieldBounds_skip _ ha, fieldBounds_first, fieldBounds_none _ hl]
  · refine .short ?_ (fieldBounds_none _ hc ..)
    rw [thirdField, List.splitOn_eq_singleton hc]
    rfl

theorem fieldCopy_short {reply : List Byte} (h : thirdField reply = none) (limit : ℤ)
    (strtmp : List Byte) :
    fieldCopy limit strtmp (some reply) =
      if 0 < reply.length ∧ (reply.length : ℤ) < limit then some ⟨reply.length + 1, 0, strtmp⟩
      else none := by
  cases layout reply with
  | short _ hbounds =>
    simp only [fieldCopy, hbounds, Nat.sub_self, List.take_zero]
    rfl
  | long _ _ hthird => exact absurd (hthird.symm.trans h) (Option.some_ne_none _)

theorem replyBuff_drop (a b g t : List Byte) :
    (replyBuff (a ++ comma :: (b ++ comma :: (g ++ t)))).drop (a.length + b.length + 2) =
      g ++ (t ++ List.replicate (200 - (a ++ comma :: (b ++ comma :: (g ++ t))).length) 0) := by
  have hcut : replyBuff (a ++ comma :: (b ++ comma :: (g ++ t))) = (a ++ comma :: (b ++ [comma])) ++
      (g ++ (t ++ List.replicate (200 - (a ++ comma :: (b ++ comma :: (g ++ t))).length) 0)) := by
    simp [replyBuff]
  rw [hcut]
  apply List.drop_left'
  simp only [List.length_append, List.length_cons, List.length_nil]
  omega

theorem Ends.take_one {t : List Byte} (ht : Ends t) {n : ℕ} (hn : 0 < n) :
    ∃ last, (last = 0 ∨ last = comma) ∧ (t ++ List.replicate n 0).take 1 = [last] := by
  rcases ht with rfl | ⟨r, rfl⟩
  · refine ⟨0, .inl rfl, ?_⟩
    rw [List.nil_append, List.take_replicate, Nat.min_eq_left hn]
    rfl
  · exact ⟨comma, .inr rfl, rfl⟩

theorem fieldCopy_long {reply f : List Byte} (h : thirdField reply = some f)
    (hlen : reply.length < 200) (limit : ℤ) (strtmp : List Byte) :
    comma ∉ f ∧ f ⊆ reply ∧ secondComma reply + 1 + f.length ≤ reply.length ∧
      ∃ last, (last = 0 ∨ last = comma) ∧ fieldCopy limit strtmp (some reply) =
        if (secondComma reply : ℤ) < limit then
          some ⟨secondComma reply + 1, f.length + 1, memcpy strtmp (f ++ [last])⟩
        else none := by
  cases layout reply with
  | short hthird => exact absurd (h.symm.trans hthird) (Option.some_ne_none _)
  | @long a b g t hg ht hthird hsecond hbounds =>
    obtain rfl := Option.some.inj (hthird.symm.trans h)
    have hfull : (a ++ comma :: (b ++ comma :: (g ++ t))).length =
        a.length + b.length + 2 + g.length + t.length := by
      simp only [List.length_append, List.length_cons]
      omega
    obtain ⟨last, hlast, htake⟩ := ht.take_one (Nat.sub_pos_of_lt hlen)
    refine ⟨hg, fun c hc => by simp [hc], by rw [hsecond, hfull]; omega, last, hlast, ?_⟩
    have hcount : a.length + b.length + 2 + g.length - (a.length + b.length + 1) = g.length + 1 := by omega
    have hpos : 0 < (a ++ comma :: (b ++ comma :: (g ++ t))).length := by rw [hfull]; omega
    simp only [fieldCopy, hbounds, hsecond, hcount, replyBuff_drop, List.take_length_add_append, htake,
      hpos, true_and]

theorem secondComma_lt {reply f : List Byte} (hlen : reply.length < 200)
    (h : thirdField reply = some f) : (secondComma reply : ℤ) < replyLen (some reply) := by
  obtain ⟨-, -, hle, -⟩ := fieldCopy_long h hlen 0 []
  rw [replyLen]
  omega

def numberText (strtmp : List Byte) : List Byte := (strtmp.takeWhile (· ≠ 0)).takeWhile (· ≠ comma)

def convertedText (copy : Option FieldCopy) : List Byte :=
  copy.elim [] fun c => numberText c.strtmp

def fieldText (reply : Option (List Byte)) : List Byte := (reply.bind thirdField).getD []

def storedReply (reply : Option (List Byte)) : Option (List Byte) := reply.map (·.take 199)

structure Reply (reply : List Byte) : Prop where
  text : 0 ∉ reply
  fits : reply.length < 200
  field : ∀ f ∈ thirdField reply, f.length ≤ 8

structure Strtof (tgt : Target) : Prop where
  stops : ∀ s, tgt.strtof s = tgt.strtof (s.takeWhile (· ≠ comma))
  empty : tgt.strtof [] = 0

theorem convertField_fst {tgt : Target} (ht : Strtof tgt) (limit : ℤ) (strtmp : List Byte)
    (reply : Option (List Byte)) :
    (convertField tgt limit strtmp reply).1 =
      tgt.strtof (convertedText (fieldCopy limit strtmp reply)) := by
  rw [convertField_eq]
  cases fieldCopy limit strtmp reply with
  | none => exact ht.empty.symm
  | some c => exact ht.stops _

theorem numberText_memcpy {f : List Byte} (hzero : 0 ∉ f) (hcomma : comma ∉ f) {last : Byte}
    (hlast : last = 0 ∨ last = comma) (strtmp : List Byte) :
    numberText (memcpy strtmp (f ++ [last])) = f := by
  have hz : ∀ c ∈ f, decide (c ≠ 0) = true := by
    intro c hc
    exact decide_eq_true fun h => hzero (h ▸ hc)
  have hk : ∀ c ∈ f, decide (c ≠ comma) = true := by
    intro c hc
    exact decide_eq_true fun h => hcomma (h ▸ hc)
  rw [numberText, memcpy, List.append_assoc, List.takeWhile_append_of_pos hz]
  rcases hlast with rfl | rfl
  · rw [List.singleton_append, List.takeWhile_cons_of_neg (by simp), List.append_nil]
    exact List.takeWhile_eq_self_iff.mpr hk
  · rw [List.singleton_append, List.takeWhile_cons_of_pos (by decide), List.takeWhile_append_of_pos hk,
      List.takeWhile_cons_of_neg (by simp), List.append_nil]

theorem convertedText_long {reply f : List Byte} (h : thirdField reply = some f) (hr : Reply reply)
    (limit : ℤ) (strtmp : List Byte) :
    convertedText (fieldCopy limit strtmp (some reply)) =
      if (secondComma reply : ℤ) < limit then f else [] := by
  obtain ⟨hcomma, hsub, -, last, hlast, hcopy⟩ := fieldCopy_long h hr.fits limit strtmp
  rw [hcopy]
  split_ifs
  · exact numberText_memcpy (fun hz => hr.text (hsub hz)) hcomma hlast strtmp
  · rfl

theorem convertedText_short {reply : List Byte} (h : thirdField reply = none) (limit : ℤ)
    (strtmp : List Byte) :
    convertedText (fieldCopy limit strtmp (some reply)) =
      if 0 < reply.length ∧ (reply.length : ℤ) < limit then numberText strtmp else [] := by
  rw [fieldCopy_short h]
  split_ifs <;> rfl

theorem rsrpCopy_text {strrsrp : Option (List Byte)} (hp : ∀ reply ∈ strrsrp, Reply reply) :
    convertedText (rsrpCopy strrsrp) = fieldText strrsrp ∧
      numberText (strtmpAfter (List.replicate 10 0) (rsrpCopy strrsrp)) = fieldText strrsrp := by
  cases strrsrp with
  | none => exact ⟨rfl, rfl⟩
  | some reply =>
    have hr := hp reply rfl
    cases h : thirdField reply with
    | none =>
      have hcopy : rsrpCopy (some reply) = none :=
        (fieldCopy_short h _ _).trans (if_neg fun hlt => lt_irrefl _ hlt.2)
      rw [hcopy, fieldText, Option.bind_some, h]
      exact ⟨rfl, rfl⟩
    | some f =>
      obtain ⟨-, -, -, last, -, hcopy⟩ :=
        fieldCopy_long h hr.fits (replyLen (some reply)) (List.replicate 10 0)
      have hlt := secondComma_lt hr.fits h
      have htext := convertedText_long h hr (replyLen (some reply)) (List.replicate 10 0)
      rw [if_pos hlt] at htext hcopy
      rw [fieldText, Option.bind_some, h]
      refine ⟨htext, ?_⟩
      rw [rsrpCopy, hcopy]
      rwa [hcopy] at htext

theorem rsrqCopy_text {strrsrp : Option (List Byte)} {reply : List Byte}
    (hp : ∀ reply ∈ strrsrp, Reply reply) (hq : Reply reply) :
    convertedText (rsrqCopy strrsrp (some reply)) =
      match thirdField reply with
      | some f => if (secondComma reply : ℤ) < replyLen strrsrp then f else []
      | none =>
        if 0 < reply.length ∧ (reply.length : ℤ) < replyLen strrsrp then fieldText strrsrp else [] := by
  rw [rsrqCopy]
  cases h : thirdField reply with
  | some f => exact convertedText_long h hq _ _
  | none => rw [convertedText_short h, (rsrpCopy_text hp).2]

def OwnLength (strrsrp strrsrq : Option (List Byte)) : Prop :=
  ∀ reply ∈ strrsrq, match thirdField reply with
    | some f => (secondComma reply : ℤ) < replyLen strrsrp ∨ f = []
    | none => reply = [] ∨ replyLen strrsrp ≤ reply.length ∨ fieldText strrsrp = []

theorem rsrqText_iff {strrsrp strrsrq : Option (List Byte)} (hp : ∀ reply ∈ strrsrp, Reply reply)
    (hq : ∀ reply ∈ strrsrq, Reply reply) :
    convertedText (rsrqCopy strrsrp strrsrq) = fieldText strrsrq ↔ OwnLength strrsrp strrsrq := by
  cases strrsrq with
  | none => exact iff_of_true rfl fun _ h => absurd h (Option.not_mem_none _)
  | some reply =>
    simp only [rsrqCopy_text hp (hq reply rfl), OwnLength, Option.mem_some_iff, forall_eq', fieldText,
      Option.bind_some]
    cases thirdField reply with
    | some f =>
      dsimp only [Option.getD_some]
      split_ifs with hlt
      · exact iff_of_true rfl (.inl hlt)
      · rw [or_iff_right hlt]
        exact eq_comm
    | none =>
      dsimp only [Option.getD_none]
      split_ifs with hlt
      · rw [or_iff_right (List.length_pos_iff.mp hlt.1), or_iff_right (by omega)]
      · refine iff_of_true rfl ?_
        rcases List.eq_nil_or_concat reply with rfl | ⟨l, c, rfl⟩
        · exact .inl rfl
        · refine .inr (.inl ?_)
          rw [List.concat_eq_append, List.length_append, List.length_singleton] at hlt ⊢
          omega

theorem signalR410m_eq {tgt : Target} (ht : Strtof tgt) (h : ℕ) (w : Handle.World Cellular AtOp) :
    (signalR410m tgt h w).1.rsrp =
        tgt.strtof (convertedText (rsrpCopy (storedReply (w.env.modem.strings.get 0)))) ∧
      (signalR410m tgt h w).1.rsrq =
        tgt.strtof (convertedText (rsrqCopy (storedReply (w.env.modem.strings.get 0))
          (storedReply (w.env.modem.strings.get 1)))) := by
  have hvalues : (signalR410m tgt h w).1.rsrp =
        (convertRsrp tgt (List.replicate 10 0) (storedReply (w.env.modem.strings.get 0))).1 ∧
      (signalR410m tgt h w).1.rsrq =
        (convertRsrq tgt
          (convertRsrp tgt (List.replicate 10 0) (storedReply (w.env.modem.strings.get 0))).2
          (storedReply (w.env.modem.strings.get 0)) (storedReply (w.env.modem.strings.get 1))).1 := by
    simp only [signalR410m, Handle.bind_apply, readString, Handle.use, AtOwnership.perform_env]
    exact ⟨rfl, rfl⟩
  rw [hvalues.1, hvalues.2]
  refine ⟨convertField_fst ht _ _ _, ?_⟩
  rw [convertRsrq, convertField_fst ht, convertRsrp, convertField_eq]
  rfl

theorem signal_fields_iff {tgt : Target} (ht : Strtof tgt) (h : ℕ) (w : Handle.World Cellular AtOp)
    {strrsrp strrsrq : Option (List Byte)}
    (hrsrp : storedReply (w.env.modem.strings.get 0) = strrsrp)
    (hrsrq : storedReply (w.env.modem.strings.get 1) = strrsrq)
    (hp : ∀ reply ∈ strrsrp, Reply reply) (hq : ∀ reply ∈ strrsrq, Reply reply) :
    (signalR410m tgt h w).1.rsrp = tgt.strtof (convertedText (rsrpCopy strrsrp)) ∧
      (signalR410m tgt h w).1.rsrq = tgt.strtof (convertedText (rsrqCopy strrsrp strrsrq)) ∧
      ((convertedText (rsrpCopy strrsrp) = fieldText strrsrp ∧
          convertedText (rsrqCopy strrsrp strrsrq) = fieldText strrsrq) ↔
        OwnLength strrsrp strrsrq) := by
  subst hrsrp hrsrq
  obtain ⟨hrsrp, hrsrq⟩ := signalR410m_eq ht h w
  refine ⟨hrsrp, hrsrq, ?_⟩
  rw [← rsrqText_iff hp hq]
  exact and_iff_right (rsrpCopy_text hp).1

def digit (c : Byte) : Bool := 48 ≤ c && c ≤ 57

def decimal : Target where
  shl _ := 0
  strtof s := (s.takeWhile digit).foldl (fun n c => 10 * n + (c.toNat - 48)) 0

theorem strtof_decimal : Strtof decimal where
  stops s := by
    have hdigits : (s.takeWhile (· ≠ comma)).takeWhile digit = s.takeWhile digit := by
      rw [List.takeWhile_takeWhile]
      refine congrArg (List.takeWhile · s) (funext fun c => ?_)
      by_cases hc : c = comma
      · rw [hc]
        rfl
      · have hne : decide (c ≠ comma) = true := decide_eq_true hc
        simp only [hne, and_true, Bool.decide_eq_true]
    exact congrArg (List.foldl _ 0) hdigits.symm
  empty := rfl

def answers9014 : Handle.World Cellular AtOp :=
  AtOwnership.start
    { modem :=
        { device := true
          handlers := fun _ => true
          ints := fun _ => 0
          strings := fun n => some (if n = 0 then [49, 44, 50, 44, 57, 48]
            else [49, 44, 50, 44, 49, 52, 44, 55])
          errors := fun _ => 0 }
      module := .r410m
      enSignalReport := true }

theorem signal_90_14 :
    (signalR410m decimal 0 answers9014).1.rsrp = 90 ∧ (signalR410m decimal 0 answers9014).1.rsrq = 14 := by
  have hp : ∀ reply ∈ some [49, 44, 50, 44, 57, 48], Reply reply := by
    rintro reply ⟨⟩
    exact ⟨by decide, by decide, by decide⟩
  have hq : ∀ reply ∈ some [49, 44, 50, 44, 49, 52, 44, 55], Reply reply := by
    rintro reply ⟨⟩
    exact ⟨by decide, by decide, by decide⟩
  have hown : OwnLength (some [49, 44, 50, 44, 57, 48]) (some [49, 44, 50, 44, 49, 52, 44, 55]) := by
    rintro reply ⟨⟩
    exact .inl (by decide)
  obtain ⟨hrsrp, hrsrq, htexts⟩ := signal_fields_iff strtof_decimal 0 answers9014 rfl rfl hp hq
  rw [hrsrp, hrsrq, (htexts.mpr hown).1, (htexts.mpr hown).2]
  exact ⟨by decide, by decide⟩

theorem short_rsrq_takes_rsrp :
    ¬(convertedText (rsrpCopy (some [49, 44, 50, 44, 45, 57, 48])) =
        fieldText (some [49, 44, 50, 44, 45, 57, 48]) ∧
      convertedText (rsrqCopy (some [49, 44, 50, 44, 45, 57, 48]) (some [49, 44, 50])) =
        fieldText (some [49, 44, 50])) := by
  decide

/-- The copy fits in front of the last byte of `strtmp`, comes out of the reply and its terminator,
and leaves a terminator in the ten bytes of `strtmp`. -/
def Contained (reply : List Byte) (c : FieldCopy) : Prop :=
  c.count ≤ 9 ∧ c.start + c.count ≤ reply.length + 1 ∧ 0 ∈ c.strtmp.take 10

instance (reply : List Byte) (c : FieldCopy) : Decidable (Contained reply c) :=
  inferInstanceAs (Decidable (_ ∧ _))

def Ended (strtmp : List Byte) : Prop := strtmp[9]? = some 0

theorem ended_memcpy {strtmp new : List Byte} (h : Ended strtmp) (hnew : new.length ≤ 9) :
    Ended (memcpy strtmp new) := by
  rw [Ended, memcpy, List.getElem?_append_right hnew, List.getElem?_drop, Nat.add_sub_cancel' hnew]
  exact h

theorem zero_mem_of_ended {strtmp : List Byte} (h : Ended strtmp) : 0 ∈ strtmp.take 10 := by
  refine List.mem_of_getElem? (i := 9) ?_
  rw [List.getElem?_take_of_lt (by decide)]
  exact h

theorem length_storedReply {reply : Option (List Byte)} {s : List Byte} (h : s ∈ storedReply reply) :
    s.length < 200 := by
  obtain ⟨raw, -, rfl⟩ := Option.map_eq_some_iff.mp h
  rw [List.length_take]
  omega

theorem fieldCopy_contained_iff {reply strtmp : List Byte} (hlen : reply.length < 200)
    (he : Ended strtmp) (limit : ℤ) :
    (∀ c ∈ fieldCopy limit strtmp (some reply), Contained reply c) ↔
      ∀ f ∈ thirdField reply, (secondComma reply : ℤ) < limit → f.length ≤ 8 := by
  cases h : thirdField reply with
  | none =>
    refine iff_of_true ?_ fun _ hf => absurd hf (Option.not_mem_none _)
    rw [fieldCopy_short h]
    split_ifs
    · rintro c ⟨⟩
      exact ⟨Nat.zero_le _, le_refl _, zero_mem_of_ended he⟩
    · exact fun _ hc => absurd hc (Option.not_mem_none _)
  | some f =>
    obtain ⟨-, -, hle, last, -, hcopy⟩ := fieldCopy_long h hlen limit strtmp
    rw [hcopy]
    simp only [Option.mem_some_iff, forall_eq']
    split_ifs with hlt
    · simp only [Option.mem_some_iff, forall_eq', hlt, true_imp_iff]
      constructor
      · rintro ⟨hcount, -⟩
        exact Nat.le_of_succ_le_succ hcount
      · intro hf
        refine ⟨Nat.succ_le_succ hf, ?_, zero_mem_of_ended (ended_memcpy he ?_)⟩
        · change secondComma reply + 1 + (f.length + 1) ≤ reply.length + 1
          omega
        · rw [List.length_append, List.length_singleton]
          omega
    · exact iff_of_true (fun _ hc => absurd hc (Option.not_mem_none _)) fun h => absurd h hlt

theorem ended_strtmpAfter {reply strtmp : List Byte} (hlen : reply.length < 200) (he : Ended strtmp)
    {limit : ℤ} (hf : ∀ f ∈ thirdField reply, (secondComma reply : ℤ) < limit → f.length ≤ 8) :
    Ended (strtmpAfter strtmp (fieldCopy limit strtmp (some reply))) := by
  cases h : thirdField reply with
  | none =>
    rw [fieldCopy_short h]
    split_ifs <;> exact he
  | some f =>
    obtain ⟨-, -, -, last, -, hcopy⟩ := fieldCopy_long h hlen limit strtmp
    rw [hcopy]
    split_ifs with hlt
    · have hle := hf f h hlt
      refine ended_memcpy he ?_
      rw [List.length_append, List.length_singleton]
      omega
    · exact he

theorem ended_zeros : Ended (List.replicate 10 0) := rfl

theorem rsrpCopy_contained_iff {strrsrp : Option (List Byte)}
    (hlen : ∀ reply ∈ strrsrp, reply.length < 200) :
    (∀ reply ∈ strrsrp, ∀ c ∈ rsrpCopy strrsrp, Contained reply c) ↔
      ∀ reply ∈ strrsrp, ∀ f ∈ thirdField reply, f.length ≤ 8 := by
  cases strrsrp with
  | none => exact iff_of_true nofun nofun
  | some reply =>
    have hlen' := hlen reply rfl
    simp only [Option.mem_some_iff, forall_eq', rsrpCopy]
    rw [fieldCopy_contained_iff hlen' ended_zeros]
    exact forall₂_congr fun f hf => imp_iff_right (secondComma_lt hlen' hf)

theorem ended_rsrpCopy {strrsrp : Option (List Byte)} (hlen : ∀ reply ∈ strrsrp, reply.length < 200)
    (h : ∀ reply ∈ strrsrp, ∀ f ∈ thirdField reply, f.length ≤ 8) :
    Ended (strtmpAfter (List.replicate 10 0) (rsrpCopy strrsrp)) := by
  cases strrsrp with
  | none => exact ended_zeros
  | some reply => exact ended_strtmpAfter (hlen reply rfl) ended_zeros fun f hf _ => h reply rfl f hf

theorem rsrqCopy_contained_iff {strrsrp strrsrq : Option (List Byte)}
    (hlen : ∀ reply ∈ strrsrq, reply.length < 200)
    (he : Ended (strtmpAfter (List.replicate 10 0) (rsrpCopy strrsrp))) :
    (∀ reply ∈ strrsrq, ∀ c ∈ rsrqCopy strrsrp strrsrq, Contained reply c) ↔
      ∀ reply ∈ strrsrq, ∀ f ∈ thirdField reply,
        (secondComma reply : ℤ) < replyLen strrsrp → f.length ≤ 8 := by
  cases strrsrq with
  | none => exact iff_of_true nofun nofun
  | some reply =>
    simp only [Option.mem_some_iff, forall_eq', rsrqCopy]
    exact fieldCopy_contained_iff (hlen reply rfl) he _

theorem copies_contained_iff (strrsrp strrsrq : Option (List Byte)) :
    ((∀ reply ∈ storedReply strrsrp, ∀ c ∈ rsrpCopy (storedReply strrsrp), Contained reply c) ∧
        ∀ reply ∈ storedReply strrsrq,
          ∀ c ∈ rsrqCopy (storedReply strrsrp) (storedReply strrsrq), Contained reply c) ↔
      (∀ reply ∈ storedReply strrsrp, ∀ f ∈ thirdField reply, f.length ≤ 8) ∧
        ∀ reply ∈ storedReply strrsrq, ∀ f ∈ thirdField reply,
          (secondComma reply : ℤ) < replyLen (storedReply strrsrp) → f.length ≤ 8 := by
  have hlenp : ∀ reply ∈ storedReply strrsrp, reply.length < 200 := fun _ => length_storedReply
  have hlenq : ∀ reply ∈ storedReply strrsrq, reply.length < 200 := fun _ => length_storedReply
  rw [rsrpCopy_contained_iff hlenp]
  exact and_congr_right fun h => rsrqCopy_contained_iff hlenq (ended_rsrpCopy hlenp h)

theorem long_field_overflows :
    ¬∀ c ∈ rsrpCopy (storedReply (some [49, 44, 50, 44, 45, 49, 48, 48, 46, 49, 50, 51, 52, 44, 55])),
      Contained [49, 44, 50, 44, 45, 49, 48, 48, 46, 49, 50, 51, 52, 44, 55] c := by
  decide

end SlcNode.CellularAt
