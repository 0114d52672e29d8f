import SlcNode.Library.Framing

namespace SlcNode.Framing

open EventRun

variable {α : Type*}

def copies (m : ℕ) (w : List α) : List α := (List.replicate m w).flatten

@[simp] theorem copies_zero (w : List α) : copies 0 w = [] := rfl

theorem copies_succ (m : ℕ) (w : List α) : copies (m + 1) w = w ++ copies m w := rfl

theorem copies_add (m k : ℕ) (w : List α) : copies (m + k) w = copies m w ++ copies k w := by
  rw [copies, List.replicate_add, List.flatten_append]
  rfl

@[simp] theorem copies_length (m : ℕ) (w : List α) : (copies m w).length = m * w.length := by
  simp [copies]

theorem copies_append (m : ℕ) (u v : List α) :
    copies (m + 1) (u ++ v) = u ++ (copies m (v ++ u) ++ v) := by
  induction m with
  | zero => simp [copies]
  | succ m ih => rw [copies_succ, ih, copies_succ]; simp only [List.append_assoc]

theorem prefix_copies {m : ℕ} {w xs : List α} (hw : w ≠ []) (h : xs <+: copies m w) :
    ∃ q v, xs = copies q w ++ v ∧ v <+: w ∧ v.length < w.length := by
  induction m generalizing xs with
  | zero => exact ⟨0, [], List.prefix_nil.mp h, List.nil_prefix, List.length_pos_iff.mpr hw⟩
  | succ m ih =>
    rw [copies_succ] at h
    have hfirst : w <+: w ++ copies m w := List.prefix_append _ _
    by_cases hlen : xs.length < w.length
    · exact ⟨0, xs, rfl, List.prefix_of_prefix_length_le h hfirst hlen.le, hlen⟩
    · obtain ⟨ys, rfl⟩ := List.prefix_of_prefix_length_le hfirst h (Nat.le_of_not_lt hlen)
      obtain ⟨q, v, rfl, hv, hvlen⟩ := ih ((List.prefix_append_right_inj w).mp h)
      exact ⟨q + 1, v, by rw [copies_succ, List.append_assoc], hv, hvlen⟩

theorem IsBlock.ne_nil {F : Framing α} {w : List α} (h : F.IsBlock w) : w ≠ [] := by
  rintro rfl
  exact absurd h.head (by simp)

def MarksHarmless (F : Framing α) (w : List α) : Prop :=
  ∀ k < F.length, w[k]? = some F.first → w.rotate k = w

theorem MarksHarmless.rotate_eq {F : Framing α} {w : List α} (hm : F.MarksHarmless w)
    (hw : F.IsBlock w) {k : ℕ} (h : (w.rotate k).head? = some F.first) : w.rotate k = w := by
  have hpos : 0 < w.length := List.length_pos_iff.mpr hw.ne_nil
  have hk : k % w.length < w.length := Nat.mod_lt k hpos
  rw [← List.rotate_mod] at h ⊢
  rw [List.head?_rotate hk] at h
  exact hm _ (hw.length ▸ hk) h

theorem split_at_first {F : Framing α} {w : List α} (h : F.first ∈ w) :
    ∃ c d, w = c ++ d ∧ F.first ∉ c ∧ d.head? = some F.first := by
  obtain ⟨c, d, rfl, hc⟩ := List.eq_append_cons_of_mem h
  exact ⟨c, F.first :: d, rfl, hc, rfl⟩

variable [DecidableEq α] {F : Framing α} {p : List (List α)} {w xs : List α}

def published (F : Framing α) (q : ℕ) (w : List α) : List (List α) :=
  if F.Closed w then List.replicate q w else []

theorem run_copies (h : F.IsBlock w) (q : ℕ) :
    run F.receive (idle p) (copies q w) = idle (p ++ F.published q w) := by
  induction q generalizing p with
  | zero => simp [published, run_nil]
  | succ q ih =>
    rw [copies_succ, run_append, run_block h, ih, publish, published, published]
    split_ifs
    · rw [List.replicate_succ, List.append_assoc, List.singleton_append]
    · rfl

theorem run_prefix {m : ℕ} (h : F.IsBlock w) (hx : xs <+: copies m w) (hlen : F.length ≤ xs.length) :
    ∃ q, 0 < q ∧ (run F.receive (idle p) xs).published = p ++ F.published q w := by
  obtain ⟨q, v, rfl, ⟨u, hu⟩, hvlen⟩ := prefix_copies h.ne_nil hx
  have hq : 0 < q := by
    refine Nat.pos_of_ne_zero fun hq => ?_
    rw [hq, copies_zero, List.nil_append, ← h.length] at hlen
    omega
  refine ⟨q, hq, ?_⟩
  rw [run_append, run_copies h]
  cases v with
  | nil => rfl
  | cons a v =>
    have hopen : (a :: v).head? = some F.first := by
      rw [← h.head, ← hu]
      rfl
    rw [run_open hopen (h.length ▸ hvlen)]

theorem getLast?_published {q : ℕ} (hq : 0 < q) (h : F.Closed w) :
    (p ++ F.published q w).getLast? = some w := by
  rw [published, if_pos h, List.getLast?_append, List.getLast?_replicate, if_neg hq.ne']
  rfl

theorem window_receive {r : Receiver α} (h : r.window.length < F.length) (a : α) :
    (F.receive r a).window.length < F.length := by
  have htwo := F.two_le
  unfold receive
  dsimp only
  split_ifs
  · rw [List.length_singleton]
    omega
  · exact h
  · assumption
  · exact lt_of_lt_of_le Nat.zero_lt_two htwo

theorem window_run {r : Receiver α} (h : r.window.length < F.length) (xs : List α) :
    (run F.receive r xs).window.length < F.length := by
  induction xs generalizing r with
  | nil => exact h
  | cons a xs ih => exact ih (window_receive h a)

theorem resync_inside {m : ℕ} {u v : List α} (hw : F.IsFrame (u ++ v))
    (hm : F.MarksHarmless (u ++ v)) (hu : u ≠ []) :
    (run F.receive (idle p) (copies (m + 2) (v ++ u) ++ v)).published.getLast? = some (u ++ v) := by
  have hmem : F.first ∈ v ++ u := by
    have hhead := hw.1.head
    rw [List.head?_append_of_ne_nil _ hu] at hhead
    exact List.mem_append_right v (List.mem_of_head? hhead)
  obtain ⟨c, d, hcd, hc, hd⟩ := split_at_first hmem
  have hrot : (u ++ v).rotate (u.length + c.length) = d ++ c := by
    rw [← List.rotate_rotate, List.rotate_append_length_eq, hcd, List.rotate_append_length_eq]
  have hdc : d ++ c = u ++ v := by
    rw [← hrot]
    refine hm.rotate_eq hw.1 ?_
    rw [hrot, List.head?_append, hd]
    rfl
  have htail : d ++ v <+: copies 2 (u ++ v) := by
    refine ⟨u ++ c, ?_⟩
    rw [List.append_assoc, ← List.append_assoc v, hcd, copies_succ, copies_succ, copies_zero,
      List.append_nil, ← hdc]
    simp only [List.append_assoc]
  have hstream : copies (m + 2) (v ++ u) ++ v = c ++ (copies (m + 1) (u ++ v) ++ (d ++ v)) := by
    rw [hcd, copies_append, hdc]
    simp only [List.append_assoc]
  have hprefix : copies (m + 1) (u ++ v) ++ (d ++ v) <+: copies (m + 1 + 2) (u ++ v) := by
    rw [copies_add (m + 1) 2]
    exact (List.prefix_append_right_inj _).mpr htail
  have hlen : F.length ≤ (copies (m + 1) (u ++ v) ++ (d ++ v)).length := by
    rw [List.length_append, copies_length, hw.1.length, Nat.succ_mul]
    omega
  obtain ⟨q, hq, hpub⟩ := run_prefix (p := p) hw.1 hprefix hlen
  rw [hstream, run_append, run_gap hc, hpub, getLast?_published hq hw.2]

theorem resync {w : List α} (hw : F.IsFrame w) (hm : F.MarksHarmless w) {r : Receiver α}
    (hr : r.window.length < F.length) (m : ℕ) :
    (run F.receive r (copies (m + 3) w)).published.getLast? = some w := by
  obtain ⟨x, p⟩ := r
  change x.length < F.length at hr
  by_cases hx : x = []
  · subst hx
    have hlen : F.length ≤ (copies (m + 3) w).length := by
      rw [copies_length, hw.1.length, Nat.add_mul]
      omega
    obtain ⟨q, hq, hpub⟩ := run_prefix (p := p) hw.1 (List.prefix_refl _) hlen
    exact hpub ▸ getLast?_published hq hw.2
  · have hpos : 0 < x.length := List.length_pos_iff.mpr hx
    have hlen : x.length + (w.take (F.length - x.length)).length = F.length := by
      rw [List.length_take, hw.1.length]
      omega
    have hu : w.take (F.length - x.length) ≠ [] := by
      rw [← List.length_pos_iff]
      omega
    have hsplit := List.take_append_drop (F.length - x.length) w
    generalize w.take (F.length - x.length) = u at *
    generalize w.drop (F.length - x.length) = v at *
    subst hsplit
    rw [copies_append, run_append, run_close hx hu hlen]
    exact resync_inside hw hm hu

theorem lost {w : List α} {k m : ℕ} (hw : F.IsFrame w) (hk : k < F.length)
    (hmark : w[k]? = some F.first) (hrot : w.rotate k ≠ w) :
    (run F.receive (idle []) (List.replicate (F.length - k) F.first ++ copies (m + 2) w)
      ).published.getLast? ≠ some w := by
  have hlen : w.length = F.length := hw.1.length
  have hpos : 0 < k := Nat.pos_of_ne_zero fun h => hrot (by rw [h, List.rotate_zero])
  have hblock : F.IsBlock (w.rotate k) :=
    ⟨(List.length_rotate w k).trans hlen, by rw [List.head?_rotate (hlen ▸ hk), hmark]⟩
  have hu : (w.take k).length = k := List.length_take_of_le (hlen ▸ hk.le)
  have hu' : w.take k ≠ [] := by
    rw [← List.length_pos_iff, hu]
    exact hpos
  rw [List.rotate_eq_drop_append_take (hlen ▸ hk.le)] at hrot hblock
  have hsplit := List.take_append_drop k w
  generalize w.take k = u at *
  generalize w.drop k = v at *
  subst hsplit
  have hg : (List.replicate (F.length - k) F.first).length + u.length = F.length := by
    rw [List.length_replicate]
    omega
  have hg' : List.replicate (F.length - k) F.first ≠ [] := by
    rw [← List.length_pos_iff, List.length_replicate]
    omega
  have hhead : (List.replicate (F.length - k) F.first).head? = some F.first := by
    rw [List.head?_replicate, if_neg (by omega)]
  have hprefix : copies (m + 1) (v ++ u) ++ v <+: copies (m + 2) (v ++ u) := by
    rw [copies_add (m + 1) 1]
    exact (List.prefix_append_right_inj _).mpr ⟨u, by simp [copies]⟩
  have hlong : F.length ≤ (copies (m + 1) (v ++ u) ++ v).length := by
    rw [List.length_append, copies_length, hblock.length, Nat.succ_mul]
    omega
  have hlast (x : List α) : (x ++ u).getLast? = u.getLast? := by
    rw [List.getLast?_append_of_ne_nil _ hu']
  rw [run_append, run_open hhead (by omega), copies_append, run_append, run_close hg' hu' hg]
  obtain ⟨q, hq, hpub⟩ := run_prefix
    (p := F.publish (List.replicate (F.length - k) F.first ++ u) []) hblock hprefix hlong
  rw [hpub]
  by_cases hc : F.Closed (v ++ u)
  · rw [getLast?_published hq hc]
    exact fun h => hrot (Option.some.inj h)
  · have hc' : ¬F.Closed (List.replicate (F.length - k) F.first ++ u) := by
      unfold Closed at hc ⊢
      rwa [hlast] at hc ⊢
    rw [published, if_neg hc, publish, if_neg hc']
    simp

theorem resync_iff {w : List α} (hw : F.IsFrame w) :
    (∀ g m, g.length + 2 * F.length ≤ m →
      (run F.receive (idle []) (g ++ copies m w)).published.getLast? = some w) ↔
      F.MarksHarmless w := by
  have htwo := F.two_le
  constructor
  · intro h k hk hmark
    by_contra hrot
    refine lost (m := (F.length - k) + 2 * F.length - 2) hw hk hmark hrot (h _ _ ?_)
    rw [List.length_replicate]
    omega
  · intro hm g m hle
    obtain ⟨m, rfl⟩ : ∃ m', m = m' + 3 := ⟨m - 3, by omega⟩
    rw [run_append]
    exact resync hw hm (window_run (lt_of_lt_of_le Nat.zero_lt_two htwo) g) m

end SlcNode.Framing
