import Mathlib.Data.List.TakeWhile
import Mathlib.Algebra.Group.Nat.Defs

namespace SlcNode.Print

def nul : Char := Char.ofNat 0

/-- The cells of an array of characters, and every position written, those behind its end too. -/
structure Buffer where
  cells : List Char
  written : List ℕ

namespace Buffer

def zeroed (n : ℕ) : Buffer := ⟨List.replicate n nul, List.range n⟩

def put (b : Buffer) (pos : ℕ) (c : Char) : Buffer := ⟨b.cells.set pos c, b.written ++ [pos]⟩

def puts (b : Buffer) (pos : ℕ) : List Char → Buffer
  | [] => b
  | c :: cs => (b.put pos c).puts (pos + 1) cs

def snprintf (b : Buffer) (pos : ℕ) (size : ℕ) (text : List Char) : Buffer :=
  match size with
  | 0 => b
  | size + 1 => b.puts pos (text.take size ++ [nul])

def text (b : Buffer) : List Char := b.cells.takeWhile (· ≠ nul)

def printAll (room : ℕ → ℕ) (b : Buffer) (offset : ℕ) : List (List Char) → Buffer × ℕ
  | [] => (b, offset)
  | s :: ss => (b.snprintf offset (room offset) s).printAll room (offset + s.length) ss

def sprintf (b : Buffer) (pos : ℕ) (text : List Char) : Buffer := b.puts pos (text ++ [nul])

def sprintAll (b : Buffer) (pos : ℕ) : List (List Char) → Buffer
  | [] => b
  | s :: ss => (b.sprintf pos s).sprintAll (pos + s.length) ss

structure Call where
  pos : ℕ
  size : ℕ
  text : List Char

def run (b : Buffer) (calls : List Call) : Buffer :=
  calls.foldl (fun b c => b.snprintf c.pos c.size c.text) b

def printCalls (room : ℕ → ℕ) (offset : ℕ) : List (List Char) → List Call
  | [] => []
  | s :: ss => ⟨offset, room offset, s⟩ :: printCalls room (offset + s.length) ss

variable {b : Buffer} {pos size n : ℕ} {s t : List Char}

theorem zeroed_inside : ∀ p ∈ (zeroed n).written, p < n := fun _ hp => List.mem_range.mp hp

theorem puts_length (b : Buffer) (pos : ℕ) (s : List Char) :
    (b.puts pos s).cells.length = b.cells.length := by
  induction s generalizing b pos with
  | nil => rfl
  | cons c cs ih => rw [puts, ih, put, List.length_set]

theorem puts_written (b : Buffer) (pos : ℕ) (s : List Char) :
    (b.puts pos s).written = b.written ++ List.range' pos s.length := by
  induction s generalizing b pos with
  | nil => simp [puts]
  | cons c cs ih =>
    rw [puts, ih, put, List.length_cons, List.range'_succ, List.append_assoc]
    rfl

theorem puts_inside (h : pos + s.length ≤ b.cells.length) :
    (b.puts pos s).cells = b.cells.take pos ++ s ++ b.cells.drop (pos + s.length) := by
  induction s generalizing b pos with
  | nil => simp [puts]
  | cons c cs ih =>
    rw [List.length_cons] at h
    have hset : (b.put pos c).cells = b.cells.take pos ++ c :: b.cells.drop (pos + 1) :=
      List.set_eq_take_append_cons_drop.trans (if_pos (by omega))
    have hpos : (b.cells.take pos).length = pos := List.length_take_of_le (by omega)
    have hlen : (b.put pos c).cells.length = b.cells.length := List.length_set
    rw [puts, ih (by rw [hlen]; omega), hset, List.length_cons]
    have htake : (b.cells.take pos ++ c :: b.cells.drop (pos + 1)).take (pos + 1) =
        b.cells.take pos ++ [c] := by
      rw [List.take_append, hpos, List.take_take, Nat.add_sub_cancel_left]
      simp
    have hdrop : (b.cells.take pos ++ c :: b.cells.drop (pos + 1)).drop (pos + 1 + cs.length) =
        b.cells.drop (pos + (cs.length + 1)) := by
      rw [List.drop_append, hpos, List.drop_of_length_le (by omega), List.nil_append,
        show pos + 1 + cs.length - pos = cs.length + 1 by omega, List.drop_succ_cons,
        List.drop_drop]
      congr 1
      omega
    rw [htake, hdrop]
    simp

theorem puts_behind (h : b.cells.length ≤ pos) : (b.puts pos s).cells = b.cells := by
  induction s generalizing b pos with
  | nil => rfl
  | cons c cs ih =>
    have hset : (b.put pos c).cells = b.cells := List.set_eq_of_length_le h
    rw [puts, ih (by rw [hset]; omega), hset]

theorem puts_append (b : Buffer) (pos : ℕ) (s t : List Char) :
    b.puts pos (s ++ t) = (b.puts pos s).puts (pos + s.length) t := by
  induction s generalizing b pos with
  | nil => rfl
  | cons c cs ih =>
    rw [List.cons_append, puts, puts, ih, List.length_cons, Nat.add_right_comm, Nat.add_assoc]

theorem puts_take (h : n ≤ pos) : (b.puts pos s).cells.take n = b.cells.take n := by
  induction s generalizing b pos with
  | nil => rfl
  | cons c cs ih => rw [puts, ih (by omega), put, List.take_set, List.set_eq_of_length_le (by simp; omega)]

theorem sprintf_take (h : pos + s.length ≤ b.cells.length) :
    (b.sprintf pos s).cells.take (pos + s.length) = b.cells.take pos ++ s := by
  have hlen : (b.cells.take pos ++ s).length = pos + s.length := by
    rw [List.length_append, List.length_take_of_le (by omega)]
  rw [sprintf, puts_append, puts_take le_rfl, puts_inside h, ← hlen]
  exact List.take_left

theorem snprintf_length (b : Buffer) (pos size : ℕ) (s : List Char) :
    (b.snprintf pos size s).cells.length = b.cells.length := by
  cases size with
  | zero => rfl
  | succ size => exact puts_length b pos _

theorem snprintf_written {p : ℕ} (h : p ∈ (b.snprintf pos size s).written) :
    p ∈ b.written ∨ pos ≤ p ∧ p < pos + size := by
  cases size with
  | zero => exact .inl h
  | succ size =>
    rw [snprintf, puts_written, List.mem_append, List.mem_range'_1, List.length_append,
      List.length_take, List.length_singleton] at h
    rcases h with h | h
    · exact .inl h
    · exact .inr (by omega)

theorem snprintf_inside_iff (h : 0 < size) : (∀ p ∈ (b.snprintf pos size s).written, p < n) ↔
    (∀ p ∈ b.written, p < n) ∧ pos + min s.length (size - 1) < n := by
  obtain ⟨size, rfl⟩ := Nat.exists_eq_add_one.mpr h
  have htake : (s.take size ++ [nul]).length = min s.length size + 1 := by
    rw [List.length_append, List.length_take, List.length_singleton, min_comm]
  rw [snprintf, puts_written, htake, Nat.add_sub_cancel]
  simp only [List.mem_append, List.mem_range'_1]
  constructor
  · intro h
    exact ⟨fun p hp => h p (.inl hp), h _ (.inr (by omega))⟩
  · rintro ⟨hb, hlast⟩ p (hp | hp)
    · exact hb p hp
    · omega

theorem text_of_append {rest : List Char} (hs : nul ∉ s) (h : b.cells = s ++ nul :: rest) :
    b.text = s := by
  rw [text, h, List.takeWhile_append_of_pos fun c hc => ?_]
  · simp
  · exact decide_eq_true fun hn => hs (hn ▸ hc)

theorem cells_of_text (b : Buffer) : b.cells.take b.text.length = b.text :=
  (List.prefix_iff_eq_take.mp (List.takeWhile_prefix _)).symm

theorem nul_notMem_text (b : Buffer) : nul ∉ b.text := fun h =>
  absurd (List.mem_takeWhile_imp h) (by simp)

theorem snprintf_text (hlen : b.cells.length = n) (ht : b.text = t.take (n - 1))
    (hs : nul ∉ s) (hsize : t.length ≤ n → size = n - t.length) :
    (b.snprintf t.length size s).text = (t ++ s).take (n - 1) := by
  rcases Nat.lt_or_ge t.length n with hlt | hge
  · obtain ⟨room, hroom⟩ : ∃ room, n = t.length + room + 1 := ⟨n - 1 - t.length, by omega⟩
    have htext : b.text = t := by rw [ht, List.take_of_length_le (by omega)]
    have hcells : b.cells.take t.length = t := by
      rw [← htext]
      exact cells_of_text b
    have hnul : nul ∉ t := htext ▸ nul_notMem_text b
    have hfit : t.length + (s.take room ++ [nul]).length ≤ b.cells.length := by
      rw [List.length_append, List.length_take, List.length_singleton]
      omega
    have htake : (t ++ s).take (n - 1) = t ++ s.take room := by
      rw [List.take_append, List.take_of_length_le (by omega)]
      congr 2
      omega
    have hno : nul ∉ t ++ s.take room := by
      intro h
      rcases List.mem_append.mp h with h | h
      · exact hnul h
      · exact hs (List.mem_of_mem_take h)
    have hshape : (b.puts t.length (s.take room ++ [nul])).cells =
        t ++ s.take room ++ nul :: b.cells.drop (t.length + (s.take room ++ [nul]).length) := by
      rw [puts_inside hfit, hcells]
      simp only [List.append_assoc, List.singleton_append]
    rw [hsize hlt.le, show n - t.length = room + 1 by omega, snprintf, htake]
    exact text_of_append hno hshape
  · have htake : (t ++ s).take (n - 1) = t.take (n - 1) := by
      rw [List.take_append, show n - 1 - t.length = 0 by omega, List.take_zero, List.append_nil]
    have hcells : (b.snprintf t.length size s).cells = b.cells := by
      cases size with
      | zero => rfl
      | succ size => exact puts_behind (by omega)
    rw [htake, ← ht, text, hcells, text]

theorem snprintf_inside (hfit : (t ++ s).length ≤ n) (hsize : t.length ≤ n → size = n - t.length)
    (hb : ∀ p ∈ b.written, p < n) : ∀ p ∈ (b.snprintf t.length size s).written, p < n := by
  intro p hp
  rw [List.length_append] at hfit
  rw [hsize (by omega)] at hp
  rcases snprintf_written hp with hp | hp
  · exact hb p hp
  · omega

section SprintAll

variable {ss : List (List Char)}

theorem sprintf_length (b : Buffer) (pos : ℕ) (s : List Char) :
    (b.sprintf pos s).cells.length = b.cells.length := puts_length b pos _

theorem sprintf_inside_iff : (∀ p ∈ (b.sprintf pos s).written, p < n) ↔
    (∀ p ∈ b.written, p < n) ∧ pos + s.length < n := by
  rw [sprintf, puts_written, List.length_append, List.length_singleton]
  simp only [List.mem_append, List.mem_range'_1]
  constructor
  · intro h
    exact ⟨fun p hp => h p (.inl hp), h _ (.inr (by omega))⟩
  · rintro ⟨hb, hlast⟩ p (hp | hp)
    · exact hb p hp
    · omega

theorem sprintAll_inside_iff : (∀ p ∈ (b.sprintAll pos ss).written, p < n) ↔
    (∀ p ∈ b.written, p < n) ∧ (ss = [] ∨ pos + ss.flatten.length < n) := by
  induction ss generalizing b pos with
  | nil => simp [sprintAll]
  | cons s ss ih =>
    rw [sprintAll, ih, sprintf_inside_iff, List.flatten_cons, List.length_append, and_assoc]
    refine and_congr_right fun _ => ?_
    constructor
    · rintro ⟨hs, rfl | hss⟩
      · exact .inr (by simpa using hs)
      · exact .inr (by omega)
    · rintro (hss | hss)
      · cases hss
      · exact ⟨by omega, .inr (by omega)⟩

theorem sprintAll_take (h : pos + ss.flatten.length ≤ b.cells.length) :
    (b.sprintAll pos ss).cells.take (pos + ss.flatten.length) =
      b.cells.take pos ++ ss.flatten := by
  induction ss generalizing b pos with
  | nil => simp [sprintAll]
  | cons s ss ih =>
    rw [List.flatten_cons, List.length_append] at h ⊢
    rw [sprintAll, ← Nat.add_assoc, ih (by rw [sprintf_length]; omega), sprintf_take (by omega),
      List.append_assoc]

end SprintAll

section PrintAll

variable {room : ℕ → ℕ} {ss : List (List Char)}

theorem printAll_length (room : ℕ → ℕ) (b : Buffer) (offset : ℕ) (ss : List (List Char)) :
    (b.printAll room offset ss).1.cells.length = b.cells.length := by
  induction ss generalizing b offset with
  | nil => rfl
  | cons s ss ih => rw [printAll, ih, snprintf_length]

theorem printAll_offset (room : ℕ → ℕ) (b : Buffer) (offset : ℕ) (ss : List (List Char)) :
    (b.printAll room offset ss).2 = offset + ss.flatten.length := by
  induction ss generalizing b offset with
  | nil => rfl
  | cons s ss ih => rw [printAll, ih, List.flatten_cons, List.length_append, Nat.add_assoc]

theorem printAll_text (hroom : ∀ offset ≤ n, room offset = n - offset) (hlen : b.cells.length = n)
    (ht : b.text = t.take (n - 1)) (hs : ∀ s ∈ ss, nul ∉ s) :
    (b.printAll room t.length ss).1.text = (t ++ ss.flatten).take (n - 1) := by
  induction ss generalizing b t with
  | nil => rw [printAll, ht, List.flatten_nil, List.append_nil]
  | cons s ss ih =>
    obtain ⟨hnul, hs⟩ := List.forall_mem_cons.mp hs
    rw [printAll, ← List.length_append, List.flatten_cons, ← List.append_assoc]
    exact ih ((snprintf_length ..).trans hlen) (snprintf_text hlen ht hnul (hroom _)) hs

theorem printAll_inside (hroom : ∀ offset ≤ n, room offset = n - offset)
    (hfit : (t ++ ss.flatten).length ≤ n) (hb : ∀ p ∈ b.written, p < n) :
    ∀ p ∈ (b.printAll room t.length ss).1.written, p < n := by
  induction ss generalizing b t with
  | nil => exact hb
  | cons s ss ih =>
    rw [List.flatten_cons, ← List.append_assoc] at hfit
    rw [printAll, ← List.length_append]
    refine ih hfit (snprintf_inside ?_ (hroom _) hb)
    rw [List.length_append] at hfit
    omega

theorem room_eq {offset : ℕ} (hn : n < 2 ^ 32) (h : offset ≤ n) :
    (BitVec.ofNat 32 n - BitVec.ofNat 32 offset).toNat = n - offset := by
  rw [BitVec.toNat_sub, BitVec.toNat_ofNat, BitVec.toNat_ofNat]
  omega

theorem printCalls_size {offset : ℕ} (hroom : ∀ offset ≤ n, room offset = n - offset)
    (hfit : offset + ss.flatten.length ≤ n) :
    ∀ c ∈ printCalls room offset ss, c.pos ≤ n ∧ c.size = n - c.pos := by
  induction ss generalizing offset with
  | nil => exact fun c hc => absurd hc List.not_mem_nil
  | cons s ss ih =>
    rw [List.flatten_cons, List.length_append] at hfit
    have hoffset : offset ≤ n := by omega
    exact List.forall_mem_cons.mpr ⟨⟨hoffset, hroom offset hoffset⟩, ih (by omega)⟩

theorem run_append (b : Buffer) (calls more : List Call) :
    b.run (calls ++ more) = (b.run calls).run more := List.foldl_append

theorem printAll_eq_run (room : ℕ → ℕ) (b : Buffer) (offset : ℕ) (ss : List (List Char)) :
    (b.printAll room offset ss).1 = b.run (printCalls room offset ss) := by
  induction ss generalizing b offset with
  | nil => rfl
  | cons s ss ih => exact ih _ _

end PrintAll

theorem put_text (hlen : b.cells.length = n) (ht : b.text = t.take (n - 1)) (hpos : 0 < t.length) :
    (b.put (t.length - 1) nul).text = t.dropLast.take (n - 1) := by
  rcases Nat.lt_or_ge n t.length with hlt | hge
  · have hset : (b.put (t.length - 1) nul).cells = b.cells := List.set_eq_of_length_le (by omega)
    have htake : t.dropLast.take (n - 1) = t.take (n - 1) := by
      rw [List.dropLast_eq_take, List.take_take]
      congr 1
      omega
    rw [htake, ← ht, text, hset, text]
  · have htext : b.text.take (t.length - 1) = t.dropLast := by
      rw [ht, List.take_take, List.dropLast_eq_take]
      congr 1
      omega
    have hle : t.length - 1 ≤ b.text.length := by
      rw [ht, List.length_take]
      omega
    have hcells : b.cells.take (t.length - 1) = t.dropLast := by
      rw [← htext, ← cells_of_text b, List.take_take, min_eq_left hle]
    have hset : (b.put (t.length - 1) nul).cells =
        t.dropLast ++ nul :: b.cells.drop (t.length - 1 + 1) := by
      rw [← hcells]
      exact List.set_eq_take_append_cons_drop.trans (if_pos (by omega))
    rw [List.take_of_length_le (by rw [List.length_dropLast]; omega)]
    refine text_of_append (fun h => nul_notMem_text b ?_) hset
    rw [← htext] at h
    exact List.mem_of_mem_take h

end Buffer

end SlcNode.Print
