import SlcNode.BandCommand
import SlcNode.BandMask
import SlcNode.Library.Overwrite
import Mathlib.Data.Stream.Init

namespace SlcNode.CellularAt

def readBands (h : ℕ) : ℕ → List Byte → At (List Byte)
  | 0, band => pure band
  | n + 1, band => do
    let ret ← readInt h
    if ret.toInt ≤ 0 then return band
    readBands h n (band ++ [ret.setWidth 8])

def queryNband (h : ℕ) : At BandResult := do
  perform h [.flush, .lock, .cmdStart "AT+NBAND?", .cmdStop, .respStart "+NBAND:"]
  let band ← readBands h 6 []
  perform h [.respStop]
  let ret ← unlockReturnError h
  let _ ← releaseAtHandler h
  return { ret := ret, band := band }

def getBandBC95G (band : Bool) (size : ℕ) : At BandResult := do
  if !band || size == 0 then
    return { ret := -1, band := [] }
  match ← getAtHandler with
  | none => return { ret := -1, band := [] }
  | some h => queryNband h

def provisionedBands : List Byte := [3, 8, 28]

def matchcnt (band : List Byte) : ℕ := ((band.take 3).map fun b => provisionedBands.count b).sum

def provisioned (found band₀ : List Byte) : Bool :=
  found.length = 3 && matchcnt (overwrite 0 found band₀) = 3

def bandSize : ℕ := 20

/-- The case of a BC95-G in `CellularExt_PreInitModule`: whether the bands are found provisioned.
Where they are not, they are set and the function returns 1; `band₀` is what the array `band` has
before. -/
def provisionBC95G (band₀ : List Byte) : At Bool := do
  let got ← getBandBC95G true bandSize
  if provisioned got.band band₀ then return true
  let _ ← setBandBC95G (some provisionedBands)
  let _ ← getBandBC95G true bandSize
  return false

/-- The case of a SARA-R410M or an N410 up to the two power saving commands. -/
def provisionR410M (tgt : Target) (band₀ : List Byte) : At Bool := do
  let got ← getBandR410M tgt true bandSize
  if provisioned got.band band₀ then return true
  let _ ← setBandR410M tgt (some provisionedBands)
  let _ ← getBandR410M tgt true bandSize
  return false

end CellularAt

namespace BandCheck

open Handle CellularAt AtOwnership

def Exactly {α : Type} (wanted bands : List α) : Prop := ∀ a, a ∈ bands ↔ a ∈ wanted

theorem exactly_of_perm {α : Type} {wanted bands : List α} (h : List.Perm bands wanted) :
    Exactly wanted bands := fun _ => h.mem_iff

theorem perm_of_exactly {α : Type} {wanted bands : List α} (hnodup : wanted.Nodup)
    (h : Exactly wanted bands) (hlen : bands.length = wanted.length) : List.Perm bands wanted :=
  ((hnodup.subperm fun a ha => (h a).mpr ha).perm_of_length_le hlen.le).symm

theorem sum_of_le_one {l : List ℕ} (h : ∀ n ∈ l, n ≤ 1) :
    l.sum ≤ l.length ∧ (l.sum = l.length ↔ ∀ n ∈ l, n = 1) := by
  induction l with
  | nil => simp
  | cons n l ih =>
    obtain ⟨hn, hl⟩ := List.forall_mem_cons.mp h
    obtain ⟨hle, hiff⟩ := ih hl
    rw [List.sum_cons, List.length_cons, List.forall_mem_cons]
    refine ⟨by omega, fun hsum => ⟨by omega, hiff.mp (by omega)⟩, fun ⟨hone, hall⟩ => ?_⟩
    have hsum := hiff.mpr hall
    omega

theorem provisioned_iff (found band₀ : List Byte) :
    provisioned found band₀ = true ↔ found.length = 3 ∧ ∀ b ∈ found, b ∈ provisionedBands := by
  have hnodup : provisionedBands.Nodup := by decide
  rw [provisioned, Bool.and_eq_true, decide_eq_true_iff, decide_eq_true_iff]
  refine and_congr_right fun hlen => ?_
  have htake : (overwrite 0 found band₀).take 3 = found := by
    rw [← hlen]
    exact Overwrite.take_overwrite_zero found band₀
  have hcount : ∀ b, provisionedBands.count b = 1 ↔ b ∈ provisionedBands := fun b =>
    ⟨fun h => List.count_pos_iff.mp (by omega), List.count_eq_one_of_mem hnodup⟩
  have hall := (sum_of_le_one (l := found.map fun b => provisionedBands.count b) fun n hn => by
    obtain ⟨b, -, rfl⟩ := List.mem_map.mp hn
    exact List.nodup_iff_count_le_one.mp hnodup b).2
  rw [List.length_map, hlen] at hall
  rw [matchcnt, htake, hall, List.forall_mem_map]
  exact forall₂_congr fun b _ => hcount b

theorem taken_iff {found band₀ : List Byte} {p : At Bool} (hp : ∀ w, (p w).1 = false)
    {w : World Cellular AtOp} :
    ((if provisioned found band₀ then pure true else p : At Bool) w).1 = true ↔
      provisioned found band₀ = true := by
  split
  · next h => exact iff_of_true rfl h
  · next h => exact iff_of_false (fun hw => Bool.false_ne_true ((hp w).symm.trans hw)) h

section BC95G

def counted (answer : List (BitVec 32)) : List (BitVec 32) :=
  answer.takeWhile fun n => 0 < n.toInt

theorem readBands_eq (h n : ℕ) (band : List Byte) (w : World Cellular AtOp) :
    (readBands h n band w).1 =
      band ++ (counted (w.env.modem.ints.take n)).map (BitVec.setWidth 8) := by
  induction n generalizing band w with
  | zero => exact (List.append_nil band).symm
  | succ n ih =>
    have hread : (readInt h w).1 = w.env.modem.ints.head := rfl
    rw [readBands, bind_apply, hread, Stream'.take_succ, counted, List.takeWhile_cons]
    by_cases hpos : 0 < w.env.modem.ints.head.toInt
    · rw [if_pos (decide_eq_true hpos), List.map_cons, if_neg (not_le.mpr hpos), ih,
        List.append_assoc, List.singleton_append]
      rfl
    · rw [if_neg (fun ht => hpos (of_decide_eq_true ht)), List.map_nil, List.append_nil,
        if_pos (not_lt.mp hpos)]
      rfl

theorem counted_take {answer : List (BitVec 32)} {n : ℕ} (h : answer.length ≤ n) :
    counted ((answer ++ₛ Stream'.const (-1)).take n) = counted answer := by
  induction answer generalizing n with
  | nil =>
    cases n with
    | zero => rfl
    | succ n => rfl
  | cons a answer ih =>
    cases n with
    | zero => exact absurd h (Nat.not_succ_le_zero _)
    | succ n =>
      rw [Stream'.cons_append_stream, Stream'.take_succ_cons, counted, counted, List.takeWhile_cons,
        List.takeWhile_cons]
      split
      · exact congrArg (a :: ·) (ih (Nat.le_of_succ_le_succ h))
      · rfl

theorem counted_eq_self {answer : List (BitVec 32)} (h : ∀ n ∈ answer, 0 < n.toInt) :
    counted answer = answer :=
  List.takeWhile_eq_self_iff.mpr fun n hn => decide_eq_true (h n hn)

theorem getBandBC95G_band {c : Cellular} {answer : List (BitVec 32)} (hg : Given c)
    (hlen : answer.length ≤ 6) (hints : c.modem.ints = answer ++ₛ Stream'.const (-1)) :
    (getBandBC95G true bandSize (start c)).1.band = (counted answer).map (BitVec.setWidth 8) := by
  obtain ⟨env, heq, henv⟩ := getAtHandler_some (w := start c) hg
  rw [getBandBC95G, if_neg (by decide), bind_apply, heq]
  change (queryNband 0 _).1.band = _
  simp only [queryNband, bind_apply]
  change (readBands 0 6 [] _).1 = _
  rw [readBands_eq, perform_env, henv]
  change [] ++ (counted (c.modem.ints.take 6)).map _ = _
  rw [hints, counted_take hlen, List.nil_append]

def wanted : List (BitVec 32) := [3, 8, 28]

structure Unmistaken (answer : List (BitVec 32)) : Prop where
  once : Exactly wanted answer → answer.length = 3
  three : (counted answer).length = 3 → (∀ n ∈ counted answer, n.setWidth 8 ∈ provisionedBands) →
    List.Perm answer wanted

theorem provisionBC95G_iff {c : Cellular} {answer : List (BitVec 32)} (band₀ : List Byte)
    (hg : Given c) (hlen : answer.length ≤ 6)
    (hints : c.modem.ints = answer ++ₛ Stream'.const (-1)) :
    (provisionBC95G band₀ (start c)).1 = true ↔
      (counted answer).length = 3 ∧ ∀ n ∈ counted answer, n.setWidth 8 ∈ provisionedBands := by
  have hband := getBandBC95G_band hg hlen hints
  have hiff := provisioned_iff (getBandBC95G true bandSize (start c)).1.band band₀
  rw [hband, List.length_map, List.forall_mem_map] at hiff
  rw [← hiff, ← hband, provisionBC95G, bind_apply]
  exact taken_iff fun w => rfl

theorem unmistaken_iff {answer : List (BitVec 32)} :
    (((counted answer).length = 3 ∧ ∀ n ∈ counted answer, n.setWidth 8 ∈ provisionedBands) ↔
      Exactly wanted answer) ↔ Unmistaken answer := by
  have hnodup : wanted.Nodup := by decide
  have hmem : ∀ n ∈ wanted, 0 < n.toInt ∧ n.setWidth 8 ∈ provisionedBands := by
    rw [wanted, List.forall_mem_cons, List.forall_mem_cons, List.forall_mem_singleton]
    decide
  have hself : Exactly wanted answer → counted answer = answer := fun h =>
    counted_eq_self fun n hn => (hmem n ((h n).mp hn)).1
  constructor
  · intro h
    have honce : Exactly wanted answer → answer.length = 3 := fun hex => hself hex ▸ (h.mpr hex).1
    refine ⟨honce, fun hcount hall => ?_⟩
    have hex := h.mp ⟨hcount, hall⟩
    exact perm_of_exactly hnodup hex (honce hex)
  · rintro ⟨honce, hthree⟩
    constructor
    · rintro ⟨hcount, hall⟩
      exact exactly_of_perm (hthree hcount hall)
    · intro hex
      rw [hself hex]
      exact ⟨honce hex, fun n hn => (hmem n ((hex n).mp hn)).2⟩

end BC95G

section R410M

variable {tgt : Target}

theorem bandsFrom_nodup {mask : BitVec 64} {size n : ℕ} (hn : n ≤ 64) {band : List Byte}
    (hnodup : band.Nodup) (hlt : ∀ b ∈ band, b.toNat ≤ 64 - n) :
    (bandsFrom tgt mask size n band).Nodup := by
  induction n generalizing band with
  | zero => exact hnodup
  | succ n ih =>
    have hnat : (BitVec.ofNat 8 (64 - n)).toNat = 64 - n := by
      rw [BitVec.toNat_ofNat]
      omega
    have hadd : (band ++ [BitVec.ofNat 8 (64 - n)]).Nodup := by
      rw [← List.concat_eq_append]
      refine hnodup.concat fun hmem => ?_
      have hle := hlt _ hmem
      omega
    have hle : ∀ b ∈ band ++ [BitVec.ofNat 8 (64 - n)], b.toNat ≤ 64 - n := by
      intro b hb
      rcases List.mem_append.mp hb with hb | hb
      · have hb := hlt b hb
        omega
      · rw [List.mem_singleton.mp hb, hnat]
    rw [bandsFrom]
    split_ifs
    · exact hadd
    · exact ih (by omega) hadd hle
    · exact ih (by omega) hnodup fun b hb => (hlt b hb).trans (by omega)

theorem bandsOf_nodup (mask : BitVec 64) (size : ℕ) : (bandsOf tgt mask size).Nodup := by
  rw [bandsOf]
  split_ifs
  · exact bandsFrom_nodup le_rfl List.nodup_nil (by simp)
  · exact List.nodup_nil

theorem getBandLoop_nodup (size h left : ℕ) (w : World Cellular AtOp) :
    (getBandLoop tgt size h left w).1.band.Nodup := by
  induction left generalizing w with
  | zero =>
    rw [getBandLoop, bind_apply]
    rcases (queryBandmask h w).1 with ⟨ret, _ | mask⟩
    · dsimp only
      rw [bind_apply, bind_apply, bind_apply]
      exact List.nodup_nil
    · dsimp only
      rw [bind_apply]
      exact bandsOf_nodup mask size
  | succ left ih =>
    rw [getBandLoop, bind_apply]
    rcases (queryBandmask h w).1 with ⟨ret, _ | mask⟩
    · dsimp only
      rw [bind_apply, bind_apply, bind_apply]
      exact ih _
    · dsimp only
      rw [bind_apply]
      exact bandsOf_nodup mask size

theorem getBandR410M_nodup (band : Bool) (size : ℕ) (w : World Cellular AtOp) :
    (getBandR410M tgt band size w).1.band.Nodup := by
  rw [getBandR410M]
  split
  · exact List.nodup_nil
  · rw [bind_apply]
    cases (getAtHandler w).1 with
    | none => exact List.nodup_nil
    | some h => exact getBandLoop_nodup size h 1 _

theorem provisioned_iff_of_nodup {found : List Byte} (band₀ : List Byte) (h : found.Nodup) :
    provisioned found band₀ = true ↔ Exactly provisionedBands found := by
  have hnodup : provisionedBands.Nodup := by decide
  rw [provisioned_iff]
  constructor
  · rintro ⟨hlen, hall⟩
    exact exactly_of_perm ((h.subperm hall).perm_of_length_le hlen.ge)
  · intro hex
    have hperm := (List.perm_ext_iff_of_nodup h hnodup).mpr hex
    exact ⟨hperm.length_eq, fun b hb => (hex b).mp hb⟩

theorem provisionR410M_iff (tgt : Target) (band₀ : List Byte) (w : World Cellular AtOp) :
    (provisionR410M tgt band₀ w).1 = true ↔
      Exactly provisionedBands (getBandR410M tgt true bandSize w).1.band := by
  rw [← provisioned_iff_of_nodup band₀ (getBandR410M_nodup true bandSize w), provisionR410M,
    bind_apply]
  exact taken_iff fun w => rfl

end R410M

theorem provision_right_iff (tgt : Target) (band₀ : List Byte) {c : Cellular}
    {answer : List (BitVec 32)} (hg : Given c) (hlen : answer.length ≤ 6)
    (hints : c.modem.ints = answer ++ₛ Stream'.const (-1)) :
    (((provisionBC95G band₀ (start c)).1 = true ↔ Exactly wanted answer) ↔ Unmistaken answer) ∧
      ((provisionR410M tgt band₀ (start c)).1 = true ↔
        Exactly provisionedBands (getBandR410M tgt true bandSize (start c)).1.band) := by
  refine ⟨?_, provisionR410M_iff tgt band₀ (start c)⟩
  rw [provisionBC95G_iff band₀ hg hlen hints]
  exact unmistaken_iff

def answering (answer : List (BitVec 32)) : Cellular :=
  ⟨{ modem with ints := answer ++ₛ Stream'.const (-1) }, .bc95g, false⟩

theorem provision_right_default :
    (((provisionBC95G [] (start (answering [5, 8, 3, 28, 20, 1]))).1 = true ↔
          Exactly wanted [5, 8, 3, 28, 20, 1]) ↔ Unmistaken [5, 8, 3, 28, 20, 1]) ∧
      ((provisionR410M ⟨fun _ => 0, fun _ => 0⟩ []
            (start (answering [5, 8, 3, 28, 20, 1]))).1 = true ↔
        Exactly provisionedBands (getBandR410M ⟨fun _ => 0, fun _ => 0⟩ true bandSize
          (start (answering [5, 8, 3, 28, 20, 1]))).1.band) :=
  provision_right_iff _ [] ⟨rfl, rfl⟩ (by decide) rfl

theorem provision_mistaken :
    ¬ ((provisionBC95G [] (start (answering [3, 3, 8]))).1 = true ↔ Exactly wanted [3, 3, 8]) ∧
      ¬ ((provisionBC95G [] (start (answering [3, 8, 28, 3]))).1 = true ↔
        Exactly wanted [3, 8, 28, 3]) := by
  constructor
  · rw [provisionBC95G_iff [] ⟨rfl, rfl⟩ (by decide) rfl, unmistaken_iff]
    intro h
    have hcounted : counted [3, 3, 8] = [3, 3, 8] := by decide
    have hall : ∀ n ∈ ([3, 3, 8] : List (BitVec 32)), n.setWidth 8 ∈ provisionedBands := by
      rw [List.forall_mem_cons, List.forall_mem_cons, List.forall_mem_singleton]
      decide
    exact absurd (h.three (by rw [hcounted]; rfl) (by rwa [hcounted])) (by decide)
  · rw [provisionBC95G_iff [] ⟨rfl, rfl⟩ (by decide) rfl, unmistaken_iff]
    intro h
    have hex : Exactly wanted [3, 8, 28, 3] := by
      intro n
      simp only [wanted, List.mem_cons, List.not_mem_nil, or_false]
      tauto
    exact absurd (h.once hex) (by decide)

end BandCheck

end SlcNode
