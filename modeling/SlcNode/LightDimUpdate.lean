import SlcNode.Library.Stores
import SlcNode.Update

namespace SlcNode

open Stores

/-- `_SlcApp_LightDimStruct` and what follows it: the memory from its `dimarray` on, of which the
first `LIGHT_ADDR_MAX` bytes are the array. -/
structure DimMemory where
  broadcast : Byte
  dimarray : ℕ → Byte

/-- The byte that `dimstruct.config.broadcast` is behind the `memcpy`. -/
def testedBroadcast (uninit : Byte) (buff : List Byte) : Byte := buff.headD uninit

def specificStores (buff : List Byte) : ℕ → ℕ → List (ℕ × Byte)
  | 0, _ => []
  | cnt + 1, j => ((buff.getD j 0).toNat, buff.getD (j + 1) 0) :: specificStores buff cnt (j + 2)

def dimarrayStores (n : ℕ) (uninit : Byte) (buff : List Byte) : List (ℕ × Byte) :=
  if testedBroadcast uninit buff = slcappDimSpecificdim then
    specificStores buff ((buff.length - 1) / 2) 1
  else copy 0 (buff.take (n + 1)).tail

def updateDimMemory (n : ℕ) (uninit : Byte) (buff : List Byte) (d : DimMemory) : DimMemory where
  broadcast :=
    if testedBroadcast uninit buff = slcappDimSpecificdim then 0
    else (buff.take (n + 1)).headD d.broadcast
  dimarray := storeAll d.dimarray (dimarrayStores n uninit buff)

structure DimStruct (n : ℕ) where
  broadcast : Byte
  dimarray : Fin n → Byte

namespace LightDimUpdate

def struct (n : ℕ) (d : DimMemory) : DimStruct n := ⟨d.broadcast, view n d.dimarray⟩

def pairs : List Byte → List (ℕ × Byte)
  | idx :: level :: rest => (idx.toNat, level) :: pairs rest
  | _ => []

def asked {n : ℕ} (d : DimStruct n) : List Byte → DimStruct n
  | [] => d
  | c :: rest =>
    if c = slcappDimSpecificdim then ⟨0, ((pairs rest).filter (·.1 < n)).foldl put d.dimarray⟩
    else ⟨c, fun k => rest.getD k (d.dimarray k)⟩

def Right (n : ℕ) (uninit : Byte) (buff : List Byte) (d : DimMemory) : Prop :=
  struct n (updateDimMemory n uninit buff d) = asked (struct n d) buff ∧
    ∀ s ∈ dimarrayStores n uninit buff, s.1 < n

def askedPairs : List Byte → List (ℕ × Byte)
  | [] => []
  | c :: rest => if c = slcappDimSpecificdim then pairs rest else []

variable {n : ℕ}

theorem specificStores_eq (buff rest : List Byte) (j : ℕ) (h : buff.drop j = rest) :
    specificStores buff (rest.length / 2) j = pairs rest := by
  fun_induction pairs rest generalizing j with
  | case1 idx level rest ih =>
    have hj : buff[j]? = some idx := by rw [← List.head?_drop, h, List.head?_cons]
    have htail : buff.drop (j + 1) = level :: rest := by rw [← List.tail_drop, h, List.tail_cons]
    have hj' : buff[j + 1]? = some level := by rw [← List.head?_drop, htail, List.head?_cons]
    have hrest : buff.drop (j + 2) = rest := by rw [← List.tail_drop, htail, List.tail_cons]
    have hlen : (idx :: level :: rest).length / 2 = rest.length / 2 + 1 := by
      rw [List.length_cons, List.length_cons]
      omega
    rw [hlen, specificStores, ih (j + 2) hrest, List.getD_eq_getElem?_getD,
      List.getD_eq_getElem?_getD, hj, hj', Option.getD_some, Option.getD_some]
  | case2 rest hrest =>
    match rest with
    | [] => rfl
    | [_] =>
      rw [List.length_singleton]
      rfl
    | idx :: level :: rest => exact absurd rfl (hrest idx level rest)

theorem specificStores_cons (c : Byte) (rest : List Byte) :
    specificStores (c :: rest) (((c :: rest).length - 1) / 2) 1 = pairs rest := by
  rw [List.length_cons, Nat.add_sub_cancel]
  exact specificStores_eq _ _ 1 rfl

theorem right_nil (uninit : Byte) (d : DimMemory) :
    Right n uninit [] d ↔ (uninit = slcappDimSpecificdim → d.broadcast = 0) := by
  have hstores : dimarrayStores n uninit [] = [] := by
    unfold dimarrayStores
    split <;> rfl
  have hstruct : struct n (updateDimMemory n uninit [] d) = struct n d ↔
      (uninit = slcappDimSpecificdim → d.broadcast = 0) := by
    rw [struct, struct, DimStruct.mk.injEq, updateDimMemory, hstores]
    change (ite (uninit = slcappDimSpecificdim) 0 d.broadcast = d.broadcast ∧ _) ↔ _
    split
    case isTrue h => exact ⟨fun hb _ => hb.1.symm, fun hb => ⟨(hb h).symm, rfl⟩⟩
    case isFalse h => exact iff_of_true ⟨rfl, rfl⟩ fun hu => absurd hu h
  rw [Right, hstores, asked, hstruct]
  exact and_iff_left fun s hs => absurd hs List.not_mem_nil

theorem right_specific (uninit : Byte) (rest : List Byte) (d : DimMemory) :
    Right n uninit (slcappDimSpecificdim :: rest) d ↔ ∀ p ∈ pairs rest, p.1 < n := by
  have hstores : dimarrayStores n uninit (slcappDimSpecificdim :: rest) = pairs rest := by
    rw [dimarrayStores, testedBroadcast, List.headD_cons, if_pos rfl, specificStores_cons]
  have hstruct : struct n (updateDimMemory n uninit (slcappDimSpecificdim :: rest) d) =
      asked (struct n d) (slcappDimSpecificdim :: rest) := by
    rw [asked, if_pos rfl, foldl_put_filter, struct, updateDimMemory, hstores, view_storeAll,
      testedBroadcast, List.headD_cons, if_pos rfl]
    rfl
  rw [Right, hstores]
  exact and_iff_right hstruct

theorem right_replaced {c : Byte} {rest : List Byte} (hc : c ≠ slcappDimSpecificdim)
    (hlen : rest.length ≤ n) (uninit : Byte) (d : DimMemory) : Right n uninit (c :: rest) d := by
  have htake : (c :: rest).take (n + 1) = c :: rest :=
    List.take_of_length_le (Nat.succ_le_succ hlen)
  have hstores : dimarrayStores n uninit (c :: rest) = copy 0 rest := by
    rw [dimarrayStores, testedBroadcast, List.headD_cons, if_neg hc, htake, List.tail_cons]
  constructor
  · rw [asked, if_neg hc, struct, updateDimMemory, hstores, testedBroadcast, List.headD_cons,
      if_neg hc, htake, List.headD_cons]
    congr 1
    funext k
    change storeAll d.dimarray (copy 0 rest) k = rest.getD k (d.dimarray k)
    rw [storeAll_copy, if_pos (Nat.zero_le _), Nat.sub_zero]
  · intro s hs
    rw [hstores] at hs
    have hlt := (pos_of_mem_copy hs).2
    omega

theorem update_right_iff {buff : List Byte} (hlen : buff.length ≤ n + 1) (uninit : Byte)
    (d : DimMemory) : Right n uninit buff d ↔
      (∀ p ∈ askedPairs buff, p.1 < n) ∧
        (buff = [] → uninit = slcappDimSpecificdim → d.broadcast = 0) := by
  cases buff with
  | nil =>
    rw [right_nil]
    exact ⟨fun h => ⟨fun p hp => absurd hp List.not_mem_nil, fun _ => h⟩, fun h => h.2 rfl⟩
  | cons c rest =>
    have hne : c :: rest = [] → uninit = slcappDimSpecificdim → d.broadcast = 0 := by simp
    rw [and_iff_left hne, askedPairs]
    split
    case isTrue h =>
      subst h
      exact right_specific uninit rest d
    case isFalse h =>
      exact iff_of_true (right_replaced h (Nat.le_of_succ_le_succ hlen) uninit d)
        fun p hp => absurd hp List.not_mem_nil

theorem update_right_iff_two_pairs : Right 64 0 [2, 3, 50, 3, 60, 9] ⟨1, fun _ => 100⟩ := by
  refine (update_right_iff (by decide) 0 _).mpr ⟨?_, nofun⟩
  decide

theorem index_64_outside : ¬Right 64 0 [2, 64, 50] ⟨1, fun _ => 100⟩ := by
  intro h
  exact absurd ((right_specific 0 [64, 50] _).mp h _ List.mem_cons_self) (by decide)

section Node

def ofLightDim (d : LightDim) : DimMemory := ⟨d.broadcast, fun k => d.dimarray[k]?.getD 0⟩

theorem view_ofLightDim (d : LightDim) (k : Fin lightAddrMax) :
    view lightAddrMax (ofLightDim d).dimarray k = d.dimarray.get k := by
  change d.dimarray[(k : ℕ)]?.getD 0 = d.dimarray.get k
  rw [Vector.getElem?_eq_getElem k.isLt, Option.getD_some]
  rfl

theorem struct_update (p : DimPayload) (d : LightDim) :
    struct lightAddrMax (updateDimMemory lightAddrMax p.uninit p.bytes (ofLightDim d)) =
      struct lightAddrMax (ofLightDim (d.update p)) := by
  obtain ⟨bytes, fits, uninit⟩ := p
  have hlen : bytes.length ≤ 2 := fits
  have htested : bytes.getD 0 uninit = testedBroadcast uninit bytes := by cases bytes <;> rfl
  have htake : bytes.take (lightAddrMax + 1) = bytes := List.take_of_length_le hlen
  rw [LightDim.update, htested, struct, updateDimMemory, dimarrayStores, htake]
  dsimp only
  split
  case isTrue hc =>
    have hcnt : (bytes.length - 1) / 2 = 0 := by omega
    have hpairs : LightDim.applyPairs bytes.tail d.dimarray = d.dimarray := by
      match bytes, hlen with
      | [], _ | [_], _ | [_, _], _ => rfl
    rw [hcnt, hpairs]
    rfl
  case isFalse hc =>
    have hbroadcast : bytes.headD d.broadcast = bytes.getD 0 d.broadcast := by cases bytes <;> rfl
    rw [struct, DimStruct.mk.injEq]
    refine ⟨hbroadcast, funext fun k => ?_⟩
    have hk := view_ofLightDim d k
    rw [view] at hk
    rw [view_ofLightDim, view, storeAll_copy, if_pos (Nat.zero_le _), Nat.sub_zero, hk,
      LightDim.overwrite]
    cases bytes <;> simp [Vector.get]

end Node

end LightDimUpdate

end SlcNode
