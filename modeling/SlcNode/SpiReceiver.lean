import SlcNode.Library.FrameLock
import SlcNode.State

namespace SlcNode

def spiFirstCheckByte : Byte := 0xfe

def spiLastCheckByte : Byte := 0x7f

/-- `INDEX_SPIMASTER_LAST_CHECK_BYTE + 1`, one byte of the frame for each lamp. -/
abbrev spiTransferSize : ℕ := 31 + lightAddrMax

abbrev SpiBuffer := Vector Byte spiTransferSize

structure SpiReceiver where
  inner : Bool
  idx : ℕ
  readBuffer : SpiBuffer
  readBackupBuffer : SpiBuffer
  writeBuffer : SpiBuffer
  replies : List Byte
  /-- what was copied to `readBackupBuffer` so far -/
  published : List SpiBuffer
deriving DecidableEq

namespace SpiReceiver

def zero : SpiBuffer := Vector.replicate spiTransferSize 0

/-- `SlcCtrl_ThreadFxn` up to its loop; the light pair mode and the reserved bytes are zero. -/
def threadStart : SpiReceiver where
  inner := false
  idx := 0
  readBuffer := zero
  readBackupBuffer := zero
  writeBuffer := (zero.set 0 spiFirstCheckByte).set 1 100 |>.set 5 spiLastCheckByte
  replies := []
  published := []

def reply (value : Byte) (r : SpiReceiver) : SpiReceiver := { r with replies := r.replies ++ [value] }

/-- The byte is stored and the write buffer answers at the same index. -/
def store (tmp : Byte) (r : SpiReceiver) : SpiReceiver :=
  { r.reply (r.writeBuffer[r.idx]?.getD 0) with
    readBuffer := r.readBuffer.setIfInBounds r.idx tmp
    idx := r.idx + 1 }

def publish (r : SpiReceiver) : SpiReceiver :=
  { r with readBackupBuffer := r.readBuffer, published := r.published ++ [r.readBuffer] }

def closeWindow (tmp : Byte) (r : SpiReceiver) : SpiReceiver :=
  let r := if tmp = spiLastCheckByte then r.publish else r
  { r with idx := 0, readBuffer := zero, inner := false }

def receive (r : SpiReceiver) (tmp : Byte) : SpiReceiver :=
  if r.inner then
    let r := r.store tmp
    if r.idx ≥ spiTransferSize then r.closeWindow tmp else r
  else if tmp = spiFirstCheckByte then { r.store tmp with inner := true }
  else r.reply 0

end SpiReceiver

def spiFraming : Framing Byte where
  first := spiFirstCheckByte
  last := spiLastCheckByte
  length := spiTransferSize
  two_le := by decide

namespace SpiReceiver

open EventRun

def view (r : SpiReceiver) : Framing.Receiver Byte where
  window := r.readBuffer.toList.take r.idx
  published := r.published.map Vector.toList

structure Sound (r : SpiReceiver) : Prop where
  bound : r.idx < spiTransferSize
  inner : r.inner = true ↔ 0 < r.idx
  clear : r.inner = false → r.readBuffer = zero
  backup : r.readBackupBuffer = r.published.getLast?.getD zero

theorem sound_threadStart : threadStart.Sound := ⟨by decide, by decide, fun _ => rfl, rfl⟩

theorem toList_length (b : SpiBuffer) : b.toList.length = spiTransferSize := Vector.length_toList

theorem take_store {r : SpiReceiver} (h : r.idx < spiTransferSize) (tmp : Byte) :
    (r.store tmp).readBuffer.toList.take (r.idx + 1) = r.readBuffer.toList.take r.idx ++ [tmp] := by
  have hlen : r.idx < r.readBuffer.toList.length := by rwa [toList_length]
  have hset : (r.store tmp).readBuffer.toList = r.readBuffer.toList.set r.idx tmp := by
    simp [store]
  rw [hset, List.set_eq_take_append_cons_drop, if_pos hlen, List.append_cons]
  refine List.take_left' ?_
  rw [List.length_append, List.length_take_of_le hlen.le, List.length_singleton]

theorem view_store {r : SpiReceiver} (h : r.idx < spiTransferSize) (tmp : Byte) :
    (r.store tmp).view = ⟨r.view.window ++ [tmp], r.view.published⟩ := by
  rw [view, show (r.store tmp).idx = r.idx + 1 from rfl, take_store h]
  rfl

theorem window_length {r : SpiReceiver} (hr : r.Sound) : r.view.window.length = r.idx := by
  rw [view, List.length_take_of_le]
  rw [toList_length]
  exact hr.bound.le

theorem view_outer {r : SpiReceiver} (hr : r.Sound) (hi : r.inner = false) :
    r.idx = 0 ∧ r.view = Framing.idle r.view.published := by
  have hz : r.idx = 0 := by
    have h := hr.inner
    rw [hi] at h
    simpa using h
  refine ⟨hz, ?_⟩
  rw [view, hz]
  rfl

theorem window_ne_nil {r : SpiReceiver} (hr : r.Sound) (hi : r.inner = true) :
    r.view.window ≠ [] := by
  rw [← List.length_pos_iff, window_length hr]
  exact hr.inner.mp hi

theorem full_window {r : SpiReceiver} (hr : r.Sound) (tmp : Byte)
    (hfull : r.idx + 1 = spiTransferSize) :
    (r.store tmp).readBuffer.toList = r.view.window ++ [tmp] := by
  have htake := take_store hr.bound tmp
  rwa [List.take_of_length_le (by rw [toList_length, hfull])] at htake

theorem closed_iff (w : List Byte) (tmp : Byte) :
    spiFraming.Closed (w ++ [tmp]) ↔ tmp = spiLastCheckByte := by
  rw [Framing.Closed, List.getLast?_append, List.getLast?_singleton]
  exact Option.some_inj

theorem closeWindow_view {r : SpiReceiver} (hr : r.Sound) (tmp : Byte)
    (hfull : r.idx + 1 = spiTransferSize) :
    ((r.store tmp).closeWindow tmp).Sound ∧ ((r.store tmp).closeWindow tmp).view =
      Framing.idle (spiFraming.publish (r.view.window ++ [tmp]) r.view.published) := by
  unfold closeWindow Framing.publish
  by_cases ht : tmp = spiLastCheckByte
  · rw [if_pos ht, if_pos ((closed_iff _ _).mpr ht), ← full_window hr tmp hfull]
    refine ⟨⟨Nat.succ_pos _, by simp, fun _ => rfl, ?_⟩, ?_⟩
    · simp [publish]
    · simp [publish, view, Framing.idle]
      rfl
  · rw [if_neg ht, if_neg (mt (closed_iff _ _).mp ht)]
    exact ⟨⟨Nat.succ_pos _, by simp, fun _ => rfl, hr.backup⟩, rfl⟩

theorem receive_outer {r : SpiReceiver} (hr : r.Sound) (hi : r.inner = false) (tmp : Byte) :
    (r.receive tmp).Sound ∧ (r.receive tmp).view = spiFraming.receive r.view tmp := by
  obtain ⟨hz, hidle⟩ := view_outer hr hi
  unfold receive
  rw [if_neg (by rw [hi]; exact Bool.false_ne_true)]
  by_cases ht : tmp = spiFirstCheckByte
  · rw [if_pos ht, hidle, ht]
    refine ⟨⟨?_, ?_, fun h => Bool.noConfusion h, hr.backup⟩, ?_⟩
    · change r.idx + 1 < spiTransferSize
      rw [hz]
      decide
    · exact iff_of_true rfl (Nat.succ_pos _)
    · refine .trans ?_ (Framing.receive_first (F := spiFraming)).symm
      have hstore := view_store hr.bound spiFirstCheckByte
      rw [hidle] at hstore
      exact hstore
  · rw [if_neg ht, hidle, Framing.receive_other (F := spiFraming) ht]
    exact ⟨⟨hr.bound, hr.inner, hr.clear, hr.backup⟩, hidle⟩

theorem receive_inner {r : SpiReceiver} (hr : r.Sound) (hi : r.inner = true) (tmp : Byte) :
    (r.receive tmp).Sound ∧ (r.receive tmp).view = spiFraming.receive r.view tmp := by
  have hwin := window_length hr
  have hne := window_ne_nil hr hi
  have hstore := view_store hr.bound tmp
  unfold receive
  rw [if_pos hi]
  dsimp only
  have hidx : (r.store tmp).idx = r.idx + 1 := rfl
  by_cases hfull : r.idx + 1 = spiTransferSize
  · have hlast := Framing.receive_last (F := spiFraming) (p := r.view.published) (a := tmp) hne
      (by rw [hwin, hfull]; rfl)
    rw [if_pos (by omega), hlast]
    exact closeWindow_view hr tmp hfull
  · have hbound := hr.bound
    rw [if_neg (by omega), hstore]
    refine ⟨⟨by omega, ?_, ?_, hr.backup⟩, (Framing.receive_more hne ?_).symm⟩
    · exact iff_of_true hi (Nat.succ_pos _)
    · intro h
      exact Bool.noConfusion (hi.symm.trans h)
    · change _ < spiTransferSize
      omega

theorem receive_sound (r : SpiReceiver) (tmp : Byte) (hr : r.Sound) :
    (r.receive tmp).Sound ∧ (r.receive tmp).view = spiFraming.receive r.view tmp := by
  cases hi : r.inner with
  | false => exact receive_outer hr hi tmp
  | true => exact receive_inner hr hi tmp

theorem run_sound (stream : List Byte) :
    (run receive threadStart stream).Sound ∧
      (run receive threadStart stream).view =
        run spiFraming.receive (Framing.idle []) stream :=
  run_view view receive_sound sound_threadStart stream

theorem windows_in_order (stream : List Byte) :
    let r := run receive threadStart stream
    r.idx < spiTransferSize ∧
      (r.published = [] ∧ r.readBackupBuffer = zero ∨
        spiFraming.IsFrame r.readBackupBuffer.toList ∧
          ∃ before after, stream = before ++ r.readBackupBuffer.toList ++ after) ∧
      ∃ (items : List (List Byte × List Byte)) (rest : List Byte),
        stream = items.flatMap (fun x => x.1 ++ x.2) ++ rest ∧
          items.map Prod.snd = r.published.map Vector.toList ∧
          ∀ x ∈ items, spiFraming.IsFrame x.2 := by
  intro r
  obtain ⟨hsound, hview⟩ := run_sound stream
  have hsplits := Framing.splits_run spiFraming stream
  rw [← hview] at hsplits
  obtain ⟨items, rest, hstream, hpub, hframe, -, -⟩ := hsplits
  have hpub : items.map Prod.snd = r.published.map Vector.toList := hpub
  refine ⟨hsound.bound, ?_, items, rest ++ r.view.window, ?_, hpub, hframe⟩
  · have hbackup : r.readBackupBuffer = r.published.getLast?.getD zero := hsound.backup
    rcases List.eq_nil_or_concat items with rfl | ⟨items, x, rfl⟩
    · have hnone : r.published = [] := List.map_eq_nil_iff.mp hpub.symm
      rw [hnone] at hbackup
      exact .inl ⟨hnone, hbackup⟩
    · rw [List.concat_eq_append] at hstream hpub hframe
      have hlast : (r.published.map Vector.toList).getLast? = some x.2 := by
        rw [← hpub, List.map_append, List.map_singleton, List.getLast?_concat]
      rw [List.getLast?_map] at hlast
      obtain ⟨b, hb, hx⟩ := Option.map_eq_some_iff.mp hlast
      rw [hb, Option.getD_some] at hbackup
      rw [hbackup, hx]
      refine .inr ⟨hframe x List.mem_concat_self, ?_⟩
      refine ⟨items.flatMap (fun x => x.1 ++ x.2) ++ x.1, rest ++ r.view.window, ?_⟩
      rw [hstream, List.flatMap_append, List.flatMap_singleton]
      simp only [List.append_assoc]
      rfl
  · rw [hstream, List.append_assoc]

theorem backup_iff {r : SpiReceiver} (hr : r.Sound) {w : List Byte} (hw : spiFraming.IsFrame w) :
    r.readBackupBuffer.toList = w ↔ r.view.published.getLast? = some w := by
  have hzero : zero.toList ≠ w := by
    rintro rfl
    exact absurd hw.1.head (by decide)
  rw [hr.backup, view, List.getLast?_map]
  cases r.published.getLast? with
  | none => exact iff_of_false hzero (by simp)
  | some b => exact Option.some_inj.symm

structure AtRest (r : SpiReceiver) : Prop where
  inner : r.inner = false
  idx : r.idx = 0
  readBuffer : r.readBuffer = zero

theorem atRest_of_window {r : SpiReceiver} (hr : r.Sound) (h : r.view.window = []) : r.AtRest := by
  have hidx : r.idx = 0 := by rw [← window_length hr, h, List.length_nil]
  have hi : r.inner = false := by
    rw [← Bool.not_eq_true, hr.inner, hidx]
    exact lt_irrefl 0
  exact ⟨hi, hidx, hr.clear hi⟩

theorem frames_published {items : List (List Byte × List Byte)} {tail : List Byte}
    (hgap : ∀ x ∈ items, spiFirstCheckByte ∉ x.1) (hframe : ∀ x ∈ items, spiFraming.IsFrame x.2)
    (htail : spiFirstCheckByte ∉ tail) :
    let r := run receive threadStart (items.flatMap (fun x => x.1 ++ x.2) ++ tail)
    r.published.map Vector.toList = items.map Prod.snd ∧
      r.readBackupBuffer = r.published.getLast?.getD zero ∧ r.AtRest := by
  obtain ⟨hsound, hview⟩ := run_sound (items.flatMap (fun x => x.1 ++ x.2) ++ tail)
  have hrun := Framing.run_frames (F := spiFraming) (p := []) hgap hframe htail
  rw [hrun] at hview
  refine ⟨?_, hsound.backup, atRest_of_window hsound ?_⟩
  · exact congrArg Framing.Receiver.published hview
  · exact congrArg Framing.Receiver.window hview

def frameOf (payload : Vector Byte (spiTransferSize - 2)) : List Byte :=
  spiFirstCheckByte :: payload.toList ++ [spiLastCheckByte]

theorem isFrame_frameOf (payload : Vector Byte (spiTransferSize - 2)) :
    spiFraming.IsFrame (frameOf payload) := by
  refine ⟨⟨?_, rfl⟩, (closed_iff _ _).mpr rfl⟩
  rw [frameOf, List.length_append, List.length_cons, Vector.length_toList]
  rfl

def blank : Vector Byte (spiTransferSize - 2) := Vector.replicate _ 0

theorem marks_published :
    let r := run receive threadStart ([([], frameOf (blank.set 3 0xfe)),
      ([0, 0x7f], frameOf (blank.set 4 0x7f))].flatMap (fun x => x.1 ++ x.2) ++ [1])
    r.published.map Vector.toList = [frameOf (blank.set 3 0xfe), frameOf (blank.set 4 0x7f)] ∧
      r.readBackupBuffer = r.published.getLast?.getD zero ∧ r.AtRest := by
  refine @frames_published _ [1] (by decide) ?_ (by decide)
  simp only [List.forall_mem_cons, List.not_mem_nil, false_implies, implies_true, and_true]
  exact ⟨isFrame_frameOf _, isFrame_frameOf _⟩

theorem never_relocks {w : List Byte} {k m : ℕ} (hw : spiFraming.IsFrame w)
    (hk : k < spiTransferSize) (hmark : w[k]? = some spiFirstCheckByte) (hrot : w.rotate k ≠ w)
    (hm : 2 ≤ m) :
    (run receive threadStart (List.replicate (spiTransferSize - k) spiFirstCheckByte ++
      Framing.copies m w)).readBackupBuffer.toList ≠ w := by
  obtain ⟨n, rfl⟩ := Nat.exists_eq_add_of_le' hm
  obtain ⟨hsound, hview⟩ := run_sound (List.replicate (spiTransferSize - k) spiFirstCheckByte ++
    Framing.copies (n + 2) w)
  rw [ne_eq, backup_iff hsound hw, hview]
  exact Framing.lost hw hk hmark hrot

theorem relocks_iff {w : List Byte} (hw : spiFraming.IsFrame w) :
    ((∀ g m, g.length + 2 * spiTransferSize ≤ m →
      (run receive threadStart (g ++ Framing.copies m w)).readBackupBuffer.toList = w) ↔
      ∀ k < spiTransferSize, w[k]? = some spiFirstCheckByte → w.rotate k = w) ∧
    ((∃ k < spiTransferSize, w[k]? = some spiFirstCheckByte ∧ w.rotate k ≠ w) →
      ∃ g, ∀ m ≥ 2,
        (run receive threadStart (g ++ Framing.copies m w)).readBackupBuffer.toList ≠ w) := by
  constructor
  · refine .trans ?_ (Framing.resync_iff hw)
    refine forall_congr' fun g => forall_congr' fun m => imp_congr_right fun _ => ?_
    obtain ⟨hsound, hview⟩ := run_sound (g ++ Framing.copies m w)
    rw [backup_iff hsound hw, hview]
  · rintro ⟨k, hk, hmark, hrot⟩
    exact ⟨_, fun m hm => never_relocks hw hk hmark hrot hm⟩

theorem relocks_blank :
    (run receive threadStart
      ([0xfe, 2] ++ Framing.copies 66 (frameOf blank))).readBackupBuffer.toList = frameOf blank :=
  (relocks_iff (isFrame_frameOf blank)).1.mpr (by decide) [0xfe, 2] 66 (by decide)

theorem not_always_relocks :
    ¬∀ (g w : List Byte) (m : ℕ), spiFraming.IsFrame w → g.length + 2 * spiTransferSize ≤ m →
      (run receive threadStart (g ++ Framing.copies m w)).readBackupBuffer.toList = w := by
  intro h
  have hw := isFrame_frameOf (blank.set 0 0xfe)
  have hlost := never_relocks (k := 1) (m := 95) hw (by decide) (by decide) (by decide) (by decide)
  exact hlost (h (List.replicate (spiTransferSize - 1) spiFirstCheckByte) _ 95 hw (by decide))

end SpiReceiver

end SlcNode
