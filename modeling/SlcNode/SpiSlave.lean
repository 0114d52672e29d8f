import SlcNode.SpiReceiver

namespace SlcNode

def idxSpislaveDim : ℕ := 1

def idxSpislaveLightpair : ℕ := 2

def spiPairMode : Byte := 1

def spiLightSensorMode : Byte := 0

inductive SpiEvent
  | receive (tmp : Byte)
  | setDimLevel (broadcast : Byte) (buff : Vector Byte lightAddrMax)
  | setMcuMode (value : Byte)
deriving DecidableEq

namespace SpiReceiver

open EventRun

def setSlaveByte (idx : ℕ) (value : Byte) (r : SpiReceiver) : SpiReceiver :=
  { r with writeBuffer := r.writeBuffer.setIfInBounds idx value }

theorem lightAddrMax_pos : 0 < lightAddrMax := Nat.one_pos

def firstLamp : Fin lightAddrMax := ⟨0, lightAddrMax_pos⟩

/-- `SlcCtrl_SetDimLevel`, which sends no broadcast flag and the level of the first lamp only. -/
def setDimLevel (_ : Byte) (buff : Vector Byte lightAddrMax) : SpiReceiver → SpiReceiver :=
  setSlaveByte idxSpislaveDim (buff.get firstLamp)

def setMcuMode (value : Byte) : SpiReceiver → SpiReceiver := setSlaveByte idxSpislaveLightpair value

def slaveStep (r : SpiReceiver) : SpiEvent → SpiReceiver
  | .receive tmp => r.receive tmp
  | .setDimLevel broadcast buff => r.setDimLevel broadcast buff
  | .setMcuMode value => r.setMcuMode value

def received (es : List SpiEvent) : List Byte :=
  es.filterMap fun
    | .receive tmp => some tmp
    | _ => none

structure Commanded where
  dim : Byte
  mode : Byte
deriving DecidableEq

namespace Commanded

def start : Commanded := ⟨100, spiLightSensorMode⟩

def step (c : Commanded) : SpiEvent → Commanded
  | .receive _ => c
  | .setDimLevel _ buff => { c with dim := buff.get firstLamp }
  | .setMcuMode value => { c with mode := value }

/-- The frame of `SPISLAVE_MAX_LEN` bytes, and zeros where the one of the master is longer. -/
def frame (c : Commanded) : List Byte :=
  [spiFirstCheckByte, c.dim, c.mode, 0, 0, spiLastCheckByte] ++ List.replicate 26 0

def answer (c : Commanded) (w : List Byte) (tmp : Byte) : Byte :=
  if w = [] ∧ tmp ≠ spiFirstCheckByte then 0 else c.frame.getD w.length 0

end Commanded

structure Answering (es : List SpiEvent) (r : SpiReceiver) : Prop where
  sound : r.Sound
  view : r.view = run spiFraming.receive (Framing.idle []) (received es)
  writes : r.writeBuffer.toList = (run Commanded.step .start es).frame
  length : r.replies.length = (received es).length

theorem received_append (es fs : List SpiEvent) :
    received (es ++ fs) = received es ++ received fs := List.filterMap_append

theorem closeWindow_replies (tmp : Byte) (r : SpiReceiver) :
    (r.closeWindow tmp).replies = r.replies ∧ (r.closeWindow tmp).writeBuffer = r.writeBuffer := by
  unfold closeWindow
  dsimp only
  split <;> exact ⟨rfl, rfl⟩

theorem receive_replies {r : SpiReceiver} (hr : r.Sound) (tmp : Byte) :
    (r.receive tmp).writeBuffer = r.writeBuffer ∧ (r.receive tmp).replies = r.replies ++
      [if r.view.window = [] ∧ tmp ≠ spiFirstCheckByte then 0
        else r.writeBuffer[r.view.window.length]?.getD 0] := by
  have hlen := window_length hr
  unfold receive
  cases hi : r.inner with
  | true =>
    have hne := window_ne_nil hr hi
    rw [if_pos rfl, if_neg fun h => hne (And.left h), hlen]
    dsimp +zeta only
    split
    · obtain ⟨hreplies, hwrite⟩ := closeWindow_replies tmp (r.store tmp)
      exact ⟨hwrite, hreplies⟩
    · exact ⟨rfl, rfl⟩
  | false =>
    obtain ⟨hz, hidle⟩ := view_outer hr hi
    have hwin : r.view.window = [] := by rw [hidle]; rfl
    rw [if_neg Bool.false_ne_true, hwin]
    by_cases ht : tmp = spiFirstCheckByte
    · rw [if_pos ht, if_neg (fun h => h.2 ht), List.length_nil, ← hz]
      exact ⟨rfl, rfl⟩
    · rw [if_neg ht, if_pos ⟨rfl, ht⟩]
      exact ⟨rfl, rfl⟩

theorem answering_start : Answering [] threadStart := by
  refine ⟨sound_threadStart, rfl, ?_, rfl⟩
  decide

theorem toList_setSlaveByte (idx : ℕ) (value : Byte) (r : SpiReceiver) :
    (r.setSlaveByte idx value).writeBuffer.toList = r.writeBuffer.toList.set idx value := by
  simp [setSlaveByte]

theorem answering_step {es : List SpiEvent} {r : SpiReceiver} (h : Answering es r) (e : SpiEvent) :
    Answering (es ++ [e]) (r.slaveStep e) := by
  obtain ⟨hs, hv, hw, hl⟩ := h
  cases e with
  | receive tmp =>
    obtain ⟨hsound, hview⟩ := receive_sound r tmp hs
    obtain ⟨hwrite, hreplies⟩ := receive_replies hs tmp
    have hrec : received (es ++ [.receive tmp]) = received es ++ [tmp] := received_append es _
    refine ⟨hsound, ?_, ?_, ?_⟩
    · rw [hrec, run_append, ← hv]
      exact hview
    · rw [run_append]
      exact (congrArg Vector.toList hwrite).trans hw
    · rw [hrec, slaveStep, hreplies, List.length_append, List.length_append, hl]
      rfl
  | setDimLevel broadcast buff =>
    have hrec : received (es ++ [.setDimLevel broadcast buff]) = received es :=
      (received_append es _).trans (List.append_nil _)
    refine ⟨⟨hs.bound, hs.inner, hs.clear, hs.backup⟩, by rw [hrec]; exact hv, ?_, by rw [hrec]; exact hl⟩
    rw [run_append, slaveStep, setDimLevel, toList_setSlaveByte, hw]
    rfl
  | setMcuMode value =>
    have hrec : received (es ++ [.setMcuMode value]) = received es :=
      (received_append es _).trans (List.append_nil _)
    refine ⟨⟨hs.bound, hs.inner, hs.clear, hs.backup⟩, by rw [hrec]; exact hv, ?_, by rw [hrec]; exact hl⟩
    rw [run_append, slaveStep, setMcuMode, toList_setSlaveByte, hw]
    rfl

theorem answering_run (es : List SpiEvent) : Answering es (run slaveStep threadStart es) := by
  induction es using List.reverseRecOn with
  | nil => exact answering_start
  | append_singleton es e ih =>
    rw [run_append]
    exact answering_step ih e

theorem replies_step {es : List SpiEvent} {r : SpiReceiver} (h : Answering es r) (e : SpiEvent) :
    r.replies <+: (r.slaveStep e).replies := by
  cases e with
  | receive tmp =>
    rw [slaveStep, (receive_replies h.sound tmp).2]
    exact List.prefix_append _ _
  | setDimLevel | setMcuMode => exact List.prefix_refl _

theorem replies_prefix {es : List SpiEvent} {r : SpiReceiver} (h : Answering es r)
    (fs : List SpiEvent) : r.replies <+: (run slaveStep r fs).replies := by
  induction fs generalizing es r with
  | nil => exact List.prefix_refl _
  | cons e fs ih => exact (replies_step h e).trans (ih (answering_step h e))

theorem replies_commanded (es fs : List SpiEvent) (tmp : Byte) :
    let r := run slaveStep threadStart (es ++ .receive tmp :: fs)
    let w := (run spiFraming.receive (Framing.idle []) (received es)).window
    r.replies[(received es).length]? = some ((run Commanded.step .start es).answer w tmp) ∧
      r.published.map Vector.toList =
        (run spiFraming.receive (Framing.idle [])
          (received es ++ tmp :: received fs)).published := by
  intro r w
  have hes := answering_run es
  have hr := answering_run (es ++ .receive tmp :: fs)
  refine ⟨?_, ?_⟩
  · have hpre := replies_prefix (answering_step hes (.receive tmp)) fs
    have hrun : run slaveStep (slaveStep (run slaveStep threadStart es) (.receive tmp)) fs = r := by
      rw [← run_cons, ← run_append]
    have hreply : (slaveStep (run slaveStep threadStart es) (.receive tmp)).replies =
        (run slaveStep threadStart es).replies ++
          [(run Commanded.step .start es).answer w tmp] := by
      rw [slaveStep, (receive_replies hes.sound tmp).2, Commanded.answer, ← hes.writes, hes.view,
        List.getD_eq_getElem?_getD, Vector.getElem?_toList]
    rw [hrun, hreply] at hpre
    rw [← hes.length]
    obtain ⟨rest, hrest⟩ := hpre
    rw [← hrest, List.append_assoc, List.getElem?_append_right (le_refl _), Nat.sub_self]
    rfl
  · have hview := congrArg Framing.Receiver.published hr.view
    rw [received_append] at hview
    exact hview

theorem frame_exchanged {es : List SpiEvent} {w : List Byte} (hw : spiFraming.IsBlock w)
    (hidle : (run spiFraming.receive (Framing.idle []) (received es)).window = []) :
    (run slaveStep threadStart (es ++ w.map .receive)).replies.drop (received es).length =
      (run Commanded.step .start es).frame := by
  have hreceived (v : List Byte) : received (es ++ v.map .receive) = received es ++ v := by
    rw [received_append]
    simp [received, List.filterMap_map]
  have hkept (v : List Byte) :
      run Commanded.step .start (es ++ v.map .receive) = run Commanded.step .start es := by
    rw [run_append]
    induction v with
    | nil => rfl
    | cons tmp v ih => exact ih
  have hr := answering_run (es ++ w.map .receive)
  have hlen : w.length = 32 := hw.length
  refine List.ext_getElem? fun k => ?_
  rw [List.getElem?_drop]
  by_cases hk : k < 32
  · obtain ⟨tmp, htmp⟩ : ∃ tmp, w[k]? = some tmp := ⟨_, List.getElem?_eq_getElem (hlen ▸ hk)⟩
    have hsplit : w = w.take k ++ tmp :: w.drop (k + 1) := by
      obtain ⟨hkw, rfl⟩ := List.getElem?_eq_some_iff.mp htmp
      rw [← List.drop_eq_getElem_cons, List.take_append_drop]
    have hreply := (replies_commanded (es ++ (w.take k).map .receive)
      ((w.drop (k + 1)).map .receive) tmp).1
    have hevents : es ++ (w.take k).map .receive ++ .receive tmp :: (w.drop (k + 1)).map .receive =
        es ++ w.map .receive := by
      conv_rhs => rw [hsplit]
      rw [List.append_assoc, List.map_append, List.map_cons]
    have hwindow : (run spiFraming.receive (Framing.idle []) (received es ++ w.take k)).window =
        w.take k := by
      have hstart (r : Framing.Receiver Byte) (h : r.window = []) : r = Framing.idle r.published := by
        obtain ⟨u, p⟩ := r
        cases h
        rfl
      rw [run_append, hstart _ hidle]
      cases k with
      | zero => rfl
      | succ k =>
        have hhead : (w.take (k + 1)).head? = some spiFraming.first := by
          rw [List.head?_take, if_neg (Nat.succ_ne_zero k), hw.head]
        rw [Framing.run_open hhead]
        rw [List.length_take_of_le (by omega)]
        exact hk
    rw [hevents, hreceived, hwindow, hkept, List.length_append, List.length_take_of_le (by omega)]
      at hreply
    rw [hreply, Commanded.answer, if_neg, List.length_take_of_le (by omega),
      List.getD_eq_getElem?_getD]
    · rw [List.getElem?_eq_getElem (by simpa [Commanded.frame] using hk), Option.getD_some]
    · rintro ⟨hnil, hne⟩
      have hk : k = 0 := by
        rcases List.take_eq_nil_iff.mp hnil with hk | hw
        · exact hk
        · rw [hw] at hlen
          cases hlen
      rw [hk, ← List.head?_eq_getElem?, hw.head] at htmp
      exact hne (Option.some.inj htmp).symm
  · have hout : (run slaveStep threadStart (es ++ w.map .receive)).replies.length ≤
        (received es).length + k := by
      rw [hr.length, hreceived, List.length_append]
      omega
    rw [List.getElem?_eq_none hout, List.getElem?_eq_none]
    simp [Commanded.frame]
    omega

def paired : List SpiEvent :=
  [.setDimLevel 1 (Vector.replicate _ 40), .receive 3, .setMcuMode spiPairMode]

theorem frame_exchanged_paired :
    (run slaveStep threadStart (paired ++ (frameOf blank).map .receive)).replies.drop
        (received paired).length = (run Commanded.step .start paired).frame ∧
      run Commanded.step .start paired = ⟨40, 1⟩ :=
  ⟨frame_exchanged (isFrame_frameOf blank).1 (by decide), by decide⟩

end SpiReceiver

end SlcNode
