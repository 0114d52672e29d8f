import SlcNode.Library.EventRun
import SlcNode.Library.Hex
import SlcNode.Event

namespace SlcNode

/-- What `c_str()` shows of a value: the characters before the first NUL. -/
def cString (value : List Byte) : List Byte := value.takeWhile (· ≠ 0)

def strlen (value : List Byte) : ℕ := (cString value).length

/-- The chain of ranges that the decoding loop has once for `hi` and once for `lo`. -/
def nibble (c : Byte) : Byte :=
  if 0x30 ≤ c ∧ c ≤ 0x39 then c - 0x30
  else if 0x41 ≤ c ∧ c ≤ 0x46 then c - 0x41 + 10
  else if 0x61 ≤ c ∧ c ≤ 0x66 then c - 0x61 + 10
  else 0

def configTransfer (strsize : ℕ) : ℕ :=
  if strsize > configBuffLen * 2 then configBuffLen else strsize / 2

def configBytes (totransfer : ℕ) (strbuff : List Byte) : List Byte :=
  (List.range totransfer).map fun i =>
    (nibble (strbuff.getD (i * 2) 0) <<< 4) + nibble (strbuff.getD (i * 2 + 1) 0)

def configBuff (value : List Byte) : List Byte :=
  let totransfer := configTransfer (strlen value)
  configBytes totransfer ((cString value).take (totransfer * 2))

def State.resConfigPutCb (value : List Byte) (s : State) : State :=
  (s.updateConfig (configBuff value)).kickAppTimer

namespace ConfigPayload

open EventRun State

theorem resConfigPutCb_run (value : List Byte) (s : State) :
    s.resConfigPutCb value = run step s [.config (.config (configBuff value)), .kickAppTimer] := rfl

theorem nibble_eq (c : Byte) : nibble c = (Hex.digit c).getD 0 := by
  unfold nibble Hex.digit
  split_ifs <;> rfl

theorem configBytes_cons (n : ℕ) (c d : Byte) (text : List Byte) :
    configBytes (n + 1) (c :: d :: text) =
      Hex.pair (nibble c) (nibble d) :: configBytes n text := by
  unfold configBytes
  rw [List.range_succ_eq_map, List.map_cons, List.map_map]
  refine congrArg (Hex.pair (nibble c) (nibble d) :: ·) (List.map_congr_left fun i _ => ?_)
  have h : (i + 1) * 2 = i * 2 + 2 := by omega
  simp only [Function.comp_apply, Nat.succ_eq_add_one, h, List.getD_cons_succ]

@[simp] theorem configBytes_length (n : ℕ) (text : List Byte) : (configBytes n text).length = n := by
  rw [configBytes, List.length_map, List.length_range]

theorem decode_fill (n : ℕ) (text : List Byte) (h : text.length = n * 2) :
    Hex.decode (Hex.fill text) = some (configBytes n text) := by
  induction n generalizing text with
  | zero =>
    obtain rfl := List.eq_nil_of_length_eq_zero (h.trans (Nat.zero_mul 2))
    rfl
  | succ n ih =>
    match text with
    | [] | [_] => simp only [List.length_cons, List.length_nil] at h; omega
    | c :: d :: text =>
      have hlen : text.length = n * 2 := by simp only [List.length_cons] at h; omega
      have hrest := ih text hlen
      unfold Hex.fill at hrest ⊢
      rw [List.map_cons, List.map_cons, Hex.decode_cons₂ (Hex.digit_fill c) (Hex.digit_fill d), hrest,
        configBytes_cons, nibble_eq, nibble_eq]
      rfl

theorem configBuff_length (value : List Byte) :
    (configBuff value).length = configTransfer (strlen value) := configBytes_length ..

theorem kickAppTimer_config (s : State) : s.kickAppTimer.config = s.config := rfl

theorem resConfigPutCb_config (value : List Byte) (s : State) :
    (s.resConfigPutCb value).config = (s.updateConfig (configBuff value)).config := by
  rw [resConfigPutCb, kickAppTimer_config]

theorem put_short {value : List Byte} (s : State) (h : strlen value < configBuffLen * 2) :
    (s.resConfigPutCb value).config = s.config := by
  have hn : (configBuff value).length ≠ configBuffLen := by
    rw [configBuff_length, configTransfer]
    split <;> omega
  rw [resConfigPutCb_config, updateConfig, if_neg hn]

theorem put_long {value : List Byte} (s : State) (h : configBuffLen * 2 ≤ strlen value) :
    ∃ buff, Hex.decode (Hex.fill ((cString value).take (configBuffLen * 2))) = some buff ∧
      buff.length = configBuffLen ∧
      (s.resConfigPutCb value).config = (Config.ofBuff buff).limit := by
  have hn : configTransfer (strlen value) = configBuffLen := by
    unfold configTransfer
    split <;> omega
  have hlen : (configBuff value).length = configBuffLen := by rw [configBuff_length, hn]
  refine ⟨configBuff value, ?_, hlen, ?_⟩
  · rw [configBuff, hn]
    exact decode_fill configBuffLen _ (List.length_take_of_le h)
  · rw [resConfigPutCb_config, (updateConfig_of_length hlen s).1]

theorem put_digits {value buff : List Byte} (s : State)
    (h : Hex.decode (cString value) = some buff) (hb : buff.length = configBuffLen) :
    (s.resConfigPutCb value).config = (Config.ofBuff buff).limit := by
  obtain ⟨hlen, hall⟩ := Hex.decode_some h
  have hstr : strlen value = configBuffLen * 2 := by rw [strlen, hlen, hb, Nat.mul_comm]
  obtain ⟨b, hd, -, hc⟩ := put_long s hstr.ge
  rw [List.take_of_length_le hstr.le, Hex.fill_of_digits hall, h] at hd
  rw [hc, Option.some.inj hd]

theorem put_config (value : List Byte) (s : State) :
    (strlen value < configBuffLen * 2 → (s.resConfigPutCb value).config = s.config) ∧
      (configBuffLen * 2 ≤ strlen value →
        ∃ buff, Hex.decode (Hex.fill ((cString value).take (configBuffLen * 2))) = some buff ∧
          buff.length = configBuffLen ∧
          (s.resConfigPutCb value).config = (Config.ofBuff buff).limit) ∧
      ∀ buff, Hex.decode (cString value) = some buff → buff.length = configBuffLen →
        (s.resConfigPutCb value).config = (Config.ofBuff buff).limit :=
  ⟨put_short s, put_long s, fun _ h hb => put_digits s h hb⟩

def garbled : List Byte := List.replicate (configBuffLen * 2) 0x67

theorem put_garbled :
    ∃ buff, Hex.decode (Hex.fill ((cString garbled).take (configBuffLen * 2))) = some buff ∧
      buff.length = configBuffLen ∧
      ((boot fun _ => none).resConfigPutCb garbled).config = (Config.ofBuff buff).limit :=
  (put_config garbled _).2.1 (by decide)

theorem put_not_strict :
    ¬∀ (value : List Byte) (s : State),
      (∀ buff, Hex.decode (cString value) = some buff → buff.length = configBuffLen →
        (s.resConfigPutCb value).config = (Config.ofBuff buff).limit) ∧
      ((∀ buff, Hex.decode (cString value) = some buff → buff.length ≠ configBuffLen) →
        (s.resConfigPutCb value).config = s.config) := by
  intro h
  have hno : Hex.decode (cString garbled) = none := by decide
  have hsame := (h garbled (boot fun _ => none)).2 fun buff hb => by
    rw [hno] at hb
    cases hb
  have hversion := congrArg Config.version hsame
  exact absurd hversion (by decide)

end ConfigPayload

end SlcNode
