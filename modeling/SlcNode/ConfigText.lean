import SlcNode.ConfigPayload
import Mathlib.Data.List.TakeWhile

namespace SlcNode

def lwm2mUploadConfig (value : List Byte) : List Byte :=
  let tosend :=
    if value.length * 2 > configBuffLen * 2 then configBuffLen * 2 / 2 else value.length
  (Hex.encode (value.take tosend)).take (tosend * 2)

namespace ConfigText

theorem cString_of_digits {text : List Byte} (h : ∀ c ∈ text, Hex.IsDigit c) : cString text = text := by
  apply List.takeWhile_eq_self_iff.mpr
  intro c hc
  have hzero : ¬Hex.IsDigit 0 := by decide
  apply decide_eq_true
  rintro rfl
  exact hzero (h 0 hc)

theorem lwm2mUploadConfig_of_length {value : List Byte} (h : value.length = configBuffLen) :
    lwm2mUploadConfig value = Hex.encode value := by
  have hlen := Hex.encode_length value
  rw [lwm2mUploadConfig, if_neg (by omega), List.take_length, List.take_of_length_le (by omega)]

theorem decode_text {text : List Byte} (hlen : text.length = configBuffLen * 2)
    (h : ∀ c ∈ text, Hex.IsDigit c) : Hex.decode text = some (configBuff text) := by
  have hn : configTransfer (strlen text) = configBuffLen := by
    rw [strlen, cString_of_digits h, hlen]
    rfl
  have hdecode := ConfigPayload.decode_fill configBuffLen text hlen
  rw [Hex.fill_of_digits h] at hdecode
  rw [hdecode, configBuff, hn, cString_of_digits h, List.take_of_length_le hlen.le]

theorem decode_upload {value : List Byte} (h : value.length = configBuffLen) :
    configBuff (lwm2mUploadConfig value) = value := by
  have hdecode := Hex.decode_encode value
  obtain ⟨hlen, hall⟩ := Hex.decode_some hdecode
  rw [lwm2mUploadConfig_of_length h]
  rw [decode_text (by omega) hall] at hdecode
  exact Option.some.inj hdecode

theorem upload_decode {text : List Byte} (hlen : text.length = configBuffLen * 2)
    (h : ∀ c ∈ text, Hex.IsDigit c) :
    lwm2mUploadConfig (configBuff text) = text.map Hex.toLower := by
  have hdecode := decode_text hlen h
  have hbuff := (Hex.decode_some hdecode).1
  rw [lwm2mUploadConfig_of_length (by omega)]
  exact Hex.encode_decode hdecode

theorem text_roundTrip :
    (∀ value : List Byte, value.length = configBuffLen →
        configBuff (lwm2mUploadConfig value) = value) ∧
      ∀ text : List Byte, text.length = configBuffLen * 2 → (∀ c ∈ text, Hex.IsDigit c) →
        lwm2mUploadConfig (configBuff text) = text.map Hex.toLower :=
  ⟨fun _ h => decode_upload h, fun _ hlen h => upload_decode hlen h⟩

theorem text_roundTrip_ab :
    configBuff (lwm2mUploadConfig (List.replicate 36 0xAB)) = List.replicate 36 0xAB ∧
      lwm2mUploadConfig (configBuff (List.replicate 72 0x41)) = List.replicate 72 0x61 := by
  have hdigit : Hex.IsDigit 0x41 := by decide
  have hlower : Hex.toLower 0x41 = 0x61 := by decide
  refine ⟨text_roundTrip.1 _ rfl, (text_roundTrip.2 _ rfl fun c hc => ?_).trans ?_⟩
  · rwa [List.eq_of_mem_replicate hc]
  · rw [List.map_replicate, hlower]

end ConfigText

end SlcNode
