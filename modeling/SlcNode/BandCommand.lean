import SlcNode.AtOwnership
import SlcNode.Library.Print

namespace SlcNode.CellularAt

open Print

def cmdstrLen : ℕ := 50

/-- `sizeof(cmdstr)-offset`, a `size_t`. -/
def cmdstrRoom (offset : ℕ) : ℕ := (BitVec.ofNat 32 cmdstrLen - BitVec.ofNat 32 offset).toNat

def nbandHead : List Char := "AT+NBAND=".toList

def nbandEntry (b : Byte) : List Char := Nat.toDigits 10 b.toNat ++ [',']

def nbandBuffer (band : List Byte) : Buffer :=
  let printed := ((Buffer.zeroed cmdstrLen).snprintf 0 cmdstrLen nbandHead).printAll cmdstrRoom
    nbandHead.length (band.map nbandEntry)
  printed.1.put (printed.2 - 1) nul

def sendCommand (cmd : String) (h : ℕ) : At ℤ := do
  perform h [.flush, .lock, .cmdStart cmd, .cmdStop, .respStart none, .respStop]
  unlockReturnError h

structure SetBandResult where
  ret : ℤ
  cmdstr : Option Buffer

def sendBands (cmdstr : Buffer) (h : ℕ) : At SetBandResult := do
  let _ ← sendCommand "AT+CFUN=0" h
  let _ ← sendCommand (String.ofList cmdstr.text) h
  let ret ← sendCommand "AT+CFUN=1" h
  let _ ← releaseAtHandler h
  return { ret := ret, cmdstr := some cmdstr }

def setBandBC95G (band : Option (List Byte)) : At SetBandResult := do
  match band with
  | none | some [] => return { ret := -1, cmdstr := none }
  | some band =>
    match ← getAtHandler with
    | none => return { ret := -1, cmdstr := none }
    | some h => sendBands (nbandBuffer band) h

end CellularAt

namespace BandCommand

open Handle CellularAt AtOwnership Print

def commandOf : Event AtOp → Option String
  | .use _ (.cmdStart cmd) => some cmd
  | _ => none

def sent (trace : List (Event AtOp)) : List String := trace.filterMap commandOf

def nbandCommand (band : List Byte) : String :=
  "AT+NBAND=" ++ ",".intercalate (band.map fun b => toString b.toNat)

def Right (band : List Byte) (c : Cellular) : Prop :=
  let r := setBandBC95G (some band) (start c)
  (r.1.ret = -1 ∧ sent r.2.trace = []) ∨
    sent r.2.trace = ["AT+CFUN=0", nbandCommand band, "AT+CFUN=1"] ∧
      ∀ cmdstr, r.1.cmdstr = some cmdstr → ∀ p ∈ cmdstr.written, p < cmdstrLen

def nbandLength (band : List Byte) : ℕ :=
  nbandHead.length + (band.map fun b => (Nat.toDigits 10 b.toNat).length + 1).sum

section Text

variable {band : List Byte}

theorem cmdstrRoom_eq {offset : ℕ} (h : offset ≤ cmdstrLen) :
    cmdstrRoom offset = cmdstrLen - offset :=
  Buffer.room_eq (by decide) h

theorem nul_notMem_nbandEntry (b : Byte) : nul ∉ nbandEntry b := by
  intro h
  rcases List.mem_append.mp h with h | h
  · have hdigit := Nat.isDigit_of_mem_toDigits (by omega) (by omega) h
    exact absurd hdigit (by decide)
  · exact absurd (List.mem_singleton.mp h) (by decide)

def nbandText (band : List Byte) : List Char := nbandHead ++ (band.map nbandEntry).flatten

theorem nbandText_length (band : List Byte) : (nbandText band).length = nbandLength band := by
  simp [nbandText, nbandLength, nbandEntry, List.length_flatten, Function.comp_def]

theorem nbandText_cons (band : List Byte) :
    nbandText band = (nbandHead :: band.map nbandEntry).flatten := rfl

theorem nbandBuffer_eq (band : List Byte) :
    nbandBuffer band = ((Buffer.zeroed cmdstrLen).printAll cmdstrRoom 0
      (nbandHead :: band.map nbandEntry)).1.put ((nbandText band).length - 1) nul := by
  have hoffset := Buffer.printAll_offset cmdstrRoom (Buffer.zeroed cmdstrLen) 0
    (nbandHead :: band.map nbandEntry)
  rw [Nat.zero_add, ← nbandText_cons] at hoffset
  rw [← hoffset]
  rfl

theorem nbandBuffer_text (band : List Byte) :
    (nbandBuffer band).text = (nbandText band).dropLast.take (cmdstrLen - 1) := by
  rw [nbandBuffer_eq]
  apply Buffer.put_text
  · rw [Buffer.printAll_length]
    rfl
  · refine Buffer.printAll_text (t := []) (fun _ => cmdstrRoom_eq) rfl (by decide) fun s hs => ?_
    rcases List.mem_cons.mp hs with rfl | hs
    · decide
    · obtain ⟨b, -, rfl⟩ := List.mem_map.mp hs
      exact nul_notMem_nbandEntry b
  · rw [nbandText_length, nbandLength]
    exact Nat.add_pos_left (by decide) _

theorem nbandBuffer_inside (h : nbandLength band ≤ cmdstrLen) :
    ∀ p ∈ (nbandBuffer band).written, p < cmdstrLen := by
  rw [← nbandText_length] at h
  intro p hp
  rw [nbandBuffer_eq, Buffer.put, List.mem_append, List.mem_singleton] at hp
  rcases hp with hp | rfl
  · rw [nbandText_cons, ← List.nil_append (List.flatten _)] at h
    exact Buffer.printAll_inside (t := []) (fun _ => cmdstrRoom_eq) h
      Buffer.zeroed_inside p hp
  · unfold cmdstrLen at h ⊢
    omega

theorem dropLast_entries (band : List Byte) :
    (band.map nbandEntry).flatten.dropLast =
      [','].intercalate (band.map fun b => Nat.toDigits 10 b.toNat) := by
  induction band with
  | nil => rfl
  | cons b band ih =>
    cases band with
    | nil => simp [nbandEntry]
    | cons b' band =>
      have hne : ((b' :: band).map nbandEntry).flatten ≠ [] := by simp [nbandEntry]
      rw [List.map_cons, List.flatten_cons, List.dropLast_append_of_ne_nil hne, ih, nbandEntry,
        List.map_cons, List.map_cons, List.map_cons, List.intercalate_cons_cons]

theorem entries_ne_nil (hband : band ≠ []) : (band.map nbandEntry).flatten ≠ [] := by
  obtain ⟨b, band, rfl⟩ := List.exists_cons_of_ne_nil hband
  simp [nbandEntry]

theorem nbandCommand_toList (hband : band ≠ []) :
    (nbandCommand band).toList = (nbandText band).dropLast := by
  have hdigits : band.map (fun b => (toString b.toNat).toList) =
      band.map fun b => Nat.toDigits 10 b.toNat :=
    List.map_congr_left fun b _ => Nat.toList_repr
  rw [nbandText, List.dropLast_append_of_ne_nil (entries_ne_nil hband), dropLast_entries,
    nbandCommand, String.toList_append, String.toList_intercalate, List.map_map, ← hdigits]
  rfl

theorem text_eq_iff (hband : band ≠ []) :
    String.ofList (nbandBuffer band).text = nbandCommand band ↔ nbandLength band ≤ cmdstrLen := by
  have hpos : 0 < nbandLength band := Nat.add_pos_left (by decide) _
  have hlist : String.ofList (nbandBuffer band).text = nbandCommand band ↔
      (nbandBuffer band).text = (nbandCommand band).toList := by
    rw [← String.toList_inj, String.toList_ofList]
  rw [hlist, nbandBuffer_text, nbandCommand_toList hband, List.take_eq_self_iff,
    List.length_dropLast, nbandText_length]
  unfold cmdstrLen
  omega

end Text

theorem perform_trace (h : ℕ) (ops : List AtOp) (w : World Cellular AtOp) :
    (perform h ops w).2.trace = w.trace ++ ops.map (.use h) := by
  induction ops generalizing w with
  | nil => exact (List.append_nil _).symm
  | cons op ops ih =>
    rw [perform, bind_apply, ih, List.map_cons, use, List.append_assoc]
    rfl

theorem sendCommand_sent (cmd : String) (h : ℕ) (w : World Cellular AtOp) :
    sent (sendCommand cmd h w).2.trace = sent w.trace ++ [cmd] := by
  rw [sendCommand, bind_apply, unlockReturnError, use, perform_trace, sent, List.append_assoc,
    List.filterMap_append]
  rfl

theorem sendBands_sent (cmdstr : Buffer) (h : ℕ) (w : World Cellular AtOp) :
    (sendBands cmdstr h w).1.cmdstr = some cmdstr ∧
      sent (sendBands cmdstr h w).2.trace =
        sent w.trace ++ ["AT+CFUN=0", String.ofList cmdstr.text, "AT+CFUN=1"] := by
  simp only [sendBands, bind_apply, releaseAtHandler, release]
  refine ⟨rfl, ?_⟩
  change sent (_ ++ [Event.release h]) = _
  rw [sent, List.filterMap_append]
  change sent _ ++ [] = _
  rw [sendCommand_sent, sendCommand_sent, sendCommand_sent]
  simp only [List.append_assoc, List.append_nil, List.cons_append, List.nil_append]

theorem setBandBC95G_none {band : List Byte} {c : Cellular} (h : band = [] ∨ ¬ Given c) :
    (setBandBC95G (some band) (start c)).1.ret = -1 ∧
      (setBandBC95G (some band) (start c)).2.trace = [] := by
  cases band with
  | nil => exact ⟨rfl, rfl⟩
  | cons b band =>
    have hg : ¬ Given c := h.resolve_left (List.cons_ne_nil b band)
    obtain ⟨env, heq⟩ := getAtHandler_none (w := start c) hg
    rw [setBandBC95G, bind_apply, heq]
    · exact ⟨rfl, rfl⟩
    · exact List.cons_ne_nil b band

theorem setBandBC95G_given {band : List Byte} {c : Cellular} (hband : band ≠ []) (hg : Given c) :
    ∃ h w, setBandBC95G (some band) (start c) = sendBands (nbandBuffer band) h w ∧
      sent w.trace = [] := by
  obtain ⟨env, heq, -⟩ := getAtHandler_some (w := start c) hg
  refine ⟨0, ⟨env, 1, [.acquire 0]⟩, ?_, rfl⟩
  rw [setBandBC95G, bind_apply, heq]
  · rfl
  · exact fun h => hband h

theorem right_of_given {band : List Byte} {c : Cellular} (hband : band ≠ []) (hg : Given c) :
    Right band c ↔ nbandLength band ≤ cmdstrLen := by
  obtain ⟨h, w, heq, hw⟩ := setBandBC95G_given hband hg
  obtain ⟨hcmdstr, hsent⟩ := sendBands_sent (nbandBuffer band) h w
  rw [← heq] at hcmdstr hsent
  rw [hw, List.nil_append] at hsent
  rw [← text_eq_iff hband]
  constructor
  · rintro (⟨-, hnil⟩ | ⟨hcommands, -⟩)
    · rw [hsent] at hnil
      exact absurd hnil (List.cons_ne_nil _ _)
    · rw [hsent] at hcommands
      exact (List.cons.inj (List.cons.inj hcommands).2).1
  · intro htext
    refine .inr ⟨by rw [hsent, htext], fun cmdstr hc => ?_⟩
    rw [hcmdstr] at hc
    obtain rfl := Option.some.inj hc
    exact nbandBuffer_inside ((text_eq_iff hband).mp htext)

/-- The list with a comma behind each number may have 50 characters: the terminator takes the
last comma. -/
theorem right_iff (band : List Byte) (c : Cellular) :
    Right band c ↔ ¬ Given c ∨ nbandLength band ≤ cmdstrLen := by
  by_cases hnone : band = [] ∨ ¬ Given c
  · obtain ⟨hret, htrace⟩ := setBandBC95G_none hnone
    apply iff_of_true
    · left
      rw [htrace]
      exact ⟨hret, rfl⟩
    · rcases hnone with rfl | hg
      · exact .inr (by decide)
      · exact .inl hg
  · obtain ⟨hband, hg⟩ := not_or.mp hnone
    rw [right_of_given hband (not_not.mp hg)]
    exact ⟨.inr, fun h => h.resolve_left hg⟩

theorem fourteen_bands :
    ¬ Right (List.replicate 14 10) ⟨modem, .bc95g, false⟩ ∧
      50 ∈ (nbandBuffer (List.replicate 14 10)).written :=
  ⟨(right_of_given (by decide) (by decide)).not.mpr (by decide), by decide +kernel⟩

end BandCommand

end SlcNode
