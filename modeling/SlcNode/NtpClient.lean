import SlcNode.Library.Fallback
import SlcNode.Library.LittleEndian
import SlcNode.Library.Overwrite
import Mathlib.Tactic.IntervalCases

namespace SlcNode

def ntpserverArray : List String :=
  ["pool.ntp.org", "asia.pool.ntp.org", "watch.stdtime.gov.tw", "tick.stdtime.gov.tw",
    "time1.google.com", "time2.google.com", "time.windows.com", "ntps.sparktech.io", "13.76.83.89"]

inductive NtpOutcome
  | dnsError (code : ℤ) (neg : code < 0)
  | recvError (code : ℤ) (neg : code < 0)
  | datagram (bytes : List Byte)

namespace NtpClient

def ntpLen : ℕ := 48

def time1970 : ℤ := 2208988800

def ntohl (x : BitVec 32) : BitVec 32 :=
  (x &&& 0xff#32) <<< 24 ||| (x &&& 0xff00#32) <<< 8 ||| (x &&& 0xff0000#32) >>> 8 |||
    (x &&& 0xff000000#32) >>> 24

def recvValues (bytes : List Byte) : List Byte :=
  overwrite 0 (bytes.take ntpLen) (List.replicate ntpLen 0)

/-- One round of the loop of `NTPClient::get_timestamp`: whether it returns, and what it returns or
leaves in `ret`. -/
def attempt : NtpOutcome → Bool × ℤ
  | .dnsError code _ => (false, code)
  | .recvError code _ => (false, code)
  | .datagram bytes =>
    let n := min bytes.length ntpLen
    if 10 < n then
      (true, (ntohl (BitVec.ofNat 32 (LittleEndian.field (recvValues bytes) 40 4))).toNat - time1970)
    else (false, -1)

def getTimestamp (ret : ℤ) (outcome : String → NtpOutcome) : ℤ × List String :=
  Fallback.ask (fun server => attempt (outcome server)) ntpserverArray ret

def transmitSeconds (bytes : List Byte) : ℕ :=
  LittleEndian.value ((bytes.drop 40).take 4).reverse

def exact : NtpOutcome → Bool × ℤ
  | .dnsError code _ => (false, code)
  | .recvError code _ => (false, code)
  | .datagram bytes =>
    if 44 ≤ bytes.length then (true, transmitSeconds bytes - time1970) else (false, -1)

theorem ntohl_append (a b c d : Byte) : ntohl (d ++ c ++ b ++ a) = a ++ b ++ c ++ d := by
  apply BitVec.eq_of_getLsbD_eq
  intro i hi
  simp only [ntohl, BitVec.getLsbD_or, BitVec.getLsbD_and, BitVec.getLsbD_shiftLeft,
    BitVec.getLsbD_ushiftRight, BitVec.getLsbD_append]
  interval_cases i <;> simp

theorem toNat_append_byte {n : ℕ} (x : BitVec n) (b : Byte) :
    (x ++ b).toNat = b.toNat + 256 * x.toNat := by
  rw [BitVec.toNat_append, ← Nat.shiftLeft_add_eq_or_of_lt b.isLt, Nat.shiftLeft_eq]
  omega

theorem value_quad (a b c d : Byte) :
    LittleEndian.value [a, b, c, d] = (d ++ c ++ b ++ a).toNat := by
  rw [toNat_append_byte, toNat_append_byte, toNat_append_byte]
  rfl

theorem ntohl_value {bs : List Byte} (h : bs.length = 4) :
    (ntohl (BitVec.ofNat 32 (LittleEndian.value bs))).toNat = LittleEndian.value bs.reverse := by
  obtain ⟨a, b, c, d, rfl⟩ := List.length_eq_four.mp h
  have hword : BitVec.ofNat 32 (LittleEndian.value [a, b, c, d]) = d ++ c ++ b ++ a := by
    rw [value_quad]
    exact (BitVec.ofNat_toNat ..).trans (BitVec.setWidth_eq _)
  rw [hword, ntohl_append]
  exact (value_quad d c b a).symm

theorem recvValues_eq (bytes : List Byte) :
    recvValues bytes = bytes.take ntpLen ++ List.replicate (ntpLen - bytes.length) 0 := by
  rw [recvValues, Overwrite.overwrite_zero, List.drop_replicate, List.length_take]
  congr 2
  omega

theorem recvValues_length (bytes : List Byte) : (recvValues bytes).length = ntpLen := by
  rw [recvValues_eq, List.length_append, List.length_take, List.length_replicate]
  omega

theorem attempt_datagram {bytes : List Byte} (h : 10 < bytes.length) :
    attempt (.datagram bytes) = (true, transmitSeconds (recvValues bytes) - time1970) := by
  have hn : 10 < min bytes.length ntpLen := by
    rw [ntpLen]
    omega
  have hlen : (((recvValues bytes).drop 40).take 4).length = 4 := by
    rw [List.length_take, List.length_drop, recvValues_length]
    rfl
  rw [attempt, if_pos hn, LittleEndian.field, ntohl_value hlen, transmitSeconds]

theorem attempt_short {bytes : List Byte} (h : bytes.length ≤ 10) :
    attempt (.datagram bytes) = (false, -1) := by
  have hn : ¬ 10 < min bytes.length ntpLen := by omega
  rw [attempt]
  exact if_neg hn

theorem transmitSeconds_of_complete {bytes : List Byte} (h : 44 ≤ bytes.length) :
    transmitSeconds (recvValues bytes) = transmitSeconds bytes := by
  have hdrop : 40 ≤ (bytes.take ntpLen).length := by
    rw [List.length_take, ntpLen]
    omega
  have htake : 4 ≤ ((bytes.take ntpLen).drop 40).length := by
    rw [List.length_drop, List.length_take, ntpLen]
    omega
  rw [transmitSeconds, recvValues_eq, List.drop_append_of_le_length hdrop,
    List.take_append_of_le_length htake, List.drop_take, List.take_take, transmitSeconds]
  rfl

theorem transmitSeconds_of_partial {bytes : List Byte} (h : bytes.length < 44) :
    transmitSeconds (recvValues bytes) % 256 = 0 := by
  obtain ⟨front, hfront, hlen⟩ : ∃ front : List Byte,
      recvValues bytes = front ++ [0] ++ List.replicate 4 0 ∧ front.length = 43 := by
    refine ⟨bytes ++ List.replicate (43 - bytes.length) 0, ?_, ?_⟩
    · have hsplit : ntpLen - bytes.length = 43 - bytes.length + (1 + 4) := by
        rw [ntpLen]
        omega
      rw [recvValues_eq, List.take_of_length_le (by rw [ntpLen]; omega), hsplit,
        List.replicate_add, List.replicate_add, List.append_assoc, List.append_assoc]
      rfl
    · rw [List.length_append, List.length_replicate]
      omega
  have htake : ((recvValues bytes).drop 40).take 4 = front.drop 40 ++ [0] := by
    rw [hfront, List.append_assoc, List.drop_append_of_le_length (by omega), ← List.append_assoc]
    exact List.take_left' (by rw [List.length_append, List.length_drop, hlen]; rfl)
  rw [transmitSeconds, htake, List.reverse_append, List.reverse_singleton, List.singleton_append,
    LittleEndian.value]
  change (0 + 256 * _) % 256 = 0
  omega

theorem attempt_of_exact {o : NtpOutcome} (h : (exact o).1 = true) : attempt o = exact o := by
  cases o with
  | dnsError code neg => rfl
  | recvError code neg => rfl
  | datagram bytes =>
    by_cases hlen : 44 ≤ bytes.length
    · rw [attempt_datagram (by omega), transmitSeconds_of_complete hlen, exact, if_pos hlen]
    · rw [exact, if_neg hlen] at h
      exact absurd h (by simp)

theorem attempt_of_refused {o : NtpOutcome} (h : (attempt o).1 = false) : attempt o = exact o := by
  cases o with
  | dnsError code neg => rfl
  | recvError code neg => rfl
  | datagram bytes =>
    by_cases hlen : 10 < bytes.length
    · rw [attempt_datagram hlen] at h
      exact absurd h (by simp)
    · rw [attempt_short (by omega), exact, if_neg (by omega)]

theorem attempt_differs {o : NtpOutcome} (h : (attempt o).1 = true) (hexact : (exact o).1 = false) :
    (attempt o).2 ≠ (exact o).2 := by
  cases o with
  | dnsError code neg => exact absurd h (by simp [attempt])
  | recvError code neg => exact absurd h (by simp [attempt])
  | datagram bytes =>
    by_cases hshort : bytes.length ≤ 10
    · rw [attempt_short hshort] at h
      exact absurd h (by simp)
    · by_cases hlen : 44 ≤ bytes.length
      · rw [exact, if_pos hlen] at hexact
        exact absurd hexact (by simp)
      · have hmod := transmitSeconds_of_partial (show bytes.length < 44 by omega)
        rw [attempt_datagram (by omega), exact, if_neg hlen, time1970]
        dsimp only
        omega

def FallsBack (ret : ℤ) (outcome : String → NtpOutcome) : Prop :=
  (getTimestamp ret outcome).2 <+: ntpserverArray ∧
    Fallback.Answer (fun server => exact (outcome server)) ntpserverArray ret
      (getTimestamp ret outcome)

def accepted (outcome : String → NtpOutcome) (server : String) : Bool :=
  match outcome server with
  | .datagram bytes => 10 < bytes.length
  | _ => false

theorem accepted_eq (outcome : String → NtpOutcome) (server : String) :
    (attempt (outcome server)).1 = accepted outcome server := by
  rw [accepted]
  cases outcome server with
  | dnsError code neg => rfl
  | recvError code neg => rfl
  | datagram bytes =>
    by_cases hlen : 10 < bytes.length
    · rw [attempt_datagram hlen]
      exact (decide_eq_true hlen).symm
    · rw [attempt_short (by omega)]
      exact (decide_eq_false hlen).symm

theorem exact_accepts_iff (o : NtpOutcome) :
    (exact o).1 = true ↔ ∃ bytes, o = .datagram bytes ∧ 44 ≤ bytes.length := by
  cases o with
  | dnsError code neg => simp [exact]
  | recvError code neg => simp [exact]
  | datagram bytes =>
    by_cases hlen : 44 ≤ bytes.length
    · simp [exact, hlen]
    · simp [exact, hlen]

theorem fallsBack_iff (ret : ℤ) (outcome : String → NtpOutcome) :
    FallsBack ret outcome ↔
      ∀ server, ntpserverArray.find? (accepted outcome) = some server →
        ∃ bytes, outcome server = .datagram bytes ∧ 44 ≤ bytes.length := by
  have hprefix : (getTimestamp ret outcome).2 <+: ntpserverArray := Fallback.tried_prefix ..
  have hfind : accepted outcome = fun server => (attempt (outcome server)).1 :=
    funext fun server => (accepted_eq outcome server).symm
  rw [FallsBack, and_iff_right hprefix, Fallback.answer_iff, getTimestamp, hfind]
  simp only [← exact_accepts_iff]
  exact Fallback.ask_eq_iff (fun _ => attempt_of_exact) (fun _ => attempt_of_refused)
    (fun _ => attempt_differs) ntpserverArray ret

theorem partial_packet :
    ¬ FallsBack 0 (fun _ => .datagram (List.replicate 12 0)) ∧
      getTimestamp 0 (fun _ => .datagram (List.replicate 12 0)) =
        (-2208988800, ["pool.ntp.org"]) := by
  have hresult : getTimestamp 0 (fun _ => .datagram (List.replicate 12 0)) =
      (-2208988800, ["pool.ntp.org"]) := by decide +kernel
  refine ⟨?_, hresult⟩
  rintro ⟨-, ⟨pre, server, post, -, -, haccept, -⟩ | ⟨-, hall⟩⟩
  · exact Bool.false_ne_true haccept
  · rw [hresult] at hall
    exact absurd (Prod.mk.inj hall).2 (by decide)

theorem getTimestamp_first {bytes : List Byte} {outcome : String → NtpOutcome} (ret : ℤ)
    (hfirst : outcome "pool.ntp.org" = .datagram bytes) (hlen : 44 ≤ bytes.length) :
    (getTimestamp ret outcome).1 = transmitSeconds bytes - time1970 := by
  have haccept : (attempt (outcome "pool.ntp.org")).1 = true := by
    rw [hfirst, attempt_datagram (by omega)]
  have hask := @Fallback.ask_accepted _ _ (fun server => attempt (outcome server)) _ haccept
    ntpserverArray.tail ret
  have hvalue : (getTimestamp ret outcome).1 = (attempt (outcome "pool.ntp.org")).2 :=
    congrArg Prod.fst hask
  rw [hvalue, hfirst, attempt_datagram (by omega), transmitSeconds_of_complete hlen]

theorem era_iff {t : ℕ} {bytes : List Byte} {outcome : String → NtpOutcome} (ret : ℤ)
    (hfrom : 1546300800 ≤ t) (hto : t < 4102444800)
    (hfirst : outcome "pool.ntp.org" = .datagram bytes) (hlen : bytes.length = ntpLen)
    (hseconds : transmitSeconds bytes = (t + 2208988800) % 2 ^ 32) :
    (getTimestamp ret outcome).1 = t ↔ t < 2085978496 := by
  rw [ntpLen] at hlen
  rw [getTimestamp_first ret hfirst (by omega), hseconds, time1970]
  omega

def packet (seconds : ℕ) : List Byte :=
  List.replicate 40 0 ++ (LittleEndian.bytes 4 seconds).reverse ++ List.replicate 4 0

theorem era_2020 :
    (getTimestamp 0 fun _ => .datagram (packet 3786825600)).1 = (1577836800 : ℕ) ↔
      1577836800 < 2085978496 :=
  era_iff 0 (by decide) (by decide) rfl rfl (by decide)

theorem era_2036 :
    transmitSeconds (packet 0) = (2085978496 + 2208988800) % 2 ^ 32 ∧
      (getTimestamp 0 fun _ => .datagram (packet 0)).1 = -2208988800 :=
  ⟨by decide, by decide +kernel⟩

end NtpClient

end SlcNode
