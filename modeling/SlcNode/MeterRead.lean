import SlcNode.ADE7953
import SlcNode.Library.EventRun

namespace SlcNode.MeterRead

open EventRun ADE7953

/-- The poll in which a call on a clean line reads: the first one, from the one that sends the
request on, by which something arrives. -/
def readingPoll (polls : List Poll) : Option Poll :=
  (polls.dropWhile fun p => !p.writable).find? fun p => 0 < p.arrived

structure Call where
  chip : Chip
  reg : BitVec 16
  hardware : getRegisterSizeByte reg < 5
  polls : List Poll
  serves : (readingPoll polls).isSome = true

def step (u : Uart) (c : Call) : Uart := ((read c.chip c.polls c.reg u).map Prod.snd).getD u

def InStep (u : Uart) (c : Call) : Prop :=
  read c.chip c.polls c.reg u =
    some (regValue (c.chip.content c.reg),
      { channel := .empty, sent := u.sent ++ [txb c.reg] })

def Unsplit (_ : Uart) (c : Call) : Prop :=
  ∀ p, readingPoll c.polls = some p →
    getRegisterSizeByte c.reg ≤ p.arrived ∧ getRegisterSizeByte c.reg ≤ p.taken

variable {chip : Chip} {reg : BitVec 16} {p : Poll} {ps : List Poll} {u : Uart}

theorem readLoop_wait (hw : u.channel.waiting = []) (hp : p.arrived = 0) :
    readLoop chip reg (p :: ps) true u = readLoop chip reg ps true u := by
  have hu : u.deliver p.arrived = u := by
    obtain ⟨⟨ws, fs⟩, sent⟩ := u
    simp [Uart.deliver, Channel.deliver, hp]
  simp [readLoop, hu, Uart.readable, hw]

theorem readLoop_arrive (hf : u.channel.inFlight ≠ []) (hp : 0 < p.arrived) :
    readLoop chip reg (p :: ps) true u =
      some ((u.deliver p.arrived).read (getRegisterSizeByte reg) p.taken) := by
  have hr : (u.deliver p.arrived).readable = true := by
    have hne : u.channel.inFlight.take p.arrived ≠ [] := by
      rw [ne_eq, List.take_eq_nil_iff, not_or]
      exact ⟨hp.ne', hf⟩
    simp [Uart.readable, Uart.deliver, Channel.deliver, hne]
  simp [readLoop, hr]

theorem readLoop_locked (hw : u.channel.waiting = []) (hf : u.channel.inFlight ≠ []) :
    readLoop chip reg ps true u =
      (ps.find? fun p => 0 < p.arrived).map fun p =>
        (u.deliver p.arrived).read (getRegisterSizeByte reg) p.taken := by
  induction ps with
  | nil => rfl
  | cons p ps ih =>
    by_cases hp : 0 < p.arrived
    · rw [readLoop_arrive hf hp, List.find?_cons_of_pos (by simpa using hp), Option.map_some]
    · rw [readLoop_wait hw (by omega), ih, List.find?_cons_of_neg (by simpa using hp)]

theorem readLoop_send (hp : p.writable = true) :
    readLoop chip reg (p :: ps) false u =
      readLoop chip reg (p :: ps) true (u.write chip (txb reg)) := by
  simp [readLoop, hp]

theorem readLoop_idle (hu : u.channel = .empty) (hp : p.writable = false) :
    readLoop chip reg (p :: ps) false u = readLoop chip reg ps false u := by
  have hd : u.deliver p.arrived = u := by
    obtain ⟨channel, sent⟩ := u
    obtain rfl := hu
    simp [Uart.deliver, Channel.deliver, Channel.empty]
  simp [readLoop, hp, hd, Uart.readable, hu, Channel.empty]

theorem readLoop_clean (hreg : getRegisterSizeByte reg < 5) (hu : u.channel = .empty) :
    readLoop chip reg ps false u =
      (readingPoll ps).map fun p =>
        ((u.write chip (txb reg)).deliver p.arrived).read (getRegisterSizeByte reg) p.taken := by
  induction ps with
  | nil => rfl
  | cons p ps ih =>
    cases hp : p.writable with
    | false => rw [readLoop_idle hu hp, ih, readingPoll, readingPoll,
        List.dropWhile_cons_of_pos (by simp [hp])]
    | true =>
      have hw : (u.write chip (txb reg)).channel.waiting = [] := by
        rw [Uart.write, hu]
        rfl
      have hf : (u.write chip (txb reg)).channel.inFlight ≠ [] := by
        have hlen := chip.width reg hreg
        have hpos := getRegisterSizeByte_pos reg
        rw [Uart.write, hu, chip.answer_txb]
        simp only [Channel.send, Channel.empty, List.nil_append]
        intro hnil
        rw [hnil, List.length_nil] at hlen
        omega
      rw [readLoop_send hp, readLoop_locked hw hf, readingPoll,
        List.dropWhile_cons_of_neg (by simp [hp])]

theorem read_clean (c : Call) (hu : u.channel = .empty) :
    ∃ p got rest, readingPoll c.polls = some p ∧
      read c.chip c.polls c.reg u =
        some (regValue got, { channel := rest, sent := u.sent ++ [txb c.reg] }) ∧
      got ++ rest.pending = c.chip.content c.reg ∧
      got.length = min (min (getRegisterSizeByte c.reg) p.taken)
        (min p.arrived (getRegisterSizeByte c.reg)) := by
  obtain ⟨p, hp⟩ := Option.isSome_iff_exists.mp c.serves
  have hsplit := Channel.receive_append_pending (min (getRegisterSizeByte c.reg) p.taken)
    ((Channel.empty.send (c.chip.content c.reg)).deliver p.arrived)
  have hlen := Channel.receive_length (min (getRegisterSizeByte c.reg) p.taken)
    ((Channel.empty.send (c.chip.content c.reg)).deliver p.arrived)
  rw [Channel.pending_deliver, Channel.pending_send, Channel.pending_empty, List.nil_append] at hsplit
  rw [Channel.deliver_send_empty, List.length_take, c.chip.width c.reg c.hardware] at hlen
  refine ⟨p, _, _, hp, ?_, hsplit, hlen⟩
  rw [ADE7953.read, if_pos c.hardware, readLoop_clean c.hardware hu, hp]
  simp only [Option.map_some, Uart.write, hu, c.chip.answer_txb]
  rfl

theorem inStep_iff (u : Uart) (c : Call) (hu : u.channel = .empty) :
    InStep u c ↔ Unsplit u c := by
  obtain ⟨p, got, rest, hp, hread, hsplit, hlen⟩ := read_clean c hu
  have hwidth := c.chip.width c.reg c.hardware
  have hpos := getRegisterSizeByte_pos c.reg
  have hrest : rest = .empty ↔ got.length = getRegisterSizeByte c.reg := by
    rw [← Channel.pending_eq_nil_iff, ← List.length_eq_zero_iff, ← hwidth, ← hsplit,
      List.length_append]
    omega
  have hunsplit : Unsplit u c ↔ rest = .empty := by
    simp only [Unsplit, hp, Option.some.injEq, forall_eq', hrest, hlen]
    omega
  rw [hunsplit, InStep, hread]
  constructor
  · intro h
    simp only [Option.some.injEq, Prod.mk.injEq, Uart.mk.injEq] at h
    exact h.2.1
  · intro h
    rw [h, Channel.pending_empty, List.append_nil] at hsplit
    rw [h, hsplit]

theorem clean_step (u : Uart) (c : Call) (hu : u.channel = .empty) (hc : Unsplit u c) :
    (step u c).channel = .empty := by
  have hin : read c.chip c.polls c.reg u = _ := (inStep_iff u c hu).mpr hc
  rw [step, hin]
  rfl

theorem inStep_run_iff (sent : List (List Byte)) (cs : List Call) :
    Throughout step InStep { channel := .empty, sent := sent } cs ↔
      Throughout step Unsplit { channel := .empty, sent := sent } cs :=
  throughout_iff_guard clean_step inStep_iff rfl

def onesChip : Chip where
  content reg := List.replicate (getRegisterSizeByte reg) 1
  width _ _ := List.length_replicate

def splitVoltage : Call where
  chip := onesChip
  reg := 0x218
  hardware := by decide
  polls := [⟨true, 1, 3, by decide⟩]
  serves := by decide

theorem split_not_inStep :
    ¬Throughout step InStep { channel := .empty, sent := [] } [splitVoltage] := by
  rintro ⟨h, -⟩
  have hvalue := congrArg (Option.map Prod.fst) h
  exact absurd hvalue (by decide)

end SlcNode.MeterRead
