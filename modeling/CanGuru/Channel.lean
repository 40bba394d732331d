import CanGuru.LinguruNet

/-!
# A channel of either bus

`canguru_start_xmit` and `linguru_start_xmit` differ in the message they build and
in nothing else, and so nearly do the routines that open and close a channel. This
module says what each of them does to its channel and to the list of pending replies,
for both buses.

## What is proved

* `startXmit_invalid`, `startXmit_err`, `startXmit_ok`, `startXmit_refused` — what a
  call does: it drops an invalid frame, gives the queue back if the message is not
  taken, leaves the echo and the reply entry behind, or loses the frame if there is
  no room for the echo.
-/

namespace CanGuru

/-- `canguru_start_xmit`. -/
abbrev canguruStartXmit := MsgNet.startXmit canguruSend

/-- `linguru_start_xmit`. -/
abbrev linguruStartXmit := MsgNet.startXmit linguruSend

/-- A channel that is opened: its candev is open and its queue runs. -/
def NetDevice.running (d : NetDevice) : NetDevice :=
  { d with candevOpens := d.candevOpens + 1, state := .errorActive, queueStopped := false }

namespace Bus

/-- The message of a frame on a bus. -/
def send : Bus → MsgNet.Send
  | .can => canguruSend
  | .lin => linguruSend

/-- The id of the messages that send a frame. -/
def sendId : Bus → UInt16
  | .can => CAN_MSG_SEND
  | .lin => LIN_MSG_SEND

/-- A frame is sent with one call of `guru_send_data`. -/
theorem send_eq (bus : Bus) (o : SendOutcome) (d : NetDevice) (skb : Skb) :
    ∃ data, bus.send o d skb = guruSendData o bus.sendId data := by
  cases bus with
  | can =>
    cases hf : skb.frame with
    | can f => exact ⟨_, by rw [send, canguruSend, hf]; rfl⟩
    | canfd f => exact ⟨_, by rw [send, canguruSend, hf]; rfl⟩
  | lin => exact ⟨_, rfl⟩

/-- A message that is not taken is not sent. -/
theorem send_of_err (bus : Bus) {o : SendOutcome} (h : o.err ≠ 0) (d : NetDevice) (skb : Skb) :
    bus.send o d skb = (o.err, []) := by
  obtain ⟨data, hs⟩ := bus.send_eq o d skb
  rw [hs, guruSendData, if_neg h]

theorem send_of_ok (bus : Bus) {o : SendOutcome} (h : o.err = 0) (d : NetDevice) (skb : Skb) :
    ∃ msg, bus.send o d skb = (0, [msg]) := by
  obtain ⟨data, hs⟩ := bus.send_eq o d skb
  exact ⟨_, by rw [hs, guruSendData, if_pos h, h]⟩

/-- `ndo_open`, with what `open_candev` returns and how the messages end. -/
def opsOpen (openErr : ℤ) (conf o : SendOutcome) (d : NetDevice) :
    Bus → ℤ × NetDevice × List GuruData
  | .can => canguruOpsOpen openErr o d
  | .lin => linguruOpsOpen openErr conf o d

/-- `ndo_stop`, with how the disable message ends. -/
def opsClose (o : SendOutcome) (d : NetDevice) : Bus → NetDevice × List GuruData
  | .can => canguruOpsClose o d
  | .lin => linguruOpsClose o d

/-- A channel that `open_candev` does not open is left as it was, and the device is told
nothing. -/
theorem opsOpen_fail (bus : Bus) {openErr : ℤ} (h : openErr ≠ 0) (conf o : SendOutcome)
    (d : NetDevice) : bus.opsOpen openErr conf o d = (openErr, d, []) := by
  cases bus <;> simp [opsOpen, canguruOpsOpen, linguruOpsOpen, NetDevice.openCandev, h]

/-- What `ndo_open` does: it leaves the channel as it was if `open_candev` fails, leaves its
candev open if the configuration is not taken, and otherwise has it running. -/
theorem opsOpen_eq (bus : Bus) (openErr : ℤ) (conf o : SendOutcome) (d : NetDevice) :
    ∃ out, bus.opsOpen openErr conf o d =
      if openErr ≠ 0 then (openErr, d, [])
      else if bus = .lin ∧
      conf.err ≠ 0 then (conf.err, { d with candevOpens := d.candevOpens + 1 }, [])
      else (0, d.running, out) := by
  by_cases he : openErr = 0
  · subst he
    cases bus with
    | can => exact ⟨(canguruOpsOpen 0 o d).2.2, rfl⟩
    | lin =>
      refine ⟨(linguruOpsOpen 0 conf o d).2.2, ?_⟩
      by_cases hc : conf.err = 0 <;>
        simp [opsOpen, linguruOpsOpen, NetDevice.openCandev, linguruSetLinConf, guruSendData, hc,
          NetDevice.netifStartQueue, NetDevice.running]
  · refine ⟨[], ?_⟩
    rw [bus.opsOpen_fail he, if_pos he]

/-- A channel that is opened has its queue running; one that cannot be opened is left
as it was, but for the count of `open_candev`. -/
theorem opsOpen_spec (bus : Bus) (openErr : ℤ) (conf o : SendOutcome) (d : NetDevice) :
    (bus.opsOpen openErr conf o d).2.1.echoSkb = d.echoSkb ∧
      ((bus.opsOpen openErr conf o d).1 = 0 →
        (bus.opsOpen openErr conf o d).2.1.queueStopped = false) ∧
      ((bus.opsOpen openErr conf o d).1 ≠ 0 →
        (bus.opsOpen openErr conf o d).2.1.queueStopped = d.queueStopped ∧
        (bus.opsOpen openErr conf o d).2.1.up = d.up) := by
  obtain ⟨out, h⟩ := bus.opsOpen_eq openErr conf o d
  rw [h]
  split_ifs with he hc
  · exact ⟨rfl, fun h0 => absurd h0 he, fun _ => ⟨rfl, rfl⟩⟩
  · exact ⟨rfl, fun h0 => absurd h0 hc.2, fun _ => ⟨rfl, rfl⟩⟩
  · exact ⟨rfl, fun _ => rfl, fun h0 => absurd rfl h0⟩

/-- A channel after `ndo_stop`: it is stopped, and its candev is closed. -/
theorem opsClose_dev (bus : Bus) (o : SendOutcome) (d : NetDevice) :
    (bus.opsClose o d).1 = { d with state := .stopped }.netifStopQueue.closeCandev := by
  cases bus <;> rfl

theorem opsClose_eq (bus : Bus) (o : SendOutcome) (d : NetDevice) :
    ∃ stats disposed, (bus.opsClose o d).1 = { d with
      state := .stopped
      queueStopped := true
      echoSkb := none
      candevCloses := d.candevCloses + 1
      stats := stats
      disposed := disposed } := by
  rw [opsClose_dev]
  exact NetDevice.closeCandev_eq _

/-- A channel that is closed has its queue stopped and its echo freed. -/
theorem opsClose_spec (bus : Bus) (o : SendOutcome) (d : NetDevice) :
    (bus.opsClose o d).1.queueStopped = true ∧ (bus.opsClose o d).1.echoSkb = none := by
  obtain ⟨stats, disposed, h⟩ := bus.opsClose_eq o d
  rw [h]
  exact ⟨rfl, rfl⟩

end Bus

/-! ### What the pieces do to a channel -/

namespace NetDevice

@[simp] theorem netifStopQueue_echoSkb (d : NetDevice) : d.netifStopQueue.echoSkb = d.echoSkb := rfl

/-- The echo of a frame is put into the slot. -/
def putEcho (skb : Skb) (d : NetDevice) : NetDevice := { d with echoSkb := some skb }

/-- An echo that is put, or not, leaves the queue alone. -/
theorem canPutEchoSkb_kept (d : NetDevice) (oom : Bool) (skb : Skb) (frameLen : ℕ) :
    (d.canPutEchoSkb oom skb frameLen).2.up = d.up ∧
      (d.canPutEchoSkb oom skb frameLen).2.queueStopped = d.queueStopped := by
  unfold canPutEchoSkb
  split
  · exact ⟨rfl, rfl⟩
  · split <;> exact ⟨rfl, rfl⟩

theorem canPutEchoSkb_of_none {d : NetDevice} (h : d.echoSkb = none) (skb : Skb) :
    d.canPutEchoSkb false skb skb.frameLen = (0, d.putEcho skb) := by
  rw [canPutEchoSkb, h]
  rfl

theorem canPutEchoSkb_refused {d : NetDevice} {oom : Bool} (h : oom = true ∨ d.echoSkb ≠ none)
    (skb : Skb) :
    ∃ err, err ≠ 0 ∧ d.canPutEchoSkb oom skb skb.frameLen = (err, d.dispose skb .refused) := by
  cases he : d.echoSkb with
  | none =>
    have hoom : oom = true := h.resolve_right (not_not.mpr he)
    exact ⟨-ENOMEM, by decide, by simp [canPutEchoSkb, he, hoom]⟩
  | some _ => exact ⟨-EBUSY, by decide, by simp [canPutEchoSkb, he]⟩

end NetDevice

namespace MsgNet

section Pieces

variable {bus : Bus} {m : MsgNet} {c : ℕ} {d : NetDevice} (hd : m.netdev c = some d)
include hd

/-! ### The pieces of a call -/

/-- The message is not taken: the queue is given back. -/
theorem xmitPhase_stopped_err {o : XmitOutcome} (h : o.send.err ≠ 0) (skb : Skb) :
    xmitPhase bus.send o c (.stopped skb) m = (.idle, m.modify c .netifWakeQueue, []) := by
  simp only [xmitPhase, hd, bus.send_of_err h, ne_eq, h, not_false_eq_true, if_true]

theorem xmitPhase_stopped_ok {o : XmitOutcome} (h : o.send.err = 0) (skb : Skb) :
    ∃ msg, xmitPhase bus.send o c (.stopped skb) m = (.submitted skb, m, [msg]) := by
  obtain ⟨msg, hs⟩ := bus.send_of_ok h d skb
  exact ⟨msg, by simp only [xmitPhase, hd, hs, ne_eq, not_true_eq_false, if_false]⟩

theorem xmitPhase_submitted_ok {o : XmitOutcome} (ho : o.oom = false) (he : d.echoSkb = none)
    (skb : Skb) :
    xmitPhase bus.send o c (.submitted skb) m =
      (.echoed skb.frameLen, m.modify c (.putEcho skb), []) := by
  have hmod : (m.modify c fun _ => d.putEcho skb) = m.modify c (.putEcho skb) := modify_congr hd rfl
  simp only [xmitPhase, hd, ho, NetDevice.canPutEchoSkb_of_none he, hmod, ne_eq,
    not_true_eq_false, if_false]

/-- The echo finds no room: the frame is lost. -/
theorem xmitPhase_refused {o : XmitOutcome} (h : o.oom = true ∨ d.echoSkb ≠ none) (skb : Skb) :
    xmitPhase bus.send o c (.submitted skb) m =
      (.idle, m.modify c (.dispose skb .refused), []) := by
  obtain ⟨err, herr, hput⟩ := NetDevice.canPutEchoSkb_refused h skb
  have hmod : (m.modify c fun _ => d.dispose skb .refused) = m.modify c (.dispose skb .refused) :=
    modify_congr hd rfl
  simp only [xmitPhase, hd, hput, herr, ne_eq, not_false_eq_true, if_true, hmod]

theorem xmitPhase_echoed (o : XmitOutcome) (frameLen : ℕ) :
    xmitPhase bus.send o c (.echoed frameLen) m = (.linked frameLen, m.waitSendReply c, []) := by
  simp only [xmitPhase, hd]

theorem xmitPhase_linked (o : XmitOutcome) (frameLen : ℕ) :
    xmitPhase bus.send o c (.linked frameLen) m =
      (.idle, m.modify c (.netdevSentQueue frameLen), []) := by
  simp only [xmitPhase, hd]

end Pieces

/-! ### A whole call -/

/-- What a call leaves behind from the submission on: the echo, the reply entry and
the report to the byte queue. -/
def registered (c : ℕ) (skb : Skb) (m : MsgNet) : MsgNet :=
  (m.modify c fun d => (d.putEcho skb).netdevSentQueue skb.frameLen).waitSendReply c

@[simp] theorem registered_self (c : ℕ) (skb : Skb) (m : MsgNet) :
    (m.registered c skb).netdev c = (m.netdev c).map fun d =>
    (d.putEcho skb).netdevSentQueue skb.frameLen :=
  modify_self ..

theorem registered_of_ne {c c' : ℕ} (h : c' ≠ c) (skb : Skb) (m : MsgNet) :
    (m.registered c skb).netdev c' = m.netdev c' := modify_of_ne h ..

theorem Pending.registered {m : MsgNet} {cs : List ℕ} {c : ℕ} (h : m.Pending cs) (hc : c ∉ cs)
    (skb : Skb) : (m.registered c skb).Pending (cs ++ [c]) :=
  Pending.waitSendReply (modify_pending.mpr h) hc

variable {bus : Bus} {m : MsgNet} {c : ℕ} {d : NetDevice} (hd : m.netdev c = some d)
include hd

/-- From the submission on, with room for the echo. -/
theorem xmitRest_submitted {o : XmitOutcome} (ho : o.oom = false) (he : d.echoSkb = none)
    (skb : Skb) :
    xmitRest bus.send o c 3 (.submitted skb, m, []) = (.idle, m.registered c skb, []) := by
  have hd₁ : (m.modify c (.putEcho skb)).netdev c = some (d.putEcho skb) := by
    rw [modify_self, hd]; rfl
  have hd₂ : ((m.modify c (.putEcho skb)).waitSendReply c).netdev c = some (d.putEcho skb) := hd₁
  rw [xmitRest, xmitPhase_submitted_ok hd ho he]
  simp only [xmitRest, xmitPhase_echoed hd₁, xmitPhase_linked hd₂, List.append_nil]
  rw [registered, ← Function.comp_def (NetDevice.netdevSentQueue skb.frameLen), ← modify_modify]
  rfl

theorem startXmit_invalid (o : XmitOutcome) {skb : Skb} (hi : skb.invalid = true) :
    startXmit bus.send o c skb m = (m.modify c (.dropInvalidSkb skb), []) := by
  simp only [startXmit, hd, hi, if_true]

/-- A message that is not taken leaves the channel as it was, its queue running. -/
theorem startXmit_err {o : XmitOutcome} (h : o.send.err ≠ 0) {skb : Skb}
    (hi : skb.invalid = false) :
    startXmit bus.send o c skb m = (m.modify c fun d => d.netifStopQueue.netifWakeQueue, []) := by
  simp only [startXmit, hd, hi, Bool.false_eq_true, if_false, bus.send_of_err h, ne_eq, h,
    not_false_eq_true, if_true]
  rw [modify_modify]
  rfl

/-- A call that sends nothing keeps the echo, and a queue that runs. -/
theorem startXmit_quiet {o : XmitOutcome} {skb : Skb}
    (h : ¬ (skb.invalid = false ∧ o.send.err = 0)) :
    ∃ f : NetDevice → NetDevice, (∀ d, (f d).echoSkb = d.echoSkb ∧ (f d).up = d.up ∧
      (d.queueStopped = false → (f d).queueStopped = false)) ∧
      startXmit bus.send o c skb m = (m.modify c f, []) := by
  cases hi : skb.invalid with
  | true => exact ⟨.dropInvalidSkb skb, fun _ => ⟨rfl, rfl, id⟩, startXmit_invalid hd o hi⟩
  | false =>
    have herr : o.send.err ≠ 0 := fun herr => h ⟨hi, herr⟩
    exact ⟨fun d => d.netifStopQueue.netifWakeQueue, fun _ => ⟨rfl, rfl, fun _ => rfl⟩,
      startXmit_err hd herr hi⟩

/-- A frame that is sent leaves its echo and its reply entry, and the queue stopped. -/
theorem startXmit_ok {o : XmitOutcome} (h : o.send.err = 0) (ho : o.oom = false)
    (he : d.echoSkb = none) {skb : Skb} (hi : skb.invalid = false) :
    ∃ msg, startXmit bus.send o c skb m =
      ((m.modify c .netifStopQueue).registered c skb, [msg]) := by
  obtain ⟨msg, hs⟩ := bus.send_of_ok h d.netifStopQueue skb
  have hd₁ : (m.modify c .netifStopQueue).netdev c = some d.netifStopQueue := by
    rw [modify_self, hd]; rfl
  have hmod : ((m.modify c .netifStopQueue).modify c fun _ => d.netifStopQueue.putEcho skb) =
      (m.modify c .netifStopQueue).modify c (.putEcho skb) := modify_congr hd₁ rfl
  refine ⟨msg, ?_⟩
  simp only [startXmit, hd, hi, Bool.false_eq_true, if_false, hs, ne_eq, not_true_eq_false, ho,
    NetDevice.canPutEchoSkb_of_none (show d.netifStopQueue.echoSkb = none from he), hmod]
  rw [registered, ← Function.comp_def (NetDevice.netdevSentQueue skb.frameLen), ← modify_modify]
  rfl

/-- A frame whose echo finds no room is lost, with its message on the wire and the
queue stopped. -/
theorem startXmit_refused {o : XmitOutcome} (h : o.send.err = 0)
    (ho : o.oom = true ∨ d.echoSkb ≠ none) {skb : Skb} (hi : skb.invalid = false) :
    ∃ msg, startXmit bus.send o c skb m =
      (m.modify c fun d => d.netifStopQueue.dispose skb .refused, [msg]) := by
  obtain ⟨msg, hs⟩ := bus.send_of_ok h d.netifStopQueue skb
  have hroom : o.oom = true ∨ d.netifStopQueue.echoSkb ≠ none := ho
  obtain ⟨err, herr, hput⟩ := NetDevice.canPutEchoSkb_refused hroom skb
  have hmod :
    ((m.modify c .netifStopQueue).modify c fun _ => d.netifStopQueue.dispose skb .refused) =
      m.modify c fun d => d.netifStopQueue.dispose skb .refused := by
    rw [modify_modify]
    exact modify_congr hd rfl
  refine ⟨msg, ?_⟩
  simp only [startXmit, hd, hi, Bool.false_eq_true, if_false, hs, ne_eq,
    not_true_eq_false, hput, herr, not_false_eq_true, if_true, hmod]

end MsgNet

/-- An empty frame. -/
def emptySkb : Skb := ⟨.can ⟨1, 0, 0, fun _ => 0⟩, 0, false⟩

end CanGuru
