import CanGuru.Lib.ListHead
import CanGuru.GuruDevice

/-!
# Channels and their message layer

What `canguru-net.c` and `linguru-net.c`, and `canguru-msg-net.c` and
`linguru-msg-net.c`, have in common: the table of channels, the list of pending
replies that the channels of one message layer share, `ndo_start_xmit` and the
handling of a send status.

## The model

`MsgNet` is a `struct canguru_msg_net` or `struct linguru_msg_net` with the net
devices its table points at. The nodes of `send_reply_list` are its head and the
reply entry embedded in the private data of every channel; they are kept as
pointers (`ListHead`), so an entry that is appended twice does to the list what
the pointers make of it.

`startXmit` is the transmit routine from its first statement to its last. `Pc` and
`xmitPhase` cut it at the places where another thread can come in between;
`startXmit_eq` says that the pieces run in a row are the routine.
-/

namespace CanGuru

open ListHead

/-- The two buses. -/
inductive Bus where
  /-- CAN. -/
  | can
  /-- LIN. -/
  | lin
  deriving DecidableEq

/-- The nodes linked into `send_reply_list`. -/
inductive ReplyNode where
  /-- The head of the list. -/
  | listHead
  /-- The reply entry of channel `c`. -/
  | reply (c : ℕ)
  deriving DecidableEq

/-- What C leaves undefined. The model notes it and goes on. -/
inductive Fault where
  /-- A handler is applied to a `NULL` net device. -/
  | nullNetdev
  /-- A store goes through the null frame of a failed allocation. -/
  | nullFrame
  /-- A copy of `n` bytes leaves an object of `room` bytes. -/
  | outOfBounds (n room : ℕ)
  deriving DecidableEq

/-- `struct canguru_msg_net` or `struct linguru_msg_net`. -/
structure MsgNet where
  /-- `iface_count`. -/
  ifaceCount : ℕ
  /-- The net devices the table points at, `none` for `NULL`. -/
  netdev : ℕ → Option NetDevice
  /-- The nodes of `send_reply_list`. -/
  replies : Links ReplyNode

namespace MsgNet

/-- A change of channel `c`. -/
def modify (c : ℕ) (f : NetDevice → NetDevice) (m : MsgNet) : MsgNet :=
  { m with netdev := Function.update m.netdev c ((m.netdev c).map f) }

/-- `canguru_wait_send_reply`, `linguru_wait_send_reply`. -/
def waitSendReply (c : ℕ) (m : MsgNet) : MsgNet :=
  { m with replies := listAddTail m.replies (.reply c) .listHead }

/-- `list_del` of the reply entry of channel `c`. -/
def delReply (c : ℕ) (m : MsgNet) : MsgNet := { m with replies := listDel m.replies (.reply c) }

/-- The channel whose reply entry is at the head of the list. -/
def firstReply (m : MsgNet) : Option ℕ :=
  match listFirst m.replies .listHead with
  | some (.reply c) => some c
  | _ => none

/-- The list of pending replies is, in order, that of the channels `cs`. -/
def Pending (m : MsgNet) (cs : List ℕ) : Prop := Holds m.replies .listHead (cs.map .reply)

@[simp] theorem modify_self (c : ℕ) (f : NetDevice → NetDevice) (m : MsgNet) :
    (m.modify c f).netdev c = (m.netdev c).map f := Function.update_self ..

theorem modify_of_ne {c c' : ℕ} (h : c' ≠ c) (f : NetDevice → NetDevice) (m : MsgNet) :
    (m.modify c f).netdev c' = m.netdev c' := Function.update_of_ne h ..

/-- A channel after a change is the one that was changed, or another one. -/
theorem modify_eq_some {c c' : ℕ} {f : NetDevice → NetDevice} {m : MsgNet} {d' : NetDevice} :
    (m.modify c f).netdev c' = some d' ↔
      (c' = c ∧ ∃ d, m.netdev c = some d ∧ f d = d') ∨ (c' ≠ c ∧ m.netdev c' = some d') := by
  by_cases h : c' = c
  · simp [h]
  · simp [h, modify_of_ne h]

theorem modify_isSome (c : ℕ) (f : NetDevice → NetDevice) (m : MsgNet) (c' : ℕ) :
    ((m.modify c f).netdev c').isSome = (m.netdev c').isSome := by
  by_cases h : c' = c
  · rw [h, modify_self, Option.isSome_map]
  · rw [modify_of_ne h]

@[simp] theorem waitSendReply_netdev (c : ℕ) (m : MsgNet) :
    (m.waitSendReply c).netdev = m.netdev := rfl

@[simp] theorem delReply_netdev (c : ℕ) (m : MsgNet) : (m.delReply c).netdev = m.netdev := rfl

@[simp] theorem modify_pending {c : ℕ} {f : NetDevice → NetDevice} {m : MsgNet} {cs : List ℕ} :
    (m.modify c f).Pending cs ↔ m.Pending cs := Iff.rfl

theorem not_stopped {m : MsgNet} {c : ℕ} {d : NetDevice} (hd : m.netdev c = some d)
    (hq : d.queueStopped = false) : ¬ ∃ d, m.netdev c = some d ∧ d.queueStopped = true := by
  rintro ⟨d', hd', hq'⟩
  rw [hd, Option.some.injEq] at hd'
  rw [← hd', hq] at hq'
  cases hq'

theorem modify_modify (c : ℕ) (f g : NetDevice → NetDevice) (m : MsgNet) :
    (m.modify c f).modify c g = m.modify c (g ∘ f) := by
  simp [modify, Option.map_map]

/-- Only what a change does to the device that is there matters. -/
theorem modify_congr {c : ℕ} {f g : NetDevice → NetDevice} {m : MsgNet} {d : NetDevice}
    (hd : m.netdev c = some d) (hfg : f d = g d) : m.modify c f = m.modify c g := by
  rw [modify, modify, hd, Option.map_some, Option.map_some, hfg]

/-! ### The list of pending replies -/

theorem Pending.nodup {m : MsgNet} {cs : List ℕ} (h : m.Pending cs) : cs.Nodup :=
  (List.nodup_cons.mp (Holds.nodup h)).2.of_map _

theorem Pending.waitSendReply {m : MsgNet} {cs : List ℕ} {c : ℕ} (h : m.Pending cs) (hc : c ∉ cs) :
    (m.waitSendReply c).Pending (cs ++ [c]) := by
  rw [Pending, List.map_append]
  exact h.listAddTail (by simpa using hc)

theorem Pending.delReply {m : MsgNet} {cs : List ℕ} {c : ℕ} (h : m.Pending (c :: cs)) :
    (m.delReply c).Pending cs := Holds.listDel_head h

theorem Pending.listEmpty {m : MsgNet} {cs : List ℕ} (h : m.Pending cs) :
    listEmpty m.replies .listHead = true ↔ cs = [] := by
  rw [Holds.listEmpty_iff h, List.map_eq_nil_iff]

theorem Pending.firstReply {m : MsgNet} {cs : List ℕ} (h : m.Pending cs) :
    m.firstReply = cs.head? := by
  rw [MsgNet.firstReply, Holds.listFirst h]
  cases cs <;> rfl

/-- The entry of a channel is linked when it is in the list. -/
theorem Pending.linked_iff {m : MsgNet} {cs : List ℕ} (h : m.Pending cs) (c : ℕ) :
    m.replies.linked (.reply c) = true ↔ c ∈ cs := by
  rw [Holds.linked_iff h]
  simp

/-! ### The send status -/

/-- `canguru_send_callback` of `canguru-net.c`, `linguru_send_callback` of
`linguru-net.c`: the echo goes back to the stack, the frame is counted under its
status, and the queue wakes. -/
def netSendCallback (status : UInt8) (d : NetDevice) : NetDevice :=
  let (byteCount, frameLen, d) := d.canGetEchoSkb
  let stats := d.stats
  let stats :=
    if status = GURU_STATUS_DONE then
      { stats with txPackets := stats.txPackets + 1, txBytes := stats.txBytes + byteCount }
    else if status = GURU_STATUS_ERROR then { stats with txErrors := stats.txErrors + 1 }
    else { stats with txDropped := stats.txDropped + 1 }
  ({ d with stats := stats }.netdevCompletedQueue frameLen).netifWakeQueue

/-- `canguru_send_callback` of `canguru-msg-net.c`, `linguru_send_callback` of
`linguru-msg-net.c`. Every reply entry has its callback. -/
def sendCallback (status : UInt8) (m : MsgNet) : MsgNet :=
  if listEmpty m.replies .listHead then m
  else
    match listFirst m.replies .listHead with
    | some (.reply c) => (m.modify c (netSendCallback status)).delReply c
    | _ => { m with replies := { m.replies with oops := true } }

/-- A status that finds no reply entry is thrown away. -/
theorem Pending.sendCallback_nil {m : MsgNet} (h : m.Pending []) (status : UInt8) :
    m.sendCallback status = m := by
  rw [sendCallback, if_pos (h.listEmpty.mpr rfl)]

theorem firstReply_eq_some {m : MsgNet} {c : ℕ} (h : m.firstReply = some c) :
    listFirst m.replies .listHead = some (.reply c) := by
  unfold MsgNet.firstReply at h
  split at h
  case h_1 c' hf => rw [hf, Option.some.inj h]
  case h_2 => cases h

/-- A status completes the frame of the channel at the head. -/
theorem sendCallback_of_first {m : MsgNet} {c : ℕ} (h : m.firstReply = some c) (status : UInt8) :
    m.sendCallback status = (m.modify c (netSendCallback status)).delReply c := by
  have hf := firstReply_eq_some h
  have hne : ¬ ListHead.listEmpty m.replies .listHead = true := by
    rw [ListHead.listEmpty, show m.replies.next .listHead = some (.reply c) from hf]
    simp
  rw [sendCallback, if_neg hne, hf]

theorem Pending.sendCallback_cons {m : MsgNet} {c : ℕ} {cs : List ℕ} (h : m.Pending (c :: cs))
    (status : UInt8) :
    m.sendCallback status = (m.modify c (netSendCallback status)).delReply c :=
  sendCallback_of_first h.firstReply status

@[simp] theorem netSendCallback_echoSkb (status : UInt8) (d : NetDevice) :
    (netSendCallback status d).echoSkb = none := by
  cases hd : d.echoSkb <;>
    simp [netSendCallback, NetDevice.canGetEchoSkb, hd, NetDevice.netdevCompletedQueue,
      NetDevice.netifWakeQueue]

/-- The counters of a channel after a frame of `byteCount` bytes got its status. -/
def countStatus (status : UInt8) (byteCount : ℕ) (stats : Stats) : Stats :=
  if status = GURU_STATUS_DONE then
    { stats with txPackets := stats.txPackets + 1, txBytes := stats.txBytes + byteCount }
  else if status = GURU_STATUS_ERROR then { stats with txErrors := stats.txErrors + 1 }
  else { stats with txDropped := stats.txDropped + 1 }

/-- The status of a frame whose echo is in the slot. -/
theorem netSendCallback_of_echo {d : NetDevice} {skb : Skb} (h : d.echoSkb = some skb)
    (status : UInt8) : netSendCallback status d =
      { d with
        queueStopped := false
        echoSkb := none
        stats := countStatus status skb.payloadLen d.stats
        completedQueue := d.completedQueue ++ [some skb.frameLen]
        disposed := d.disposed ++ [(skb, .echoed)] } := by
  simp only [netSendCallback, NetDevice.canGetEchoSkb, h]
  rfl

/-! ### Transmission -/

/-- What the kernel decides during a call of `ndo_start_xmit`. -/
structure XmitOutcome where
  /-- How `guru_send_data` ends. -/
  send : SendOutcome
  /-- `can_put_echo_skb` cannot allocate the clone. -/
  oom : Bool
  deriving DecidableEq

/-- Every kernel call succeeds. -/
abbrev XmitOutcome.ok : XmitOutcome := ⟨.ok, false⟩

/-- How a bus turns the frame of a socket buffer into a message and sends it. -/
abbrev Send := SendOutcome → NetDevice → Skb → ℤ × List GuruData

variable (send : Send)

/-- `canguru_start_xmit`, `linguru_start_xmit`, and the message it puts on the
wire. -/
def startXmit (o : XmitOutcome) (c : ℕ) (skb : Skb) (m : MsgNet) : MsgNet × List GuruData :=
  match m.netdev c with
  | none => (m, [])
  | some d =>
    if skb.invalid then (m.modify c (.dropInvalidSkb skb), [])
    else
      let d := d.netifStopQueue
      let m := m.modify c .netifStopQueue
      let (err, out) := send o.send d skb
      if err ≠ 0 then (m.modify c .netifWakeQueue, out)
      else
        let (err, d) := d.canPutEchoSkb o.oom skb skb.frameLen
        let m := m.modify c fun _ => d
        if err ≠ 0 then (m, out)
        else ((m.waitSendReply c).modify c (.netdevSentQueue skb.frameLen), out)

/-- Where a call of `ndo_start_xmit` stands. -/
inductive Pc where
  /-- No call is in progress. -/
  | idle
  /-- The queue is stopped. -/
  | stopped (skb : Skb)
  /-- The message is submitted. -/
  | submitted (skb : Skb)
  /-- The echo is put. -/
  | echoed (frameLen : ℕ)
  /-- The reply entry is appended. -/
  | linked (frameLen : ℕ)
  deriving DecidableEq

/-- The call starts: an invalid buffer is dropped, or the queue is stopped. -/
def xmitEnter (c : ℕ) (skb : Skb) (m : MsgNet) : Pc × MsgNet :=
  if skb.invalid then (.idle, m.modify c (.dropInvalidSkb skb))
  else (.stopped skb, m.modify c .netifStopQueue)

/-- The next piece of the call. -/
def xmitPhase (o : XmitOutcome) (c : ℕ) (pc : Pc) (m : MsgNet) : Pc × MsgNet × List GuruData :=
  match m.netdev c with
  | none => (pc, m, [])
  | some d =>
    match pc with
    | .idle => (.idle, m, [])
    | .stopped skb =>
      let (err, out) := send o.send d skb
      if err ≠ 0 then (.idle, m.modify c .netifWakeQueue, out) else (.submitted skb, m, out)
    | .submitted skb =>
      let (err, d) := d.canPutEchoSkb o.oom skb skb.frameLen
      if err ≠ 0 then
        (.idle, m.modify c fun _ => d, [])
      else (.echoed skb.frameLen, m.modify c fun _ => d, [])
    | .echoed frameLen => (.linked frameLen, m.waitSendReply c, [])
    | .linked frameLen => (.idle, m.modify c (.netdevSentQueue frameLen), [])

/-- The pieces that are left, in a row. -/
def xmitRest (o : XmitOutcome) (c : ℕ) :
    ℕ → Pc × MsgNet × List GuruData → Pc × MsgNet × List GuruData
  | 0, s => s
  | n + 1, (pc, m, out) =>
    let (pc, m, out') := xmitPhase send o c pc m
    xmitRest o c n (pc, m, out ++ out')

variable {send}

theorem xmitPhase_idle (o : XmitOutcome) (c : ℕ) (m : MsgNet) :
    xmitPhase send o c .idle m = (.idle, m, []) := by
  rw [xmitPhase]
  split <;> rfl

/-- A call that is over has no pieces left. -/
theorem xmitRest_idle (o : XmitOutcome) (c : ℕ) (n : ℕ) (m : MsgNet) (out : List GuruData) :
    xmitRest send o c n (.idle, m, out) = (.idle, m, out) := by
  induction n with
  | zero => rfl
  | succ n ih =>
    rw [xmitRest, xmitPhase_idle]
    simp only [List.append_nil, ih]

/-- **The pieces run in a row are the routine**, and the call is over then. -/
theorem startXmit_eq (o : XmitOutcome) {c : ℕ} {d : NetDevice} (skb : Skb) {m : MsgNet}
    (hd : m.netdev c = some d) :
    xmitRest send o c 4 ((xmitEnter c skb m).1, (xmitEnter c skb m).2, []) =
      (.idle, startXmit send o c skb m) := by
  rw [xmitEnter, startXmit, hd]
  by_cases hi : skb.invalid
  · simp only [hi, if_true]
    exact xmitRest_idle ..
  have h1 : (m.modify c .netifStopQueue).netdev c = some d.netifStopQueue := by
    rw [modify_self, hd]; rfl
  simp only [hi, Bool.false_eq_true, if_false]
  rw [xmitRest, xmitPhase, h1]
  generalize hs : send o.send d.netifStopQueue skb = r
  obtain ⟨err, out⟩ := r
  by_cases he : err = 0
  · subst he
    simp only [hs, ne_eq, not_true_eq_false, if_false, List.nil_append]
    rw [xmitRest, xmitPhase, h1]
    generalize hp : d.netifStopQueue.canPutEchoSkb o.oom skb skb.frameLen = r
    obtain ⟨err, d'⟩ := r
    by_cases he : err = 0
    · subst he
      simp only [hp, ne_eq, not_true_eq_false, if_false, List.append_nil]
      have h2 : ((m.modify c .netifStopQueue).modify c fun _ => d').netdev c = some d' := by
        rw [modify_self, h1]; rfl
      rw [xmitRest, xmitPhase, h2]
      simp only [List.append_nil]
      rw [xmitRest, xmitPhase, waitSendReply_netdev, h2]
      simp only [List.append_nil]
      rfl
    · simp only [hp, ne_eq, he, not_false_eq_true, if_true, List.append_nil]
      exact xmitRest_idle ..
  · simp only [hs, ne_eq, he, not_false_eq_true, if_true, List.nil_append]
    exact xmitRest_idle ..

end MsgNet

end CanGuru
