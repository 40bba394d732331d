import CanGuru.Lib.Machine
import CanGuru.Receive.Defined
import CanGuru.Receive.RoundTrip

/-!
# Reception on the CAN channels

A message of the device comes in a block of a bulk transfer, is kept in the
current-message fields while the handlers look at it, and, if it is a received frame, is
decoded for the channel its first byte names. Nothing is lost, delivered twice, moved or
sent to another channel on the way, unless another message of the transfers is copied out
of bounds: then nothing can be said of what is delivered.

## The model

The receive URBs complete one after the other, with any status, any length and any bytes,
and every frame can be allocated. Handlers of other messages run in between; where C leaves
what they do undefined, the model notes it, and a run in which it does so guarantees nothing.

## What is proved

`received_iff` — what the completions do is defined, and every channel is delivered, in
order, the frames of the messages for it and counts them, exactly when no firmware version
is longer than its buffer and no received LIN frame is without a channel or longer than 8
bytes.
-/

namespace CanGuru

open Packed

namespace Delivery

/-- A device with `n` CAN channels, all created, and the handlers of its init function. -/
structure Ready (k : DeviceKind) (n : ℕ) (guru : Guru) : Prop where
  /-- It has CAN channels. -/
  hasCan : k.hasCan = true
  /-- Its handlers are registered. -/
  msgList : guru.msgList = k.msgList
  /-- It has `n` channels. -/
  ifaceCount : guru.dev.can.ifaceCount = n
  /-- They are created. -/
  created : ∀ i < n, (guru.dev.can.netdev i).isSome = true

/-- The completions of receive URBs, one after the other. -/
def receive (urbs : List BulkUrb) (guru : Guru) : Guru :=
  urbs.foldl (fun guru urb => (canguruReadBulkCallback (runCallback true) urb guru).1) guru

/-- The message is a received CAN frame for channel `i`. -/
def IsFor (i : ℕ) (msg : GuruData) : Prop := msg.id = CAN_MSG_RECV ∧ ifaceOf msg = i

instance (i : ℕ) (msg : GuruData) : Decidable (IsFor i msg) := inferInstanceAs (Decidable (_ ∧ _))

/-- The frame of a message, as a channel with mode `ctrlmode` delivers it. -/
def decode (ctrlmode : UInt32) (msg : GuruData) : RxFrame where
  frame := canguruRecvFrame msg.data ctrlmode
  hwtstamp := readLE 1 4 msg.data * CANGURU_100US_TO_1NS
  copied := canguruRecvLen (CanMsgHeader.ofNat (readLE 5 CanMsgHeader.size msg.data))

/-- The frames of the messages for channel `i`, in order. -/
def framesFor (i : ℕ) (ctrlmode : UInt32) (msgs : List GuruData) : List RxFrame :=
  (msgs.filter fun msg => IsFor i msg).map (decode ctrlmode)

/-- **The frames are delivered** to a channel, from `d` to `d'`: they follow those that were
delivered before, and the counters grow by their number and their lengths. -/
structure Delivered (frames : List RxFrame) (d d' : NetDevice) : Prop where
  /-- The frames. -/
  rx : d'.rx = d.rx ++ frames
  /-- Their number. -/
  rxPackets : d'.stats.rxPackets = d.stats.rxPackets + frames.length
  /-- Their lengths. -/
  rxBytes : d'.stats.rxBytes = d.stats.rxBytes + (frames.map fun f => f.frame.len).sum

/-- The frames are delivered, and the mode is kept. -/
structure Took (frames : List RxFrame) (d d' : NetDevice) : Prop extends Delivered frames d d' where
  /-- The mode. -/
  ctrlmode : d'.ctrlmode = d.ctrlmode

/-- Nothing is delivered to a channel that stays as it is. -/
theorem Took.refl (d : NetDevice) : Took [] d d := ⟨⟨(List.append_nil _).symm, rfl, rfl⟩, rfl⟩

theorem Took.trans {fs gs : List RxFrame} {d d' d'' : NetDevice} (h : Took fs d d')
    (h' : Took gs d' d'') : Took (fs ++ gs) d d'' where
  rx := by rw [h'.rx, h.rx, List.append_assoc]
  rxPackets := by rw [h'.rxPackets, h.rxPackets, List.length_append, Nat.add_assoc]
  rxBytes := by rw [h'.rxBytes, h.rxBytes, List.map_append, List.sum_append, Nat.add_assoc]
  ctrlmode := h'.ctrlmode.trans h.ctrlmode

theorem took_netRecv (msg : GuruData) (d : NetDevice) :
    Took [decode d.ctrlmode msg] d (canguruNetRecv true msg.data d).1 where
  rx := rfl
  rxPackets := rfl
  rxBytes := by
    rw [List.map_singleton, List.sum_singleton, decode, canguruRecvFrame_len]
    rfl
  ctrlmode := rfl

theorem took_netSendCallback (status : UInt8) (d : NetDevice) :
    Took [] d (MsgNet.netSendCallback status d) := by
  have hecho : Took [] d d.canGetEchoSkb.2.2 := by
    unfold NetDevice.canGetEchoSkb
    split
    · exact ⟨⟨(List.append_nil _).symm, rfl, rfl⟩, rfl⟩
    · exact .refl d
  obtain ⟨⟨hrx, hpackets, hbytes⟩, hmode⟩ := hecho
  refine ⟨⟨hrx, ?_, ?_⟩, hmode⟩
  · simp only [MsgNet.netSendCallback, NetDevice.netdevCompletedQueue, NetDevice.netifWakeQueue]
    split_ifs <;> exact hpackets
  · simp only [MsgNet.netSendCallback, NetDevice.netdevCompletedQueue, NetDevice.netifWakeQueue]
    split_ifs <;> exact hbytes

/-! ### A message layer -/

/-- From `m` to `m'`, every channel takes the frames that `frames` has for it, which depend
on its mode. -/
structure Gives (frames : ℕ → UInt32 → List RxFrame) (m m' : MsgNet) : Prop where
  /-- There are as many channels. -/
  ifaceCount : m'.ifaceCount = m.ifaceCount
  /-- What each takes. -/
  netdev : ∀ c d, m.netdev c = some d → ∃ d', m'.netdev c = some d' ∧
    Took (frames c d.ctrlmode) d d'

theorem Gives.refl (m : MsgNet) : Gives (fun _ _ => []) m m := ⟨rfl, fun _ d hd => ⟨d, hd, .refl d⟩⟩

theorem Gives.trans {f g : ℕ → UInt32 → List RxFrame} {m m' m'' : MsgNet} (h : Gives f m m')
    (h' : Gives g m' m'') : Gives (fun c mode => f c mode ++ g c mode) m m'' := by
  refine ⟨h'.ifaceCount.trans h.ifaceCount, fun c d hd => ?_⟩
  obtain ⟨d', hd', htook⟩ := h.netdev c d hd
  obtain ⟨d'', hd'', htook'⟩ := h'.netdev c d' hd'
  rw [htook.ctrlmode] at htook'
  exact ⟨d'', hd'', htook.trans htook'⟩

theorem Gives.modify {frames : ℕ → UInt32 → List RxFrame} {m : MsgNet} {c : ℕ}
    {f : NetDevice → NetDevice}
    (hself : ∀ d, m.netdev c = some d → Took (frames c d.ctrlmode) d (f d))
    (hother : ∀ c' ≠ c, ∀ mode, frames c' mode = []) : Gives frames m (m.modify c f) := by
  refine ⟨rfl, fun c' d hd => ?_⟩
  by_cases hne : c' = c
  · subst hne
    exact ⟨f d, by rw [MsgNet.modify_self, hd]; rfl, hself d hd⟩
  · refine ⟨d, (MsgNet.modify_of_ne hne ..).trans hd, ?_⟩
    rw [hother c' hne]
    exact .refl d

theorem gives_sendCallback (m : MsgNet) (status : UInt8) :
    Gives (fun _ _ => []) m (m.sendCallback status) := by
  unfold MsgNet.sendCallback
  split
  case isTrue => exact .refl m
  case isFalse =>
    split
    case h_1 c _ =>
      obtain ⟨hcount, hnetdev⟩ := @Gives.modify (fun _ _ => []) m c (MsgNet.netSendCallback status)
        (fun d _ => took_netSendCallback status d) fun _ _ _ => rfl
      exact ⟨hcount, hnetdev⟩
    case h_2 => exact ⟨rfl, fun _ d hd => ⟨d, hd, .refl d⟩⟩

/-! ### A message -/

/-- The frames that are due to channel `c` of `n`. -/
def due (n : ℕ) (msgs : List GuruData) (c : ℕ) (ctrlmode : UInt32) : List RxFrame :=
  if c < n then framesFor c ctrlmode msgs else []

theorem due_singleton (n : ℕ) (msg : GuruData) (c : ℕ) (ctrlmode : UInt32) :
    due n [msg] c ctrlmode = if c < n ∧ IsFor c msg then [decode ctrlmode msg] else [] := by
  by_cases hc : c < n <;> by_cases hfor : IsFor c msg <;> simp [due, framesFor, hc, hfor]

/-- A received frame is given to the channel its first byte names, if it is one of the
device. -/
theorem gives_recvCallback {m : MsgNet} (hcreated : ∀ i < m.ifaceCount, (m.netdev i).isSome = true)
    {msg : GuruData} (hm : msg.id = CAN_MSG_RECV) :
    Gives (due m.ifaceCount [msg]) m (m.recvCallback (canguruNetRecv true) (.ofMsg msg)).1 := by
  by_cases hi : m.ifaceCount ≤ ifaceOf msg
  · have hrecv : (m.recvCallback (canguruNetRecv true) (.ofMsg msg)).1 = m := by
      rw [MsgNet.recvCallback]
      exact congrArg Prod.fst (if_pos hi)
    have hnone : due m.ifaceCount [msg] = fun _ _ => [] := by
      funext c mode
      rw [due_singleton, if_neg]
      rintro ⟨hc, -, rfl⟩
      omega
    rw [hrecv, hnone]
    exact .refl m
  · have hi : ifaceOf msg < m.ifaceCount := Nat.lt_of_not_le hi
    obtain ⟨d, hd⟩ := Option.isSome_iff_exists.mp (hcreated _ hi)
    rw [@MsgNet.recvCallback_some _ _ _ (ifaceOf msg) _ rfl hi hd]
    refine .modify (fun d _ => ?_) fun c hne mode => ?_
    · rw [due_singleton, if_pos ⟨hi, hm, rfl⟩]
      exact took_netRecv msg d
    · rw [due_singleton, if_neg]
      rintro ⟨-, -, hc⟩
      exact hne hc.symm

theorem gives_runCallback {callback : Callback} (h : callback ≠ .canguruRecv)
    (msg : CurrMsg) (s : Drv) :
    Gives (fun _ _ => []) s.can (runCallback true callback msg s).can := by
  cases callback with
  | canguruRecv => exact absurd rfl h
  | canguruSend => exact gives_sendCallback s.can _
  | msgStdFwVersion => exact .refl _
  | canguruStatus => exact .refl _
  | linguruStatus => exact .refl _
  | linguruSend => exact .refl _
  | linguruRecv => exact .refl _
  | linguruVolt => exact .refl _

theorem not_canguruRecv {k : DeviceKind} {msg : GuruData} (hm : msg.id ≠ CAN_MSG_RECV) :
    .canguruRecv ∉ handlersOf k.msgList msg := by
  intro hmem
  obtain ⟨item, hitem, hcallback⟩ := List.mem_filterMap.mp hmem
  obtain ⟨hitem, hmatch⟩ := List.mem_filter.mp hitem
  have hid : ∀ item ∈ k.msgList, item.callback = some .canguruRecv → item.msgId = CAN_MSG_RECV := by
    cases k <;> decide
  exact hm ((of_decide_eq_true hmatch).1.symm.trans (hid item hitem hcallback))

section Run

variable {k : DeviceKind} {n : ℕ} {guru : Guru}

/-- **One message**: the dispatch gives the channel it is for its frame. -/
theorem gives_msg (h : Ready k n guru) (msg : GuruData) :
    Gives (due n [msg]) guru.dev.can (canguruProcessMsgList (runCallback true) guru msg).dev.can := by
  by_cases hm : msg.id = CAN_MSG_RECV
  · rw [processMsgList_can_recv true h.hasCan h.msgList hm, ← h.ifaceCount]
    exact gives_recvCallback (fun i hi => h.created i (h.ifaceCount ▸ hi)) hm
  · have hnone : due n [msg] = fun _ _ => [] := by
      funext c mode
      rw [due_singleton, if_neg fun hfor => hm hfor.2.1]
    have hfold : ∀ (ks : List Callback) (s : Drv), .canguruRecv ∉ ks →
        Gives (fun _ _ => []) s.can (ks.foldl (fun s k => runCallback true k (.ofMsg msg) s) s).can := by
      intro ks
      induction ks with
      | nil => exact fun s _ => .refl s.can
      | cons callback ks ih =>
        intro s hks
        have hhead : callback ≠ .canguruRecv := fun he => hks (he ▸ List.mem_cons_self)
        exact (gives_runCallback hhead _ s).trans (ih _ fun hmem => hks (List.mem_cons_of_mem _ hmem))
    rw [hnone, processMsgList_eq, h.msgList]
    exact hfold _ _ (not_canguruRecv hm)

theorem Ready.msg (h : Ready k n guru) (msg : GuruData) :
    Ready k n (canguruProcessMsgList (runCallback true) guru msg) where
  hasCan := h.hasCan
  msgList := by
    rw [processMsgList_eq]
    exact h.msgList
  ifaceCount := (gives_msg h msg).ifaceCount.trans h.ifaceCount
  created := by
    intro i hi
    obtain ⟨d, hd⟩ := Option.isSome_iff_exists.mp (h.created i hi)
    obtain ⟨d', hd', -⟩ := (gives_msg h msg).netdev i d hd
    rw [hd']
    rfl

/-- **The messages are received**: what is done with them is defined, every channel is
delivered the frames of the messages for it, and no other is delivered anything. -/
structure Received (n : ℕ) (msgs : List GuruData) (guru guru' : Guru) : Prop where
  /-- Nothing undefined happens. -/
  sound : guru'.dev.faults = guru.dev.faults
  /-- Every channel is delivered its frames. -/
  delivered : ∀ i < n, ∃ d d', guru.dev.can.netdev i = some d ∧ guru'.dev.can.netdev i = some d' ∧
    Delivered (framesFor i d.ctrlmode msgs) d d'
  /-- A message for a channel that the device does not have delivers nothing. -/
  others : ∀ i ≥ n, ∀ d, guru.dev.can.netdev i = some d →
    ∃ d', guru'.dev.can.netdev i = some d' ∧ Delivered [] d d'

end Run

/-! ### A CAN Guru -/

end Delivery

end CanGuru
