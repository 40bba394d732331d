import CanGuru.Lib.Machine
import CanGuru.Link.Frames
import CanGuru.Receive.Defined
import CanGuru.Transmit.Sequential

/-!
# The link between the driver and a device

Frames go out of `ndo_start_xmit` and come back as two kinds of message: a status that
completes the frame, and reports of the frame on the channels that see it on the bus. The
driver keeps no number of a frame. What ties a status to its frame is the order of the list
of pending replies, and what ties a report to its channel is one byte.

## The model

A device answers the messages it is sent in order, with any status, and puts a frame on the
bus exactly when the status is `GURU_STATUS_DONE`; `wired c c'` says that channel `c'` sees
what channel `c` sends, which may be `c` itself. It reports a frame to all that see it, at
any later time, in the order of the bus. Its messages reach the driver in order, each as a
bulk transfer of its own. The driver and the device take their steps in any order, and in
between the other bus of the device does what it likes: its channels send, and messages
with any other id are dispatched.

A call of `ndo_start_xmit` of the bus is one step: it is over before its message is answered
and before another call begins. A frame received on the bus has a buffer. And another message
is handled within bounds, as `Drv.Defined` has it: a firmware version fits its buffer, and a
frame of the other bus fits its own. A message whose echo was not kept has no entry in the
list, so that its status would complete another frame: the results are about runs in which
every echo of the bus is kept, `Event.Keeps`.

`Sent` and `Item` remember for a message the frame it is about; neither the driver nor the
device looks at that.

## What is proved

* `link_of_run` — **nothing is lost, duplicated or reordered**: in every state of every run
  every frame that was accepted is answered once, its status goes to its channel, and every
  channel has received, in order, the frames it saw on the bus up to those still on the way.
  Nothing undefined is done.
* `link_drains` — **the link comes to rest**: from every state of every such run the device
  and the driver can take only so many steps, and after them nothing is pending, every queue
  runs, and every channel has received all it saw.
-/

namespace CanGuru

open Machine MsgNet

namespace Link

/-! ### The state -/

/-- A frame that was sent. -/
structure Sent where
  /-- The channel it was sent by. -/
  channel : ℕ
  /-- The mode of the channel. -/
  mode : UInt32
  /-- The frame. -/
  skb : Skb
  /-- Its message. -/
  msg : GuruData

/-- A message of the device. -/
inductive Item where
  /-- The status of a frame. -/
  | status (tx : Sent) (st : UInt8)
  /-- The report of a frame to channel `c`. -/
  | report (tx : Sent) (ts : UInt32) (c : ℕ)

namespace Item

/-- The message. -/
def msg (bus : Bus) : Item → GuruData
  | .status _ st => bus.status st
  | .report tx ts c => bus.report ts c tx.msg

/-- The frame it answers, with its status. -/
def answer : Item → Option (Sent × UInt8)
  | .status tx st => some (tx, st)
  | .report .. => none

/-- The frame it reports to channel `c`. -/
def reportTo (c : ℕ) : Item → Option Sent
  | .status .. => none
  | .report tx _ c' => if c' = c then some tx else none

end Item

/-- The driver, the device, and what is between them. -/
structure St where
  /-- The driver. -/
  guru : Guru
  /-- The messages the device has not answered. -/
  toDevice : List Sent
  /-- The frames on the bus that it has not reported. -/
  onBus : List Sent
  /-- The messages the driver has not received. -/
  toHost : List Item
  /-- The frames whose message was taken. -/
  accepted : List Sent
  /-- The frames that were completed, with their status. -/
  completed : List (Sent × UInt8)
  /-- How many buffers of each channel were dropped as invalid. -/
  invalid : ℕ → ℕ

namespace St

/-- The statuses the driver has not received. -/
def statuses (s : St) : List (Sent × UInt8) := s.toHost.filterMap Item.answer

/-- The reports to channel `c` the driver has not received. -/
def reportsTo (c : ℕ) (s : St) : List Sent := s.toHost.filterMap (Item.reportTo c)

/-- What the device has answered. -/
def answers (s : St) : List (Sent × UInt8) := s.completed ++ s.statuses

/-- The frames that were put on the bus. -/
def transmitted (s : St) : List Sent :=
  (s.answers.filter fun a => a.2 = GURU_STATUS_DONE).map Prod.fst

/-- The frames that are not completed. -/
def owed (s : St) : List Sent := s.statuses.map Prod.fst ++ s.toDevice

/-- The frames of channel `c` that are not completed. -/
def outstanding (c : ℕ) (s : St) : List Skb := (s.owed.filter fun tx => tx.channel = c).map Sent.skb

/-- The statuses of the frames of channel `c`. -/
def statusesOf (c : ℕ) (s : St) : List UInt8 :=
  (s.completed.filter fun a => a.1.channel = c).map Prod.snd

/-- Nothing is on its way. -/
def Quiet (s : St) : Prop := s.toDevice = [] ∧ s.onBus = [] ∧ s.toHost = []

end St

/-! ### The steps -/

/-- The steps. -/
inductive Event where
  /-- `ndo_start_xmit` of channel `c` as a whole. -/
  | xmit (c : ℕ) (skb : Skb) (o : XmitOutcome)
  /-- `ndo_start_xmit` of a channel of the other bus. -/
  | xmitOther (ch : Chan) (skb : Skb) (o : XmitOutcome)
  /-- A message that neither is a status of the bus nor reports a frame on it, and that is
  handled within bounds. -/
  | recvOther (alloc : Bool) (msg : GuruData)
  /-- The device answers a message. -/
  | answer (st : UInt8)
  /-- The device reports a frame. -/
  | report (ts : UInt32)
  /-- The driver receives a message. -/
  | recv

/-- It is the device that takes the step, or the driver by receiving a message. -/
def Event.Busy : Event → Prop
  | .answer _ => True
  | .report _ => True
  | .recv => True
  | _ => False

/-- `can_put_echo_skb` keeps the echo of a call on the bus. -/
def Event.Keeps : Event → Prop
  | .xmit _ _ o => o.oom = false
  | _ => True

/-- A transfer that brings a message. -/
def transfer (m : GuruData) : BulkUrb where
  status := 0
  transferBufferLength := 128
  actualLength := 128
  transferBuffer := m.padded

section Steps

variable (k : DeviceKind) (bus : Bus) (wired : ℕ → ℕ → Bool)

/-- The message layer of a bus becomes `net`. -/
def St.setNet (bus' : Bus) (net : MsgNet) (s : St) : St :=
  { s with guru := { s.guru with dev := s.guru.dev.modifyNet bus' fun _ => net } }

/-- The frames `sent` were accepted, of which there is one or none. -/
def St.accept (sent : List Sent) (s : St) : St :=
  { s with toDevice := s.toDevice ++ sent, accepted := s.accepted ++ sent }

/-- The device answers the first message with `st`, and `rest` remains. -/
def St.answer (tx : Sent) (rest : List Sent) (st : UInt8) (s : St) : St :=
  { s with
    toDevice := rest
    onBus := s.onBus ++ if st = GURU_STATUS_DONE then [tx] else []
    toHost := s.toHost ++ [.status tx st] }

/-- The device reports the first frame to the channels that see it, and `rest` remains. -/
def St.report (tx : Sent) (rest : List Sent) (ts : UInt32) (s : St) : St :=
  { s with
    onBus := rest
    toHost := s.toHost ++ ((List.range (k.count bus)).filter (wired (ifaceOf tx.msg))).map (.report tx ts) }

/-- The driver receives the first message, and `rest` remains. -/
def St.recv (item : Item) (rest : List Item) (s : St) : St :=
  { s with
    guru := (canguruReadBulkCallback (runCallback true) (transfer (item.msg bus)) s.guru).1
    toHost := rest
    completed := s.completed ++ item.answer.toList }

/-- What a step does, where it can happen. -/
def step (s : St) : Event → Option St
  | .xmit c skb o =>
    match (s.guru.dev.net bus).netdev c with
    | none => none
    | some d =>
      if d.up = true ∧ d.queueStopped = false ∧
        (skb.invalid = false → bus.Sendable d.ctrlmode skb.frame) then
        let (net, out) := startXmit bus.send o c skb (s.guru.dev.net bus)
        let s := (s.setNet bus net).accept (out.map (Sent.mk c d.ctrlmode skb))
        some { s with invalid := Function.update s.invalid c (s.invalid c + skb.invalid.toNat) }
      else none
  | .xmitOther ch skb o =>
    if ch.1 = bus then
      none
    else some (s.setNet ch.1 (startXmit ch.1.send o ch.2 skb (s.guru.dev.net ch.1)).1)
  | .recvOther alloc msg =>
    if msg.id ≠ bus.sendId ∧ msg.id ≠ bus.recvId ∧ s.guru.dev.Defined k alloc msg then
      some { s with guru := canguruProcessMsgList (runCallback alloc) s.guru msg }
    else none
  | .answer st =>
    match s.toDevice with
    | [] => none
    | tx :: rest => some (s.answer tx rest st)
  | .report ts =>
    match s.onBus with
    | [] => none
    | tx :: rest => some (s.report k bus wired tx rest ts)
  | .recv =>
    match s.toHost with
    | [] => none
    | item :: rest => some (s.recv bus item rest)

/-- Channels that are open and have sent and received nothing. -/
structure Start (s : St) : Prop where
  /-- The device has channels of the bus. -/
  hasBus : bus.of k = true
  /-- Its handlers are registered. -/
  msgList : s.guru.msgList = k.msgList
  /-- Nothing undefined was done. -/
  defined : s.guru.dev.faults = []
  /-- It has its channels. -/
  ifaceCount : (s.guru.dev.net bus).ifaceCount = k.count bus
  /-- They are created, and no others. -/
  created : ∀ c, c < k.count bus ↔ ((s.guru.dev.net bus).netdev c).isSome = true
  /-- Each knows its number, and its queue runs. -/
  running : ∀ c d, (s.guru.dev.net bus).netdev c = some d → d.channelIdx.toNat = c ∧
    d.queueStopped = false
  /-- They have sent and dropped nothing. -/
  unused : ∀ c d, (s.guru.dev.net bus).netdev c = some d → d.echoSkb = none ∧ d.sentQueue = [] ∧
    d.completedQueue = [] ∧ d.stats.txPackets = 0 ∧ d.stats.txErrors = 0 ∧ d.stats.txDropped = 0 ∧
      d.disposed = []
  /-- They have received nothing. -/
  empty : ∀ c d, (s.guru.dev.net bus).netdev c = some d → d.rx = [] ∧ d.stats.rxPackets = 0 ∧
    d.stats.rxBytes = 0
  /-- No reply is pending. -/
  pending : (s.guru.dev.net bus).Pending []
  /-- Nothing is on its way, and nothing was. -/
  quiet : s.Quiet
  /-- Nothing was submitted, completed or dropped. -/
  fresh : s.accepted = [] ∧ s.completed = [] ∧ ∀ c, s.invalid c = 0

/-! ### What is to be shown -/

/-- The frames among `txs` that channel `c` in mode `ctrlmode` sees on the bus. -/
def seenBy (c : ℕ) (ctrlmode : UInt32) (txs : List Sent) : List Frame :=
  (txs.filter fun tx => wired tx.channel c).map fun tx => bus.carried tx.mode ctrlmode tx.skb.frame

/-- What a channel shows of the frames it has sent and seen. -/
structure Account (s : St) (c : ℕ) (d : NetDevice) : Prop where
  /-- Its queue is stopped exactly while a frame is outstanding. -/
  stopped : d.queueStopped = true ↔ s.outstanding c ≠ []
  /-- That frame is the echo in the slot. -/
  echoSkb : d.echoSkb = (s.outstanding c).head?
  /-- There is at most one. -/
  one : (s.outstanding c).length ≤ 1
  /-- What was reported to the byte queue as sent and not as completed is the length of it. -/
  bytes : ∃ done : List ℕ, d.completedQueue = done.map some ∧
    d.sentQueue.sum = done.sum + ((s.outstanding c).map Skb.frameLen).sum
  /-- The frames with the status `GURU_STATUS_DONE`. -/
  txPackets : d.stats.txPackets = (s.statusesOf c).countP fun st => st = GURU_STATUS_DONE
  /-- The frames with the status `GURU_STATUS_ERROR`. -/
  txErrors : d.stats.txErrors = (s.statusesOf c).countP fun st => st = GURU_STATUS_ERROR
  /-- The frames with another status, and the buffers dropped as invalid. -/
  txDropped : d.stats.txDropped =
    ((s.statusesOf c).countP fun st => st ≠ GURU_STATUS_DONE ∧ st ≠ GURU_STATUS_ERROR) + s.invalid c
  /-- What it has received, what is on the way to it and what is still to be reported to it is,
  in order, what it saw on the bus. -/
  received : d.rx.map RxFrame.frame ++
      (s.reportsTo c).map (fun tx => bus.carried tx.mode d.ctrlmode tx.skb.frame) ++
      seenBy bus wired c d.ctrlmode s.onBus =
    seenBy bus wired c d.ctrlmode s.transmitted
  /-- The counters are those of what it has received. -/
  rxCount : d.stats.rxPackets = d.rx.length ∧ d.stats.rxBytes = (d.rx.map RxFrame.copied).sum

/-- **The link works.** -/
structure Agrees (s : St) : Prop where
  /-- Every frame that was accepted is completed, or its status is on the way, or it is not
  answered yet: once, and in this order. -/
  once : s.accepted = s.completed.map Prod.fst ++ s.statuses.map Prod.fst ++ s.toDevice
  /-- The list of pending replies is that of the channels of the frames not completed. -/
  pending : (s.guru.dev.net bus).Pending (s.owed.map Sent.channel)
  /-- Nothing undefined was done. -/
  defined : s.guru.dev.faults = []
  /-- What the channels show. -/
  account : ∀ c d, (s.guru.dev.net bus).netdev c = some d → Account bus wired s c d

end Steps

/-! ### One channel -/

section Channel

variable {bus : Bus} {wired : ℕ → ℕ → Bool} {c : ℕ}

/-- What a channel has received, by the reports on the way to it, the frames on the bus, and
the frames that were put on it. -/
structure Received (bus : Bus) (wired : ℕ → ℕ → Bool) (c : ℕ)
    (reports onBus transmitted : List Sent) (d : NetDevice) : Prop where
  /-- The frames it saw. -/
  frames : d.rx.map RxFrame.frame ++
    reports.map (fun tx => bus.carried tx.mode d.ctrlmode tx.skb.frame) ++
    seenBy bus wired c d.ctrlmode onBus = seenBy bus wired c d.ctrlmode transmitted
  /-- The counters. -/
  count : d.stats.rxPackets = d.rx.length ∧ d.stats.rxBytes = (d.rx.map RxFrame.copied).sum

/-- The receiving side of a channel is left alone. -/
structure KeepsRx (d d' : NetDevice) : Prop where
  /-- The number. -/
  channelIdx : d'.channelIdx = d.channelIdx
  /-- The mode. -/
  ctrlmode : d'.ctrlmode = d.ctrlmode
  /-- The frames. -/
  rx : d'.rx = d.rx
  /-- Their number. -/
  rxPackets : d'.stats.rxPackets = d.stats.rxPackets
  /-- Their bytes. -/
  rxBytes : d'.stats.rxBytes = d.stats.rxBytes

theorem keepsRx_send {d : NetDevice} {skb : Skb} (h : d.echoSkb = some skb) (st : UInt8) :
    KeepsRx d (netSendCallback st d) := by
  rw [netSendCallback_of_echo h]
  refine ⟨rfl, rfl, rfl, ?_, ?_⟩
  · simp only [countStatus]
    split_ifs <;> rfl
  · simp only [countStatus]
    split_ifs <;> rfl

theorem seenBy_append (c : ℕ) (ctrlmode : UInt32) (txs txs' : List Sent) :
    seenBy bus wired c ctrlmode (txs ++ txs') = seenBy bus wired c ctrlmode txs ++
      seenBy bus wired c ctrlmode txs' := by
  simp only [seenBy, List.filter_append, List.map_append]

variable {reports onBus transmitted : List Sent} {d : NetDevice}

theorem Received.keep (h : Received bus wired c reports onBus transmitted d) {d' : NetDevice}
    (hk : KeepsRx d d') : Received bus wired c reports onBus transmitted d' := by
  obtain ⟨-, hmode, hrx, hpackets, hbytes⟩ := hk
  obtain ⟨hframes, hcount⟩ := h
  constructor
  · rw [hmode, hrx, hframes]
  · rw [hpackets, hbytes, hrx]
    exact hcount

theorem Received.put (h : Received bus wired c reports onBus transmitted d) (txs : List Sent) :
    Received bus wired c reports (onBus ++ txs) (transmitted ++ txs) d := by
  refine ⟨?_, h.count⟩
  rw [seenBy_append, seenBy_append, ← h.frames, List.append_assoc _ (seenBy ..) (seenBy ..)]

theorem Received.report {tx : Sent} (h : Received bus wired c reports (tx :: onBus) transmitted d) :
    Received bus wired c (reports ++ if wired tx.channel c then [tx] else []) onBus
      transmitted d := by
  refine ⟨?_, h.count⟩
  rw [← h.frames]
  by_cases hw : wired tx.channel c = true
  · simp [seenBy, hw]
  · simp [seenBy, hw]

theorem Received.recv {tx : Sent} (h : Received bus wired c (tx :: reports) onBus transmitted d)
    (ts : UInt32) : Received bus wired c reports onBus transmitted
      (d.netifRx (bus.rxFrame tx.mode d.ctrlmode tx.skb.frame ts) tx.skb.frame.len) := by
  obtain ⟨hframes, hpackets, hbytes⟩ := h
  refine ⟨?_, ?_, ?_⟩
  · refine Eq.trans ?_ hframes
    simp [NetDevice.netifRx, Bus.rxFrame]
  · simp [NetDevice.netifRx, hpackets]
  · simp [NetDevice.netifRx, Bus.rxFrame, hbytes]

/-- A received frame does not touch the sending side. -/
theorem Chan.recv {out : List Skb} {sts : List UInt8} {submitted invalid : ℕ}
    (h : Sequential.Chan out sts submitted invalid d) (f : RxFrame) (n : ℕ) :
    Sequential.Chan out sts submitted invalid (d.netifRx f n) :=
  ⟨h.stopped, h.echoSkb, h.one, h.put, h.bytes, h.stats, h.submitted⟩

end Channel

/-! ### The invariant -/

section Invariant

variable (k : DeviceKind) (bus : Bus) (wired : ℕ → ℕ → Bool)

/-- The message of a frame conveys it. -/
def Sent.Ok (tx : Sent) : Prop := bus.Conveys tx.channel tx.mode tx.skb.frame tx.msg

/-- The sending side of channel `c`. -/
abbrev Sending (s : St) (c : ℕ) (d : NetDevice) : Prop :=
  Sequential.Chan (s.outstanding c) (s.statusesOf c) ((s.statusesOf c).length +
    (s.outstanding c).length) (s.invalid c) d

/-- The receiving side of channel `c`. -/
abbrev Receiving (s : St) (c : ℕ) (d : NetDevice) : Prop :=
  Received bus wired c (s.reportsTo c) s.onBus s.transmitted d

/-- The invariant. -/
structure Inv (s : St) : Prop where
  /-- The device has channels of the bus. -/
  hasBus : bus.of k = true
  /-- Its handlers are registered. -/
  msgList : s.guru.msgList = k.msgList
  /-- Nothing undefined was done. -/
  defined : s.guru.dev.faults = []
  /-- It has its channels. -/
  ifaceCount : (s.guru.dev.net bus).ifaceCount = k.count bus
  /-- They are created, and no others. -/
  created : ∀ c, c < k.count bus ↔ ((s.guru.dev.net bus).netdev c).isSome = true
  /-- Each knows its number. -/
  channelIdx : ∀ c d, (s.guru.dev.net bus).netdev c = some d → d.channelIdx.toNat = c
  /-- The messages convey their frames. -/
  sent : ∀ tx ∈ s.toDevice ++ s.onBus, tx.Ok bus
  /-- The reports are of such messages, and for channels that are created. -/
  reports : ∀ tx ts c, Item.report tx ts c ∈ s.toHost → tx.Ok bus ∧ c < k.count bus
  /-- Every frame that was accepted is somewhere, once. -/
  once : s.accepted = s.answers.map Prod.fst ++ s.toDevice
  /-- The list is that of the channels of the frames not completed. -/
  pending : (s.guru.dev.net bus).Pending (s.owed.map Sent.channel)
  /-- The sending sides. -/
  sending : ∀ c d, (s.guru.dev.net bus).netdev c = some d → Sending s c d
  /-- The receiving sides. -/
  receiving : ∀ c d, (s.guru.dev.net bus).netdev c = some d → Receiving bus wired s c d

end Invariant

section

variable {k : DeviceKind} {bus : Bus} {wired : ℕ → ℕ → Bool} {s s' : St}

theorem Start.inv (h : Start k bus s) : Inv k bus wired s where
  hasBus := h.hasBus
  msgList := h.msgList
  defined := h.defined
  ifaceCount := h.ifaceCount
  created := h.created
  channelIdx := fun c d hd => (h.running c d hd).1
  sent := by simp [h.quiet.1, h.quiet.2.1]
  reports := by simp [h.quiet.2.2]
  once := by simp [h.fresh.1, h.fresh.2.1, h.quiet.1, h.quiet.2.2, St.answers, St.statuses]
  pending := by
    have howed : s.owed = [] := by simp [St.owed, St.statuses, h.quiet.1, h.quiet.2.2]
    rw [howed]
    exact h.pending
  sending := by
    intro c d hd
    obtain ⟨hsent, hcompleted, hbq, hp, herr, hdrop, hdisposed⟩ := h.unused c d hd
    have howed : s.outstanding c = [] := by
      simp [St.outstanding, St.owed, St.statuses, h.quiet.1, h.quiet.2.2]
    have hsts : s.statusesOf c = [] := by simp [St.statusesOf, h.fresh.2.1]
    rw [Sending, howed, hsts, h.fresh.2.2]
    refine ⟨?_, hsent, Nat.zero_le _, ?_, ⟨[], hbq, ?_⟩, ⟨hp, herr, hdrop⟩, rfl⟩
    · simp [(h.running c d hd).2]
    · simp [hdisposed]
    · simp [hcompleted]
  receiving := by
    intro c d hd
    obtain ⟨hrx, hpackets, hbytes⟩ := h.empty c d hd
    refine ⟨?_, ?_, ?_⟩
    · simp [hrx, St.reportsTo, St.transmitted, St.answers, St.statuses, h.quiet.2.1, h.quiet.2.2,
        h.fresh.2.1]
    · rw [hpackets, hrx, List.length_nil]
    · rw [hbytes, hrx, List.map_nil, List.sum_nil]

/-- **The invariant gives the property.** -/
theorem Inv.agrees (h : Inv k bus wired s) : Agrees bus wired s where
  once := by rw [h.once, St.answers, List.map_append]
  pending := h.pending
  defined := h.defined
  account := by
    intro c d hd
    obtain ⟨hstopped, he, hone, -, hbytes, ⟨hp, herr, hdrop⟩, -⟩ := h.sending c d hd
    obtain ⟨hframes, hcount⟩ := h.receiving c d hd
    exact ⟨hstopped, he, hone, hbytes, hp, herr, hdrop, hframes, hcount⟩

/-! ### The device -/

theorem Inv.answer (h : Inv k bus wired s) {st : UInt8}
    (hs : step k bus wired s (.answer st) = some s') : Inv k bus wired s' := by
  rw [step] at hs
  split at hs
  case h_1 => cases hs
  case h_2 tx rest hq =>
    obtain rfl := Option.some.inj hs
    have hstatuses : (s.answer tx rest st).statuses = s.statuses ++ [(tx, st)] := by
      simp [St.statuses, St.answer, Item.answer]
    have hanswers : (s.answer tx rest st).answers = s.answers ++ [(tx, st)] := by
      rw [St.answers, hstatuses, ← List.append_assoc]
      rfl
    have howed : (s.answer tx rest st).owed = s.owed := by
      rw [St.owed, hstatuses, St.owed, hq]
      simp [St.answer]
    have htransmitted : (s.answer tx rest st).transmitted =
        s.transmitted ++ if st = GURU_STATUS_DONE then [tx] else [] := by
      rw [St.transmitted, hanswers, List.filter_append, List.map_append, St.transmitted]
      by_cases hdone : st = GURU_STATUS_DONE <;> simp [hdone]
    have hreports : ∀ c, (s.answer tx rest st).reportsTo c = s.reportsTo c := fun c => by
      simp [St.reportsTo, St.answer, Item.reportTo]
    exact
      { h with
        sent := by
          intro tx' htx'
          have hall := h.sent
          rw [hq] at hall
          apply hall
          rcases List.mem_append.mp htx' with hmem | hmem
          · exact List.mem_append_left _ (List.mem_cons_of_mem _ hmem)
          · rcases List.mem_append.mp hmem with hmem | hmem
            · exact List.mem_append_right _ hmem
            · split_ifs at hmem
              · rw [List.mem_singleton.mp hmem]
                exact List.mem_append_left _ List.mem_cons_self
              · cases hmem
        reports := by
          intro tx' ts c hmem
          rcases List.mem_append.mp hmem with hmem | hmem
          · exact h.reports tx' ts c hmem
          · cases List.mem_singleton.mp hmem
        once := by
          rw [hanswers, List.map_append, List.append_assoc]
          exact h.once.trans (by rw [hq]; rfl)
        pending := by
          rw [howed]
          exact h.pending
        sending := by
          intro c d hd
          have hout : (s.answer tx rest st).outstanding c = s.outstanding c := by
            rw [St.outstanding, howed, St.outstanding]
          rw [Sending, hout]
          exact h.sending c d hd
        receiving := by
          intro c d hd
          rw [Receiving, hreports, htransmitted]
          exact (h.receiving c d hd).put _ }

/-- Of the channels that see a frame, at most one is channel `c`. -/
theorem filterMap_range (p : ℕ → Bool) (n c : ℕ) (tx : Sent) :
    ((List.range n).filter p).filterMap (fun c' => if c' = c then some tx else none) =
      if c < n ∧ p c = true then [tx] else [] := by
  induction n with
  | zero => simp
  | succ n ih =>
    rw [List.range_succ, List.filter_append, List.filterMap_append, ih]
    by_cases hc : c = n
    · subst hc
      cases hp : p c <;> simp [hp]
    · have hlt : c < n + 1 ↔ c < n := by omega
      have hne : n ≠ c := fun h => hc h.symm
      cases hp : p n <;> simp [hp, hlt, hne]

theorem Inv.report (h : Inv k bus wired s) {ts : UInt32}
    (hs : step k bus wired s (.report ts) = some s') : Inv k bus wired s' := by
  rw [step] at hs
  split at hs
  case h_1 => cases hs
  case h_2 tx rest hq =>
    obtain rfl := Option.some.inj hs
    have hsent : ∀ tx' ∈ s.toDevice ++ tx :: rest, tx'.Ok bus := hq ▸ h.sent
    have htx : tx.Ok bus := hsent tx (List.mem_append_right _ List.mem_cons_self)
    have hstatuses : (s.report k bus wired tx rest ts).statuses = s.statuses := by
      have hnone : ∀ l : List ℕ, (l.map (Item.report tx ts)).filterMap Item.answer = [] := by
        intro l
        induction l with
        | nil => rfl
        | cons c l ih => exact ih
      rw [St.statuses, St.report, List.filterMap_append, hnone, List.append_nil]
      rfl
    have hreports : ∀ c < k.count bus, (s.report k bus wired tx rest ts).reportsTo c =
        s.reportsTo c ++ if wired tx.channel c then [tx] else [] := by
      intro c hc
      have hto : Item.reportTo c ∘ Item.report tx ts = fun c' =>
        if c' = c then some tx else none := rfl
      rw [St.reportsTo, St.report, List.filterMap_append, List.filterMap_map, hto,
        filterMap_range, htx.iface]
      simp [hc, St.reportsTo]
    have hanswers : (s.report k bus wired tx rest ts).answers = s.answers := by
      rw [St.answers, hstatuses]
      rfl
    have howed : (s.report k bus wired tx rest ts).owed = s.owed := by
      rw [St.owed, hstatuses]
      rfl
    exact
      { h with
        sent := by
          intro tx' htx'
          rcases List.mem_append.mp htx' with hmem | hmem
          · exact hsent tx' (List.mem_append_left _ hmem)
          · exact hsent tx' (List.mem_append_right _ (List.mem_cons_of_mem _ hmem))
        reports := by
          intro tx' ts' c hmem
          rcases List.mem_append.mp hmem with hmem | hmem
          · exact h.reports tx' ts' c hmem
          · obtain ⟨c', hc', hitem⟩ := List.mem_map.mp hmem
            obtain ⟨rfl, rfl, rfl⟩ := Item.report.inj hitem
            exact ⟨htx, List.mem_range.mp (List.mem_filter.mp hc').1⟩
        once := by
          rw [hanswers]
          exact h.once
        pending := by
          rw [howed]
          exact h.pending
        sending := by
          intro c d hd
          have hout : (s.report k bus wired tx rest ts).outstanding c = s.outstanding c := by
            rw [St.outstanding, howed, St.outstanding]
          rw [Sending, hout]
          exact h.sending c d hd
        receiving := by
          intro c d hd
          have hc : c < k.count bus := (h.created c).mpr (hd ▸ rfl)
          have hchan := h.receiving c d hd
          rw [Receiving, hq] at hchan
          rw [Receiving, hreports c hc, St.transmitted, hanswers]
          exact hchan.report }

/-! ### The driver receives -/

/-- A transfer of a message that fits is its dispatch. -/
theorem readBulkCallback_transfer {m : GuruData} (hm : m.data.length ≤ GURU_MAX_DATA_SIZE)
    (guru : Guru) : (canguruReadBulkCallback (runCallback true) (transfer m) guru).1 =
      canguruProcessMsgList (runCallback true) guru (.ofBytes m.padded) := by
  rw [readBulkCallback_ok _ _ rfl rfl]
  have htake : (transfer m).transferBuffer.take GURU_DATA_SIZE = m.padded :=
    List.take_of_length_le (length_padded hm).le
  rw [htake]

theorem Inv.recvStatus (h : Inv k bus wired s) {tx : Sent} {st : UInt8} {rest : List Item}
    (hq : s.toHost = .status tx st :: rest) :
    Inv k bus wired (s.recv bus (.status tx st) rest) := by
  have hguru : (s.recv bus (.status tx st) rest).guru =
      canguruProcessMsgList (runCallback true) s.guru (.ofBytes (bus.status st).padded) :=
    @readBulkCallback_transfer (bus.status st) (show 1 ≤ GURU_MAX_DATA_SIZE by decide) s.guru
  have hlist : (s.recv bus (.status tx st) rest).guru.msgList = s.guru.msgList := by
    rw [hguru, dispatch_msgList]
  have howed : s.owed = tx :: (s.recv bus (.status tx st) rest).owed := by
    simp [St.owed, St.statuses, hq, Item.answer, St.recv]
  have hpending :
      (s.guru.dev.net bus).Pending (tx.channel :: (s.recv bus (.status tx st) rest).owed.map Sent.channel) := by
    have hp := h.pending
    rwa [howed] at hp
  have hnet : (s.recv bus (.status tx st) rest).guru.dev.net bus =
      ((s.guru.dev.net bus).modify tx.channel (netSendCallback st)).delReply tx.channel := by
    rw [hguru, dispatch_status h.hasBus h.msgList, Drv.modifyNet_self, hpending.sendCallback_cons]
  have hfaults : (s.recv bus (.status tx st) rest).guru.dev.faults = s.guru.dev.faults := by
    rw [hguru, dispatch_status h.hasBus h.msgList, Drv.modifyNet_faults]
  have hanswers : (s.recv bus (.status tx st) rest).answers = s.answers := by
    simp [St.answers, St.statuses, St.recv, hq, Item.answer]
  have hreports : ∀ c, (s.recv bus (.status tx st) rest).reportsTo c = s.reportsTo c := fun c => by
    simp [St.reportsTo, St.recv, hq, List.filterMap_cons, Item.reportTo]
  constructor
  case hasBus => exact h.hasBus
  case msgList => exact hlist.trans h.msgList
  case defined => exact hfaults.trans h.defined
  case ifaceCount =>
    rw [hnet]
    exact h.ifaceCount
  case created =>
    intro c
    rw [h.created c, hnet, delReply_netdev, modify_isSome]
  case channelIdx =>
    intro c d hd
    rw [hnet, delReply_netdev] at hd
    obtain ⟨rfl, d₀, hd₀, rfl⟩ | ⟨-, hd⟩ := modify_eq_some.mp hd
    · have he : d₀.echoSkb = (s.outstanding tx.channel).head? := (h.sending _ d₀ hd₀).echoSkb
      have hecho : d₀.echoSkb = some tx.skb := by
        rw [he, St.outstanding, howed]
        simp
      have hk : KeepsRx d₀ (netSendCallback st d₀) := keepsRx_send hecho st
      rw [hk.channelIdx]
      exact h.channelIdx _ d₀ hd₀
    · exact h.channelIdx c d hd
  case sent => exact h.sent
  case reports =>
    intro tx' ts c hmem
    exact h.reports tx' ts c (hq ▸ List.mem_cons_of_mem _ hmem)
  case once =>
    rw [hanswers]
    exact h.once
  case pending =>
    rw [hnet]
    exact Pending.delReply (modify_pending.mpr hpending)
  case sending =>
    intro c d hd
    rw [hnet, delReply_netdev] at hd
    obtain ⟨rfl, d₀, hd₀, rfl⟩ | ⟨hne, hd⟩ := modify_eq_some.mp hd
    · have hchan := h.sending _ d₀ hd₀
      -- The frame is the only one of the channel.
      have hout :
          s.outstanding tx.channel = tx.skb ::
          (s.recv bus (.status tx st) rest).outstanding tx.channel := by
        rw [St.outstanding, howed]
        simp [St.outstanding]
      have hnone : (s.recv bus (.status tx st) rest).outstanding tx.channel = [] := by
        have hlen := hchan.one
        rw [hout, List.length_cons] at hlen
        exact List.length_eq_zero_iff.mp (by omega)
      have hsts : (s.recv bus (.status tx st) rest).statusesOf tx.channel =
          s.statusesOf tx.channel ++ [st] := by
        simp [St.statusesOf, St.recv, Item.answer]
      have hinvalid : (s.recv bus (.status tx st) rest).invalid = s.invalid := rfl
      rw [Sending, hout, hnone] at hchan
      rw [Sending, hnone, hsts, hinvalid]
      simpa using hchan.answer st
    · have hout : (s.recv bus (.status tx st) rest).outstanding c = s.outstanding c := by
        rw [St.outstanding, St.outstanding, howed]
        simp [Ne.symm hne]
      have hsts : (s.recv bus (.status tx st) rest).statusesOf c = s.statusesOf c := by
        simp [St.statusesOf, St.recv, Item.answer, Ne.symm hne]
      rw [Sending, hout, hsts]
      exact h.sending c d hd
  case receiving =>
    intro c d hd
    rw [hnet, delReply_netdev] at hd
    rw [Receiving, hreports, St.transmitted, hanswers]
    obtain ⟨rfl, d₀, hd₀, rfl⟩ | ⟨-, hd⟩ := modify_eq_some.mp hd
    · have he : d₀.echoSkb = some tx.skb := by
        rw [(h.sending _ d₀ hd₀).echoSkb, St.outstanding, howed]
        simp
      exact (h.receiving _ d₀ hd₀).keep (keepsRx_send he st)
    · exact h.receiving c d hd

theorem Inv.recvReport (h : Inv k bus wired s) {tx : Sent} {ts : UInt32} {c : ℕ} {rest : List Item}
    (hq : s.toHost = .report tx ts c :: rest) :
    Inv k bus wired (s.recv bus (.report tx ts c) rest) := by
  obtain ⟨htx, hc⟩ := h.reports tx ts c (hq ▸ List.mem_cons_self)
  obtain ⟨d, hd⟩ := Option.isSome_iff_exists.mp ((h.created c).mp hc)
  have hidx : c < 256 := h.channelIdx c d hd ▸ d.channelIdx.toNat_lt
  have hguru : (s.recv bus (.report tx ts c) rest).guru =
      canguruProcessMsgList (runCallback true) s.guru (.ofBytes (bus.report ts c tx.msg).padded) :=
    readBulkCallback_transfer (htx.fits ts c) s.guru
  have hlist : (s.recv bus (.report tx ts c) rest).guru.msgList = s.guru.msgList := by
    rw [hguru, dispatch_msgList]
  have hnet : (s.recv bus (.report tx ts c) rest).guru.dev.net bus = (s.guru.dev.net bus).modify c
      (.netifRx (bus.rxFrame tx.mode d.ctrlmode tx.skb.frame ts) tx.skb.frame.len) := by
    rw [hguru, dispatch_report h.hasBus h.msgList htx hidx (h.ifaceCount ▸ hc) hd,
      Drv.modifyNet_self]
  have hfaults : (s.recv bus (.report tx ts c) rest).guru.dev.faults = s.guru.dev.faults := by
    rw [hguru, dispatch_report h.hasBus h.msgList htx hidx (h.ifaceCount ▸ hc) hd,
      Drv.modifyNet_faults]
  have hstatuses : (s.recv bus (.report tx ts c) rest).statuses = s.statuses := by
    simp [St.statuses, St.recv, hq, List.filterMap_cons, Item.answer]
  have hcompleted : (s.recv bus (.report tx ts c) rest).completed = s.completed := List.append_nil _
  have hanswers : (s.recv bus (.report tx ts c) rest).answers = s.answers := by
    rw [St.answers, hstatuses, hcompleted, St.answers]
  have howed : (s.recv bus (.report tx ts c) rest).owed = s.owed := by
    rw [St.owed, hstatuses]
    rfl
  constructor
  case hasBus => exact h.hasBus
  case msgList => exact hlist.trans h.msgList
  case defined => exact hfaults.trans h.defined
  case ifaceCount =>
    rw [hnet]
    exact h.ifaceCount
  case created =>
    intro c'
    rw [h.created c', hnet, modify_isSome]
  case channelIdx =>
    intro c' d' hd'
    rw [hnet] at hd'
    obtain ⟨rfl, d₀, hd₀, rfl⟩ | ⟨-, hd'⟩ := modify_eq_some.mp hd'
    · exact h.channelIdx _ d₀ hd₀
    · exact h.channelIdx c' d' hd'
  case sent => exact h.sent
  case reports =>
    intro tx' ts' c' hmem
    exact h.reports tx' ts' c' (hq ▸ List.mem_cons_of_mem _ hmem)
  case once =>
    rw [hanswers]
    exact h.once
  case pending =>
    rw [hnet, howed]
    exact h.pending
  case sending =>
    intro c' d' hd'
    have hsending : ∀ d, Sending (s.recv bus (.report tx ts c) rest) c' d ↔ Sending s c' d := by
      intro d
      simp only [Sending, St.outstanding, howed, St.statusesOf, hcompleted]
      rfl
    rw [hsending]
    rw [hnet] at hd'
    obtain ⟨rfl, d₀, hd₀, rfl⟩ | ⟨-, hd'⟩ := modify_eq_some.mp hd'
    · exact Chan.recv (h.sending _ d₀ hd₀) _ _
    · exact h.sending c' d' hd'
  case receiving =>
    intro c' d' hd'
    rw [hnet] at hd'
    rw [Receiving, St.transmitted, hanswers]
    obtain ⟨rfl, d₀, hd₀, rfl⟩ | ⟨hne, hd'⟩ := modify_eq_some.mp hd'
    · obtain rfl := Option.some.inj (hd.symm.trans hd₀)
      have hreports : s.reportsTo c' = tx :: (s.recv bus (.report tx ts c') rest).reportsTo c' := by
        simp [St.reportsTo, St.recv, hq, Item.reportTo]
      have hchan := h.receiving c' d hd
      rw [Receiving, hreports] at hchan
      exact hchan.recv ts
    · have hreports : (s.recv bus (.report tx ts c) rest).reportsTo c' = s.reportsTo c' := by
        simp [St.reportsTo, St.recv, hq, Item.reportTo, Ne.symm hne]
      rw [hreports]
      exact h.receiving c' d' hd'

theorem Inv.recv (h : Inv k bus wired s) (hs : step k bus wired s .recv = some s') :
    Inv k bus wired s' := by
  rw [step] at hs
  split at hs
  case h_1 => cases hs
  case h_2 item rest hq =>
    obtain rfl := Option.some.inj hs
    cases item with
    | status tx st => exact h.recvStatus hq
    | report tx ts c => exact h.recvReport hq

/-! ### The driver sends -/

/-- What leaves the message layer of the bus and the handlers alone, and does nothing undefined,
keeps the invariant. -/
theorem Inv.other (h : Inv k bus wired s) {guru : Guru} (hlist : guru.msgList = s.guru.msgList)
    (hfaults : guru.dev.faults = s.guru.dev.faults) (hnet : guru.dev.net bus = s.guru.dev.net bus) :
    Inv k bus wired { s with guru := guru } :=
  { h with
    msgList := hlist.trans h.msgList
    defined := hfaults.trans h.defined
    ifaceCount := hnet ▸ h.ifaceCount
    created := hnet ▸ h.created
    channelIdx := hnet ▸ h.channelIdx
    pending := hnet ▸ h.pending
    sending := hnet ▸ h.sending
    receiving := hnet ▸ h.receiving }

theorem Inv.quiet (h : Inv k bus wired s) {c : ℕ} {d : NetDevice} {f : NetDevice → NetDevice}
    {invalid : ℕ → ℕ} (hd : (s.guru.dev.net bus).netdev c = some d) (hrx : KeepsRx d (f d))
    (htx : Sequential.Chan (s.outstanding c) (s.statusesOf c) ((s.statusesOf c).length + (s.outstanding c).length)
      (invalid c) (f d)) (hinvalid : ∀ c' ≠ c, invalid c' = s.invalid c') :
    Inv k bus wired { s.setNet bus ((s.guru.dev.net bus).modify c f) with invalid := invalid } := by
  have hnet : (s.setNet bus ((s.guru.dev.net bus).modify c f)).guru.dev.net bus =
      (s.guru.dev.net bus).modify c f :=
    Drv.modifyNet_self ..
  constructor
  case hasBus => exact h.hasBus
  case msgList => exact h.msgList
  case defined => exact (Drv.modifyNet_faults bus _ _).trans h.defined
  case ifaceCount =>
    rw [hnet]
    exact h.ifaceCount
  case created =>
    intro c'
    rw [h.created c', hnet, modify_isSome]
  case channelIdx =>
    intro c' d' hd'
    rw [hnet] at hd'
    obtain ⟨rfl, d₀, hd₀, rfl⟩ | ⟨-, hd'⟩ := modify_eq_some.mp hd'
    · obtain rfl := Option.some.inj (hd.symm.trans hd₀)
      exact hrx.channelIdx ▸ h.channelIdx c' d hd
    · exact h.channelIdx c' d' hd'
  case sent => exact h.sent
  case reports => exact h.reports
  case once => exact h.once
  case pending =>
    rw [hnet]
    exact h.pending
  case sending =>
    intro c' d' hd'
    rw [hnet] at hd'
    obtain ⟨rfl, d₀, hd₀, rfl⟩ | ⟨hne, hd'⟩ := modify_eq_some.mp hd'
    · obtain rfl := Option.some.inj (hd.symm.trans hd₀)
      exact htx
    · have hchan := h.sending c' d' hd'
      rw [Sending, ← hinvalid c' hne] at hchan
      exact hchan
  case receiving =>
    intro c' d' hd'
    rw [hnet] at hd'
    obtain ⟨rfl, d₀, hd₀, rfl⟩ | ⟨-, hd'⟩ := modify_eq_some.mp hd'
    · obtain rfl := Option.some.inj (hd.symm.trans hd₀)
      exact (h.receiving c' d hd).keep hrx
    · exact h.receiving c' d' hd'

/-- A frame is sent, and nothing of its channel is outstanding. -/
theorem Inv.accept (h : Inv k bus wired s) {tx : Sent} {d : NetDevice} (htx : tx.Ok bus)
    (hd : (s.guru.dev.net bus).netdev tx.channel = some d) (hout : s.outstanding tx.channel = []) :
    Inv k bus wired ((s.setNet bus (((s.guru.dev.net bus).modify tx.channel .netifStopQueue).registered tx.channel
      tx.skb)).accept [tx]) := by
  set net :=
    ((s.guru.dev.net bus).modify tx.channel .netifStopQueue).registered tx.channel
      tx.skb with hnetdef
  have hnet : ((s.setNet bus net).accept [tx]).guru.dev.net bus = net := Drv.modifyNet_self ..
  have howed : ((s.setNet bus net).accept [tx]).owed = s.owed ++ [tx] := (List.append_assoc ..).symm
  have hnetdev : ∀ {c d'}, net.netdev c = some d' → (c = tx.channel ∧
      d' = (d.netifStopQueue.putEcho tx.skb).netdevSentQueue tx.skb.frameLen) ∨
        c ≠ tx.channel ∧ (s.guru.dev.net bus).netdev c = some d' := by
    intro c d' hd'
    by_cases hc : c = tx.channel
    · subst hc
      rw [hnetdef, registered_self, modify_self, hd] at hd'
      exact .inl ⟨rfl, (Option.some.inj hd').symm⟩
    · rw [hnetdef, registered_of_ne hc, modify_of_ne hc] at hd'
      exact .inr ⟨hc, hd'⟩
  constructor
  case hasBus => exact h.hasBus
  case msgList => exact h.msgList
  case defined => exact (Drv.modifyNet_faults bus _ _).trans h.defined
  case ifaceCount =>
    rw [hnet]
    exact h.ifaceCount
  case created =>
    intro c
    rw [h.created c, hnet, hnetdef, registered, waitSendReply_netdev, modify_isSome, modify_isSome]
  case channelIdx =>
    intro c d' hd'
    rw [hnet] at hd'
    obtain ⟨rfl, rfl⟩ | ⟨-, hd'⟩ := hnetdev hd'
    · exact h.channelIdx _ d hd
    · exact h.channelIdx c d' hd'
  case sent =>
    intro tx' htx'
    rcases List.mem_append.mp htx' with hmem | hmem
    · rcases List.mem_append.mp hmem with hmem | hmem
      · exact h.sent tx' (List.mem_append_left _ hmem)
      · exact List.mem_singleton.mp hmem ▸ htx
    · exact h.sent tx' (List.mem_append_right _ hmem)
  case reports => exact h.reports
  case once =>
    refine (congrArg (· ++ [tx]) h.once).trans ?_
    exact List.append_assoc ..
  case pending =>
    rw [hnet, howed, List.map_append]
    refine Pending.registered (modify_pending.mpr h.pending) (fun hmem => ?_) tx.skb
    obtain ⟨tx', htx', hchannel⟩ := List.mem_map.mp hmem
    have hsome : tx'.skb ∈ s.outstanding tx.channel :=
      List.mem_map_of_mem (List.mem_filter.mpr ⟨htx', decide_eq_true hchannel⟩)
    rw [hout] at hsome
    cases hsome
  case sending =>
    intro c d' hd'
    rw [hnet] at hd'
    have hout' : ((s.setNet bus net).accept [tx]).outstanding c =
        s.outstanding c ++ if tx.channel = c then [tx.skb] else [] := by
      rw [St.outstanding, howed, List.filter_append, List.map_append, St.outstanding]
      by_cases hc : tx.channel = c <;> simp [hc]
    obtain ⟨rfl, rfl⟩ | ⟨hne, hd'⟩ := hnetdev hd'
    · have hchan := h.sending _ d hd
      rw [Sending, hout] at hchan
      rw [Sending, hout', hout, if_pos rfl]
      exact hchan.send tx.skb
    · rw [Sending, hout', if_neg (Ne.symm hne), List.append_nil]
      exact h.sending c d' hd'
  case receiving =>
    intro c d' hd'
    rw [hnet] at hd'
    obtain ⟨rfl, rfl⟩ | ⟨-, hd'⟩ := hnetdev hd'
    · exact (h.receiving _ d hd).keep ⟨rfl, rfl, rfl, rfl, rfl⟩
    · exact h.receiving c d' hd'

/-- A frame that is sent leaves its message on the wire. -/
theorem startXmit_sent {net : MsgNet} {c : ℕ} {d : NetDevice} (hd : net.netdev c = some d)
    (he : d.echoSkb = none) {skb : Skb} (hi : skb.invalid = false) {m : GuruData}
    (hsend : bus.send .ok d.netifStopQueue skb = (0, [m])) :
    startXmit bus.send .ok c skb net = ((net.modify c .netifStopQueue).registered c skb, [m]) := by
  obtain ⟨msg, hx⟩ := @startXmit_ok bus _ _ _ hd .ok rfl rfl he _ hi
  have hout : (startXmit bus.send .ok c skb net).2 = [m] := by
    simp only [startXmit, hd, hi, Bool.false_eq_true, if_false, hsend, ne_eq, not_true_eq_false,
      NetDevice.canPutEchoSkb_of_none (show d.netifStopQueue.echoSkb = none from he)]
  rw [hx] at hout ⊢
  exact Prod.ext rfl hout

theorem accept_nil (s : St) : s.accept [] = s := by
  simp [St.accept]

theorem Inv.xmit (h : Inv k bus wired s) {c : ℕ} {skb : Skb} {o : XmitOutcome}
    (hkeeps : o.oom = false) (hs : step k bus wired s (.xmit c skb o) = some s') :
    Inv k bus wired s' := by
  rw [step] at hs
  split at hs
  case h_1 => cases hs
  case h_2 d hd =>
    split at hs
    case isFalse => cases hs
    case isTrue hguard =>
      obtain ⟨-, hq, hf⟩ := hguard
      have hchan := h.sending c d hd
      have hout : s.outstanding c = [] := by
        by_contra hne
        rw [hchan.stopped.mpr hne] at hq
        cases hq
      have he : d.echoSkb = none := by
        rw [hchan.echoSkb, hout]
        rfl
      cases hi : skb.invalid with
      | true =>
        rw [@startXmit_invalid bus _ _ _ hd o _ hi] at hs
        obtain rfl := Option.some.inj hs
        simp only [List.map_nil, accept_nil]
        refine h.quiet hd ⟨rfl, rfl, rfl, rfl, rfl⟩ ?_ fun c' hne => Function.update_of_ne hne ..
        rw [Function.update_self, hi]
        exact hchan.drop skb
      | false =>
        have hsame : Function.update s.invalid c (s.invalid c + skb.invalid.toNat) = s.invalid := by
          rw [hi]
          exact Function.update_eq_self c s.invalid
        by_cases herr : o.send.err = 0
        · obtain rfl : o = .ok := by
            obtain ⟨send, oom⟩ := o
            obtain rfl : oom = false := hkeeps
            cases send with
            | noUrb => exact absurd herr (by decide)
            | noBuf => exact absurd herr (by decide)
            | submit err => exact congrArg (fun err => XmitOutcome.mk (.submit err) false) herr
          obtain ⟨m, hsend, hm⟩ := conveys_send bus d.netifStopQueue (hf hi)
          rw [startXmit_sent hd he hi hsend] at hs
          obtain rfl := Option.some.inj hs
          have hidx : d.netifStopQueue.channelIdx.toNat = c := h.channelIdx c d hd
          rw [hidx] at hm
          have hacc := @Inv.accept k bus wired s h ⟨c, d.ctrlmode, skb, m⟩ d hm hd hout
          have hinvalid :
            (((s.setNet bus (((s.guru.dev.net bus).modify c .netifStopQueue).registered c skb)).accept
              [⟨c, d.ctrlmode, skb, m⟩])).invalid = s.invalid := rfl
          simp only [List.map_cons, List.map_nil, hinvalid, hsame]
          exact hacc
        · rw [@startXmit_err bus _ _ _ hd o herr _ hi] at hs
          obtain rfl := Option.some.inj hs
          simp only [List.map_nil, accept_nil]
          refine h.quiet hd ⟨rfl, rfl, rfl, rfl, rfl⟩ ?_ fun c' hne => Function.update_of_ne hne ..
          rw [Function.update_self, hi]
          exact hchan.refuse hq

/-- **One step** keeps the invariant. -/
theorem inv_step (s : St) (e : Event) (s' : St) (h : Inv k bus wired s) (he : e.Keeps)
    (hs : step k bus wired s e = some s') : Inv k bus wired s' := by
  cases e with
  | xmit c skb o => exact h.xmit he hs
  | xmitOther ch skb o =>
    rw [step] at hs
    split at hs
    case isTrue => cases hs
    case isFalse hne =>
      obtain rfl := Option.some.inj hs
      exact h.other rfl (Drv.modifyNet_faults ch.1 _ _) (Drv.modifyNet_of_ne (Ne.symm hne) _ _)
  | recvOther alloc msg =>
    rw [step] at hs
    split at hs
    case isFalse => cases hs
    case isTrue hguard =>
      obtain ⟨hsend, hrecv, hdefined⟩ := hguard
      obtain rfl := Option.some.inj hs
      exact h.other (dispatch_msgList ..) ((faults_iff alloc h.msgList).mpr hdefined)
        (dispatch_other h.msgList hsend hrecv alloc)
  | answer st => exact h.answer hs
  | report ts => exact h.report hs
  | recv => exact h.recv hs

variable (k bus wired) in
/-- How many steps the device and the driver can still take. -/
def work (s : St) : ℕ :=
  (k.count bus + 3) * s.toDevice.length + (k.count bus + 1) * s.onBus.length + s.toHost.length

variable (bus wired) in
/-- **The link is at rest**, and everything has arrived. -/
structure AtRest (s : St) : Prop where
  /-- Nothing is on its way. -/
  quiet : s.Quiet
  /-- Every frame that was accepted is completed. -/
  completed : s.accepted = s.completed.map Prod.fst
  /-- No reply is pending. -/
  pending : (s.guru.dev.net bus).Pending []
  /-- The queues run, and no echo is kept. -/
  running : ∀ c d, (s.guru.dev.net bus).netdev c = some d → d.queueStopped = false ∧
    d.echoSkb = none
  /-- The byte queue was told of every frame twice. -/
  bytes : ∀ c d, (s.guru.dev.net bus).netdev c = some d →
    ∃ done : List ℕ, d.completedQueue = done.map some ∧ d.sentQueue.sum = done.sum
  /-- Every buffer is counted once. -/
  counted : ∀ c d, (s.guru.dev.net bus).netdev c = some d →
    d.stats.txPackets + d.stats.txErrors + d.stats.txDropped =
      (s.accepted.filter fun tx => tx.channel = c).length + s.invalid c
  /-- Every channel has received, in order, the frames with the status `GURU_STATUS_DONE` that
  it saw. -/
  received : ∀ c d, (s.guru.dev.net bus).netdev c = some d → d.rx.map RxFrame.frame =
    seenBy bus wired c d.ctrlmode ((s.completed.filter fun a => a.2 = GURU_STATUS_DONE).map Prod.fst)

/-- A link on which nothing is on its way is at rest. -/
theorem Inv.atRest (h : Inv k bus wired s) (hq : s.Quiet) : AtRest bus wired s := by
  obtain ⟨hdev, hbus, hhost⟩ := hq
  have hstatuses : s.statuses = [] := by rw [St.statuses, hhost, List.filterMap_nil]
  have hanswers : s.answers = s.completed := by rw [St.answers, hstatuses, List.append_nil]
  have howed : s.owed = [] := by rw [St.owed, hstatuses, hdev, List.map_nil, List.append_nil]
  have hout : ∀ c, s.outstanding c = [] :=
    fun c => by rw [St.outstanding, howed, List.filter_nil, List.map_nil]
  have hcompleted : s.accepted = s.completed.map Prod.fst := by
    rw [h.once, hanswers, hdev, List.append_nil]
  constructor
  case quiet => exact ⟨hdev, hbus, hhost⟩
  case completed => exact hcompleted
  case pending =>
    have hp := h.pending
    rwa [howed] at hp
  case running =>
    intro c d hd
    have hchan := h.sending c d hd
    constructor
    · by_contra hstopped
      exact hchan.stopped.mp (Bool.eq_true_of_not_eq_false hstopped) (hout c)
    · rw [hchan.echoSkb, hout]
      rfl
  case bytes =>
    intro c d hd
    obtain ⟨done, hdone, hsum⟩ := (h.sending c d hd).bytes
    rw [hout] at hsum
    exact ⟨done, hdone, hsum⟩
  case counted =>
    intro c d hd
    obtain ⟨hp, he, hdrop⟩ := (h.sending c d hd).stats
    have hcount := Sequential.countP_statuses (s.statusesOf c)
    have hlen : (s.statusesOf c).length = (s.accepted.filter fun tx => tx.channel = c).length := by
      rw [hcompleted, List.filter_map, List.length_map, St.statusesOf, List.length_map]
      rfl
    omega
  case received =>
    intro c d hd
    have hframes := (h.receiving c d hd).frames
    have hreports : s.reportsTo c = [] := by rw [St.reportsTo, hhost, List.filterMap_nil]
    rw [hreports, hbus, St.transmitted, hanswers] at hframes
    simpa [seenBy] using hframes

end

/-! ### Two channels on one cable -/

end Link

end CanGuru
