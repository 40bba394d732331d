import CanGuru.Channel
import CanGuru.Device
import CanGuru.Receive.LinCopy
import CanGuru.Receive.LinRoundTrip

/-!
# Frames on the wire

What the driver and its device tell each other about a frame, for both buses: the message
that sends it, the status the device answers with, and the message with which the device
reports a frame it has seen on the bus.

## The model

The two channels of a frame may have different modes, and the channel that receives it need
not be the one that sent it. `Bus.report` and `Bus.status` are the device's part: a report
has the interface byte of the channel it is for, a time stamp, and from the header on the
bytes of the message that sent the frame.

## What is proved

* `conveys_send` — what `ndo_start_xmit` sends conveys the frame: it is what every channel
  receives to which the device reports it.
* `dispatch_status`, `dispatch_report`, `dispatch_other` — what the dispatch of a message of
  the device does to the message layer of a bus.
-/

namespace CanGuru

open Packed

/-! ### The messages of the device -/

namespace Bus

/-- The id of the messages that report a frame. -/
def recvId : Bus → UInt16
  | .can => CAN_MSG_RECV
  | .lin => LIN_MSG_RECV

/-- Where the header of the frame stands in a message that sends it: behind the interface
byte, or behind the delay. -/
def headerOffset : Bus → ℕ
  | .can => 1
  | .lin => LIN_MASTER_HEADER_SIZE

/-- The status of a frame. -/
def status (bus : Bus) (st : UInt8) : GuruData := .fill bus.sendId [st]

/-- The message that reports to channel `c`, at time `ts`, the frame that was sent in `m`. -/
def report (bus : Bus) (ts : UInt32) (c : ℕ) (m : GuruData) : GuruData :=
  .fill bus.recvId (UInt8.ofNat c :: toLE 4 ts.toNat ++ m.data.drop bus.headerOffset)

/-- `canguru_net_recv`, `linguru_net_recv`. -/
def netRecv : Bus → List UInt8 → NetDevice → NetDevice × List Fault
  | .can => canguruNetRecv true
  | .lin => linguruNetRecv true

/-- The device has channels of the bus. -/
def of (bus : Bus) (k : DeviceKind) : Bool :=
  match bus with
  | .can => k.hasCan
  | .lin => k.hasLin

/-- The frames the stack may hand to `ndo_start_xmit` of a channel in mode `ctrlmode`. On LIN
a raw DLC past 8 is not one of a frame. -/
def Sendable (bus : Bus) (ctrlmode : UInt32) (frame : Frame) : Prop :=
  match bus with
  | .can => frame.Sendable
  | .lin => ctrlmode &&& CAN_CTRLMODE_CC_LEN8_DLC = 0 ∧ frame.asCan.len.toNat ≤ CAN_MAX_DLEN

instance (frame : Frame) : Decidable frame.Sendable :=
  match frame with
  | .can f => inferInstanceAs (Decidable (f.len.toNat ≤ CAN_MAX_DLEN))
  | .canfd f => inferInstanceAs (Decidable (f.len.toNat ∈ canfdLens))

instance (bus : Bus) (ctrlmode : UInt32) (frame : Frame) :
    Decidable (bus.Sendable ctrlmode frame) :=
  match bus with
  | .can => inferInstanceAs (Decidable frame.Sendable)
  | .lin => inferInstanceAs (Decidable (_ ∧ _))

/-- What is left of a frame between a channel in mode `here` and one in mode `there`. -/
def carried (bus : Bus) (here there : UInt32) (frame : Frame) : Frame :=
  match bus with
  | .can => frame.normalised (here &&& there)
  | .lin => .can frame.asCan.linNormalised

/-- The frame that is handed to the stack for a report. -/
def rxFrame (bus : Bus) (here there : UInt32) (frame : Frame) (ts : UInt32) : RxFrame where
  frame := bus.carried here there frame
  hwtstamp := ts.toNat * 100000
  copied := frame.len

/-- **A message conveys a frame**: the device can read the channel from it, and what it
reports is received as that frame, whatever the transfer is filled up with. -/
structure Conveys (bus : Bus) (c : ℕ) (here : UInt32) (frame : Frame) (m : GuruData) : Prop where
  /-- The channel it was sent by. -/
  iface : ifaceOf m = c
  /-- A report fits a transfer. -/
  fits : ∀ ts c', (bus.report ts c' m).data.length ≤ GURU_MAX_DATA_SIZE
  /-- What a channel does with a report. -/
  recv : ∀ ts c' post d, bus.netRecv ((bus.report ts c' m).data ++ post) d =
    (d.netifRx (bus.rxFrame here d.ctrlmode frame ts) frame.len, [])

end Bus

/-! ### Two modes -/

theorem and_and_flag {flag : UInt32} {k : ℕ} (hflag : flag.toNat = 2 ^ k) (a b : UInt32) :
    (a &&& b) &&& flag ≠ 0 ↔ a &&& flag ≠ 0 ∧ b &&& flag ≠ 0 := by
  rw [UInt32.and_assoc]
  by_cases hb : b &&& flag = 0
  · simp [hb]
  · have hself : b &&& flag = flag := (and_flag hflag b).trans (if_pos hb)
    rw [hself, and_iff_left (hself ▸ hb)]

/-- The lengths of a classic frame are read back from its raw DLC, in another mode. -/
theorem canFrameSetCcLen_and {f g : CanFrame} (hf : f.len.toNat ≤ CAN_MAX_DLEN) (hg : g.len8Dlc = 0)
    (here there : UInt32) :
    canFrameSetCcLen g (canGetCcDlc f here) there =
      { g with len := f.len, len8Dlc := normalisedLen8Dlc f (here &&& there) } := by
  have hlen8 : normalisedLen8Dlc f (here &&& there) =
      if there &&& CAN_CTRLMODE_CC_LEN8_DLC ≠ 0 ∧ CAN_MAX_DLEN < canGetCcDlc f here then
        UInt8.ofNat (canGetCcDlc f here) else 0 := by
    simp only [normalisedLen8Dlc_eq, @and_and_flag CAN_CTRLMODE_CC_LEN8_DLC 8 rfl]
    by_cases hc : here &&& CAN_CTRLMODE_CC_LEN8_DLC ≠ 0 ∧ f.len.toNat = CAN_MAX_DLEN ∧
        CAN_MAX_DLEN < f.len8Dlc.toNat ∧ f.len8Dlc.toNat ≤ CAN_MAX_RAW_DLC
    · rw [canGetCcDlc, if_pos hc, UInt8.ofNat_toNat]
      simp [hc]
    · rw [canGetCcDlc, if_neg hc, if_neg fun h => hc ⟨h.1.1, h.2⟩,
        if_neg fun h => Nat.not_lt.mpr hf h.2]
  rw [canFrameSetCcLen, canCcDlc2len_getCcDlc hf, UInt8.ofNat_toNat, hlen8, hg]

/-! ### What is sent is what is received -/

/-- The header `canguru_can_classic_send` fills in. -/
def ccHeader (ctrlmode : UInt32) (f : CanFrame) : CanMsgHeader where
  canfd := false
  esi := false
  bitrateSwitch := false
  canDlc := canGetCcDlc f ctrlmode
  remoteFrame := f.canId &&& CAN_RTR_FLAG ≠ 0
  extendedId := f.canId &&& CAN_EFF_FLAG ≠ 0
  canId := headerId f.canId

theorem canguruCanClassicSend_ok (d : NetDevice) {f : CanFrame} (hle : f.len.toNat ≤ CAN_MAX_DLEN) :
    canguruCanClassicSend .ok d f =
      (0, [.fill CAN_MSG_SEND
        (d.channelIdx :: (ccHeader d.ctrlmode f).toBytes ++ (List.ofFn f.data).take f.len.toNat)]) := by
  rw [canguruCanClassicSend, canSendMsg_take _ _ _ hle, guruSendData]
  rfl

/-- A report of a CAN frame is a received message with the header and the payload. -/
theorem report_can (ts : UInt32) (c : ℕ) (iface : UInt8) (h : CanMsgHeader) (body : List UInt8) :
    (Bus.can.report ts c (.fill CAN_MSG_SEND (iface :: h.toBytes ++ body))).data =
      canRecvMsg (UInt8.ofNat c) ts h body := by
  simp [Bus.report, Bus.headerOffset, GuruData.fill, canRecvMsg]

/-- What is received for a report of a CAN message. -/
theorem conveys_can {c : ℕ} {here : UInt32} {frame : Frame} {iface : UInt8} {h : CanMsgHeader}
    {body : List UInt8} (hiface : iface.toNat = c) (hid : h.canId < 2 ^ 29)
    (hdlc : h.canDlc < 2 ^ 4) (hbody : body.length ≤ CANFD_MAX_DLEN)
    (hlen : canguruRecvLen h = frame.len)
    (hframe : ∀ ts c' there post, canguruRecvFrame (canRecvMsg c' ts h (body ++ post)) there =
      frame.normalised (here &&& there)) :
    Bus.can.Conveys c here frame (.fill CAN_MSG_SEND (iface :: h.toBytes ++ body)) where
  iface := hiface
  fits := by
    intro ts c'
    rw [report_can]
    simp only [canRecvMsg, CanMsgHeader.toBytes, List.length_append, List.length_cons, length_toLE]
    simp only [CanMsgHeader.size, CANFD_MAX_DLEN, GURU_MAX_DATA_SIZE] at hbody ⊢
    omega
  recv := by
    intro ts c' post d
    have hdata :
        canRecvMsg (UInt8.ofNat c') ts h body ++ post =
        canRecvMsg (UInt8.ofNat c') ts h (body ++ post) := by
      simp [canRecvMsg]
    rw [report_can, hdata, Bus.netRecv, canguruNetRecv, ofNat_header _ _ _ _ hid hdlc,
      readLE_timeStamp, hframe, hlen]
    rfl

theorem canguruSend_conveys (d : NetDevice) {skb : Skb} (hf : skb.frame.Sendable) :
    ∃ m, canguruSend .ok d skb = (0, [m]) ∧
      Bus.can.Conveys d.channelIdx.toNat d.ctrlmode skb.frame m := by
  unfold canguruSend
  generalize skb.frame = frame at hf
  cases frame with
  | can f =>
    have hle : f.len.toNat ≤ CAN_MAX_DLEN := hf
    refine ⟨_, canguruCanClassicSend_ok d hle,
      conveys_can rfl (headerId_lt _) (canGetCcDlc_lt hle _) ?_ (canCcDlc2len_getCcDlc hle _) fun ts
      c' there post => ?_⟩
    · rw [List.length_take, List.length_ofFn]
      exact (min_le_right _ _).trans (by decide)
    · have hid : recvId (ccHeader d.ctrlmode f) = normalisedId f.canId :=
        recvId_headerId rfl rfl rfl
      rw [canguruRecvFrame_can _ _ (ccHeader d.ctrlmode f) _ _ _ (headerId_lt _) (canGetCcDlc_lt hle _) rfl
        (canCcDlc2len_getCcDlc hle _), hid, Frame.normalised]
      exact congrArg Frame.can (canFrameSetCcLen_and hle rfl d.ctrlmode there)
  | canfd f =>
    have hle : f.len.toNat ≤ CANFD_MAX_DLEN := canfdLens_le hf
    refine ⟨_, canguruCanFdSend_ok d hle, conveys_can rfl (headerId_lt _) (canFdLen2dlc_lt _) ?_
      (canFdDlc2len_len2dlc hf) fun ts c' there post => ?_⟩
    · exact (List.length_take_le' _ _).trans List.length_ofFn.le
    · have hid : recvId (fdHeader f) = normalisedId f.canId := recvId_headerId rfl rfl rfl
      have hflags : flagsOf (fdHeader f) = f.flags &&& (CANFD_ESI ||| CANFD_BRS) :=
        flagsOf_eq rfl rfl
      rw [canguruRecvFrame_canfd _ _ (fdHeader f) _ _ _ (headerId_lt _) (canFdLen2dlc_lt _) rfl
        (canFdDlc2len_len2dlc hf) hle, hid, hflags, UInt8.ofNat_toNat, Frame.normalised]

/-- A report of a LIN frame has the header and the payload behind its time stamp. -/
theorem report_lin (ts : UInt32) (c : ℕ) (d : NetDevice) (f : CanFrame) :
    (Bus.lin.report ts c (.fill LIN_MSG_SEND (linData d f))).data =
      UInt8.ofNat c :: toLE 4 ts.toNat ++ (linHeader d.ctrlmode f).toBytes ++
        (List.ofFn f.data).take f.len.toNat := by
  have hdrop : (linData d f).drop LIN_MASTER_HEADER_SIZE =
      (linHeader d.ctrlmode f).toBytes ++ (List.ofFn f.data).take f.len.toNat := by
    rw [linData, List.append_assoc]
    exact List.drop_left' (by simp [LIN_MASTER_HEADER_SIZE])
  rw [Bus.report, GuruData.fill, Bus.headerOffset, GuruData.fill, hdrop, List.append_assoc]

/-- What `linguru_start_xmit` sends conveys the frame, if the mode has no raw DLCs. -/
theorem linguruLinSend_conveys (d : NetDevice) (hmode : d.ctrlmode &&& CAN_CTRLMODE_CC_LEN8_DLC = 0)
    {frame : Frame} (hf : frame.asCan.len.toNat ≤ CAN_MAX_DLEN) :
    ∃ m, linguruLinSend .ok d frame.asCan = (0, [m]) ∧
      Bus.lin.Conveys d.channelIdx.toNat d.ctrlmode frame m := by
  have hdlen : (linHeader d.ctrlmode frame.asCan).dataLen = frame.asCan.len := by
    rw [linHeader, canGetCcDlc_off hmode, UInt8.ofNat_toNat]
  have hflen : frame.len = frame.asCan.len.toNat := by cases frame <;> rfl
  refine ⟨_, linguruLinSend_ok d hf, rfl, fun ts c' => ?_, fun ts c' post d' => ?_⟩
  · rw [report_lin]
    simp only [List.length_append, List.length_cons, length_toLE, LinMsgHeader.length_toBytes,
      List.length_take, List.length_ofFn]
    simp only [LinMsgHeader.size, GURU_MAX_DATA_SIZE, CAN_MAX_DLEN] at hf ⊢
    omega
  · rw [report_lin]
    have hts :
      readLE 1 4 (UInt8.ofNat c' :: toLE 4 ts.toNat ++ (linHeader d.ctrlmode frame.asCan).toBytes ++
        (List.ofFn frame.asCan.data).take frame.asCan.len.toNat ++ post) = ts.toNat := by
      rw [List.append_assoc, List.append_assoc]
      exact (readLE_append [UInt8.ofNat c'] _ ts.toNat rfl).trans (Nat.mod_eq_of_lt ts.toNat_lt)
    have hheader : LinMsgHeader.ofBytes LIN_MASTER_HEADER_SIZE (UInt8.ofNat c' :: toLE 4 ts.toNat ++
        (linHeader d.ctrlmode frame.asCan).toBytes ++
          (List.ofFn frame.asCan.data).take frame.asCan.len.toNat ++
        post) = linHeader d.ctrlmode frame.asCan := by
      rw [List.append_assoc _ _ post]
      exact LinMsgHeader.ofBytes_append (linHeader_id_lt _ _) _ _ (by simp [LIN_MASTER_HEADER_SIZE])
    have hcopy :
      copyPayload CAN_MAX_DLEN (LIN_MASTER_HEADER_SIZE + LinMsgHeader.size) frame.asCan.len.toNat
        (UInt8.ofNat c' :: toLE 4 ts.toNat ++ (linHeader d.ctrlmode frame.asCan).toBytes ++
          (List.ofFn frame.asCan.data).take frame.asCan.len.toNat ++ post) =
        normalisedData frame.asCan.data frame.asCan.len.toNat := by
      rw [List.append_assoc _ _ post]
      exact copyPayload_append _ _ post (by simp [LIN_MASTER_HEADER_SIZE, LinMsgHeader.size]) hf
    have hset : ∀ g : CanFrame, g.len8Dlc = 0 →
        canFrameSetCcLen g frame.asCan.len.toNat d'.ctrlmode =
            { g with len := frame.asCan.len } := by
      intro g hg
      rw [canFrameSetCcLen, if_neg fun h => Nat.not_lt.mpr hf h.2, canCcDlc2len, min_eq_left hf,
        UInt8.ofNat_toNat]
    have hframe :
      linguruRecvFrame (UInt8.ofNat c' :: toLE 4 ts.toNat ++ (linHeader d.ctrlmode frame.asCan).toBytes ++
        (List.ofFn frame.asCan.data).take frame.asCan.len.toNat ++ post) d'.ctrlmode =
            frame.asCan.linNormalised := by
      rw [linguruRecvFrame, hheader, hdlen, hcopy, hset _ rfl, CanFrame.linNormalised, ← recvLinId]
      simp only [linHeader, UInt32.ofNat_toNat, decide_eq_true_eq]
    rw [Bus.netRecv, linguruNetRecv, hts, hheader, hdlen, hframe,
      if_neg (show ¬ LIN_MAX_DLEN < frame.asCan.len.toNat from Nat.not_lt.mpr hf),
        Bus.rxFrame, hflen]
    rfl

/-- **What `ndo_start_xmit` sends conveys the frame.** -/
theorem conveys_send (bus : Bus) (d : NetDevice) {skb : Skb}
    (hf : bus.Sendable d.ctrlmode skb.frame) :
    ∃ m, bus.send .ok d skb = (0, [m]) ∧ bus.Conveys d.channelIdx.toNat d.ctrlmode skb.frame m := by
  cases bus with
  | can => exact canguruSend_conveys d hf
  | lin => exact linguruLinSend_conveys d hf.1 hf.2

/-! ### The dispatch -/

section Dispatch

variable {bus : Bus} {k : DeviceKind} {guru : Guru}

/-- The driver reads the message of a transfer with what fills it up. -/
theorem ofBytes_padded (m : GuruData) :
    GuruData.ofBytes m.padded =
      { m with data := m.data ++ List.replicate (GURU_DATA_SIZE - m.toBytes.length) 0 } :=
  ofBytes_toBytes_append m _

theorem dispatch_msgList (call : Callback → CurrMsg → Drv → Drv) (guru : Guru) (msg : GuruData) :
    (canguruProcessMsgList call guru msg).msgList = guru.msgList := by
  rw [processMsgList_eq]

/-- **A status** goes to the entry at the head of the list. -/
theorem dispatch_status (hk : bus.of k = true) (hl : guru.msgList = k.msgList) (st : UInt8) :
    (canguruProcessMsgList (runCallback true) guru (.ofBytes (bus.status st).padded)).dev =
      guru.dev.modifyNet bus (·.sendCallback st) := by
  rw [ofBytes_padded]
  cases bus with
  | can => rw [@processMsgList_can_send true k hk guru hl _ rfl rfl]; rfl
  | lin => rw [@processMsgList_lin_send true k hk guru hl _ rfl rfl]; rfl

/-- **A report** gives the channel it is for its frame. -/
theorem dispatch_report (hk : bus.of k = true) (hl : guru.msgList = k.msgList) {c c' : ℕ}
    {here : UInt32} {frame : Frame} {m : GuruData} (hm : bus.Conveys c here frame m) {d : NetDevice}
    (hc : c' < 256) (hcount : c' < (guru.dev.net bus).ifaceCount)
    (hd : (guru.dev.net bus).netdev c' = some d) (ts : UInt32) :
    (canguruProcessMsgList (runCallback true) guru (.ofBytes (bus.report ts c' m).padded)).dev =
      guru.dev.modifyNet bus (·.modify c' (.netifRx (bus.rxFrame here d.ctrlmode frame ts) frame.len)) := by
  rw [ofBytes_padded]
  generalize List.replicate _ (0 : UInt8) = post
  have hrecv := hm.recv ts c' post d
  generalize hmsg : { bus.report ts c' m with data := (bus.report ts c' m).data ++ post } = msg
  have hid : msg.id = bus.recvId := hmsg ▸ rfl
  have hdata : (bus.report ts c' m).data ++ post = msg.data := hmsg ▸ rfl
  have hbyte : ((CurrMsg.ofMsg msg).byte 0).toNat = c' := by
    subst hmsg
    exact UInt8.toNat_ofNat_of_lt' hc
  rw [hdata] at hrecv
  have hmod := MsgNet.modify_congr (f := fun d => (bus.netRecv msg.data d).1)
    (g := .netifRx (bus.rxFrame here d.ctrlmode frame ts) frame.len) hd (by rw [hrecv])
  cases bus with
  | can =>
    have hcall :=
      @MsgNet.recvCallback_some (canguruNetRecv true) (.ofMsg msg) guru.dev.can c' d hbyte hcount hd
    rw [processMsgList_can_recv true hk hl hid, canguruRecvCallback, hcall]
    refine (congrArg₂ (fun can faults => { guru.dev with can := can, faults := guru.dev.faults ++ faults }) hmod
      (congrArg Prod.snd hrecv)).trans ?_
    rw [List.append_nil]
    rfl
  | lin =>
    have hcall :=
      @MsgNet.recvCallback_some (linguruNetRecv true) (.ofMsg msg) guru.dev.lin c' d hbyte hcount hd
    rw [processMsgList_lin_recv true hk hl hid, linguruRecvCallback, hcall]
    refine (congrArg₂ (fun lin faults => { guru.dev with lin := lin, faults := guru.dev.faults ++ faults }) hmod
      (congrArg Prod.snd hrecv)).trans ?_
    rw [List.append_nil]
    rfl

/-- A callback for another message leaves the message layer of a bus alone. -/
theorem runCallback_net {callback : Callback} {msgId : UInt16}
    (hmem : ∃ item ∈ k.msgList, item.callback = some callback ∧
    item.msgId = msgId) (hsend : msgId ≠ bus.sendId) (hrecv : msgId ≠ bus.recvId) (alloc : Bool)
      (msg : CurrMsg)
    (dev : Drv) : (runCallback alloc callback msg dev).net bus = dev.net bus := by
  obtain ⟨item, hitem, hcallback, rfl⟩ := hmem
  have hids : ∀ item ∈ k.msgList, (item.callback = some .canguruSend → item.msgId = CAN_MSG_SEND) ∧
      (item.callback = some .canguruRecv → item.msgId = CAN_MSG_RECV) ∧
      (item.callback = some .linguruSend → item.msgId = LIN_MSG_SEND) ∧
      (item.callback = some .linguruRecv → item.msgId = LIN_MSG_RECV) := by
    cases k <;> decide
  obtain ⟨hcs, hcr, hls, hlr⟩ := hids item hitem
  cases bus <;> cases callback <;> first
    | rfl
    | exact absurd (hcs hcallback) hsend
    | exact absurd (hcr hcallback) hrecv
    | exact absurd (hls hcallback) hsend
    | exact absurd (hlr hcallback) hrecv

/-- **Another message** leaves the message layer of a bus alone. -/
theorem dispatch_other (hl : guru.msgList = k.msgList) {msg : GuruData}
    (hsend : msg.id ≠ bus.sendId) (hrecv : msg.id ≠ bus.recvId) (alloc : Bool) :
    (canguruProcessMsgList (runCallback alloc) guru msg).dev.net bus = guru.dev.net bus := by
  rw [processMsgList_eq, hl]
  refine List.foldlRecOn (motive := fun dev : Drv => dev.net bus = guru.dev.net bus) _ _ rfl
    fun dev hdev callback hcallback => ?_
  obtain ⟨item, hitem, hcb⟩ := List.mem_filterMap.mp hcallback
  obtain ⟨hitem, hmatch⟩ := List.mem_filter.mp hitem
  have hid : item.msgId = msg.id := (of_decide_eq_true hmatch).1
  exact (runCallback_net ⟨item, hitem, hcb, hid⟩ hsend hrecv alloc _ dev).trans hdev

end Dispatch

end CanGuru
