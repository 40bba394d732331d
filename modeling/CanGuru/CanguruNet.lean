import CanGuru.Net

/-!
# A CAN channel

`canguru-net.c`: the packed structures of the CAN messages, the encoding of a
frame for transmission, the decoding of a received one, and the operations of the
net device.

## What is proved

* `CanMsgHeader.ofNat_toNat` — the fields of a header are read back from its bits.
-/

namespace CanGuru

open Packed

/-! ### Messages -/

/-- `CAN_MSG_CONFIG_SET`. -/
def CAN_MSG_CONFIG_SET : UInt16 := 0x0C00

/-- `CAN_MSG_GLOBAL_FILTER_SET`. -/
def CAN_MSG_GLOBAL_FILTER_SET : UInt16 := 0x0C02

/-- `CAN_MSG_ENABLE_SET`. -/
def CAN_MSG_ENABLE_SET : UInt16 := 0x0C06

/-- `CAN_MSG_SEND`. -/
def CAN_MSG_SEND : UInt16 := 0x0C0A

/-- `CAN_MSG_RECV`. -/
def CAN_MSG_RECV : UInt16 := 0x0C0B

/-- `CAN_MSG_RESET`. -/
def CAN_MSG_RESET : UInt16 := 0x0C0D

/-- `CAN_MSG_TER_ENABLE`. -/
def CAN_MSG_TER_ENABLE : UInt16 := 0x0C16

/-- `CAN_MSG_TIMING_SET`. -/
def CAN_MSG_TIMING_SET : UInt16 := 0x0C17

/-- `CANGURU_100US_TO_1NS`. -/
def CANGURU_100US_TO_1NS : ℕ := 100000

/-- `CAN_STD_ID_MASK`. -/
def CAN_STD_ID_MASK : UInt32 := 0x7ff

/-- `CAN_EXT_ID_MASK`. -/
def CAN_EXT_ID_MASK : UInt32 := 0x1fffffff

/-- `struct can_msg_header`, without its reserved bits. -/
@[ext]
structure CanMsgHeader where
  /-- `can_id`, 29 bits. -/
  canId : ℕ
  /-- `can_dlc`, 4 bits. -/
  canDlc : ℕ
  /-- `extended_id`. -/
  extendedId : Bool
  /-- `remote_frame`. -/
  remoteFrame : Bool
  /-- `esi`. -/
  esi : Bool
  /-- `canfd`. -/
  canfd : Bool
  /-- `bitrate_switch`. -/
  bitrateSwitch : Bool
  deriving DecidableEq

namespace CanMsgHeader

/-- The widths of the fields, from the lowest bit up. -/
def widths : List ℕ := [29, 4, 1, 1, 1, 1, 1, 2]

/-- The fields with their widths, the reserved bits clear. -/
def fields (h : CanMsgHeader) : List (ℕ × ℕ) :=
  [(29, h.canId), (4, h.canDlc), (1, h.extendedId.toNat), (1, h.remoteFrame.toNat),
    (1, h.esi.toNat), (1, h.canfd.toNat), (1, h.bitrateSwitch.toNat), (2, 0)]

/-- The 40 bits of a header. -/
def toNat (h : CanMsgHeader) : ℕ := pack h.fields

/-- The header in 40 bits. -/
def ofNat (n : ℕ) : CanMsgHeader :=
  let f := unpack widths n
  { canId := f.getD 0 0
    canDlc := f.getD 1 0
    extendedId := f.getD 2 0 = 1
    remoteFrame := f.getD 3 0 = 1
    esi := f.getD 4 0 = 1
    canfd := f.getD 5 0 = 1
    bitrateSwitch := f.getD 6 0 = 1 }

/-- `sizeof(struct can_msg_header)`. -/
def size : ℕ := 5

/-- The bytes of a header. -/
def toBytes (h : CanMsgHeader) : List UInt8 := toLE size h.toNat

theorem toNat_lt (h : CanMsgHeader) : h.toNat < 256 ^ size := by
  have hsum : (h.fields.map Prod.fst).sum = 40 := rfl
  have hlt : h.toNat < 2 ^ (h.fields.map Prod.fst).sum := pack_lt _
  rw [hsum] at hlt
  exact hlt.trans_eq (by norm_num [size])

/-- **The fields of a header are read back**, if they fit. -/
theorem ofNat_toNat {h : CanMsgHeader} (hid : h.canId < 2 ^ 29) (hdlc : h.canDlc < 2 ^ 4) :
    ofNat h.toNat = h := by
  have hu : unpack widths h.toNat = h.fields.map fun f => f.2 % 2 ^ f.1 := unpack_pack h.fields
  have hb : ∀ b : Bool, decide (b.toNat % 2 ^ 1 = 1) = b := by decide
  rw [ofNat, hu]
  ext1
  case canId => exact Nat.mod_eq_of_lt hid
  case canDlc => exact Nat.mod_eq_of_lt hdlc
  all_goals exact hb _

end CanMsgHeader

/-- `sizeof(struct can_send_header)`. -/
def CAN_SEND_HEADER_SIZE : ℕ := 6

/-- `sizeof(struct can_recv_header)`. -/
def CAN_RECV_HEADER_SIZE : ℕ := 10

/-- `struct can_send_msg`: `memcpy` puts the first `len` bytes of the payload into
data that is zero. -/
def canSendMsg {n : ℕ} (iface : UInt8) (header : CanMsgHeader) (payload : Fin n → UInt8) (len : ℕ) :
    List UInt8 :=
  iface :: header.toBytes ++
    ((List.ofFn payload).take len ++ List.replicate (CANFD_MAX_DLEN - len) 0)

/-- The identifier field of a header for a `can_id`. -/
def headerId (canId : UInt32) : ℕ :=
  if canId &&& CAN_EFF_FLAG ≠ 0 then
    (canId &&& CAN_EXT_ID_MASK).toNat
  else (canId &&& CAN_STD_ID_MASK).toNat

/-- `canguru_can_fd_send`. -/
def canguruCanFdSend (o : SendOutcome) (d : NetDevice) (frame : CanfdFrame) : ℤ × List GuruData :=
  let header : CanMsgHeader :=
    { canfd := true
      esi := frame.flags &&& CANFD_ESI ≠ 0
      bitrateSwitch := frame.flags &&& CANFD_BRS ≠ 0
      canDlc := canFdLen2dlc frame.len.toNat
      remoteFrame := frame.canId &&& CAN_RTR_FLAG ≠ 0
      extendedId := frame.canId &&& CAN_EFF_FLAG ≠ 0
      canId := headerId frame.canId }
  let msg := canSendMsg d.channelIdx header frame.data frame.len.toNat
  guruSendData o CAN_MSG_SEND (msg.take (CAN_SEND_HEADER_SIZE + frame.len.toNat))

/-- `canguru_can_classic_send`. -/
def canguruCanClassicSend (o : SendOutcome) (d : NetDevice) (frame : CanFrame) :
    ℤ × List GuruData :=
  let header : CanMsgHeader :=
    { canfd := false
      esi := false
      bitrateSwitch := false
      canDlc := canGetCcDlc frame d.ctrlmode
      remoteFrame := frame.canId &&& CAN_RTR_FLAG ≠ 0
      extendedId := frame.canId &&& CAN_EFF_FLAG ≠ 0
      canId := headerId frame.canId }
  let msg := canSendMsg d.channelIdx header frame.data frame.len.toNat
  guruSendData o CAN_MSG_SEND (msg.take (CAN_SEND_HEADER_SIZE + frame.len.toNat))

/-- The choice `canguru_start_xmit` makes by the kind of the frame. -/
def canguruSend : MsgNet.Send := fun o d skb =>
  match skb.frame with
  | .canfd f => canguruCanFdSend o d f
  | .can f => canguruCanClassicSend o d f

/-! ### Reception -/

/-- `memcpy` of `len` bytes at offset `o` of the message into the payload of a fresh
frame; what does not fit is not kept. -/
def copyPayload (n o len : ℕ) (data : List UInt8) : Fin n → UInt8 :=
  fun i => if i.val < len then data.getD (o + i.val) 0 else 0

/-- The flags `canguru_net_recv` adds to an identifier. -/
def recvId (h : CanMsgHeader) : UInt32 :=
  let canId := UInt32.ofNat h.canId
  let canId := if h.remoteFrame then canId ||| CAN_RTR_FLAG else canId
  if h.extendedId then canId ||| CAN_EFF_FLAG else canId

/-- The `dataLen` of `canguru_net_recv`. -/
def canguruRecvLen (header : CanMsgHeader) : ℕ :=
  if header.canfd then canFdDlc2len header.canDlc else canCcDlc2len header.canDlc

/-- The frame `canguru_net_recv` fills in from a message. -/
def canguruRecvFrame (data : List UInt8) (ctrlmode : UInt32) : Frame :=
  let header := CanMsgHeader.ofNat (readLE 5 CanMsgHeader.size data)
  let dataLen := canguruRecvLen header
  if header.canfd then
    let flags : UInt8 := 0
    let flags := if header.esi then flags ||| CANFD_ESI else flags
    let flags := if header.bitrateSwitch then flags ||| CANFD_BRS else flags
    .canfd
      { canId := recvId header
        len := UInt8.ofNat dataLen
        flags := flags
        data := copyPayload CANFD_MAX_DLEN CAN_RECV_HEADER_SIZE dataLen data }
  else
    let frame : CanFrame :=
      { canId := recvId header
        len := 0
        len8Dlc := 0
        data := copyPayload CAN_MAX_DLEN CAN_RECV_HEADER_SIZE dataLen data }
    .can (canFrameSetCcLen frame header.canDlc ctrlmode)

/-- `canguru_net_recv` on a channel, with the frame allocated or not. -/
def canguruNetRecv (alloc : Bool) (data : List UInt8) (d : NetDevice) : NetDevice × List Fault :=
  let dataLen := canguruRecvLen (CanMsgHeader.ofNat (readLE 5 CanMsgHeader.size data))
  let timeStamp := readLE 1 4 data * CANGURU_100US_TO_1NS
  if !alloc then (d, [.nullFrame])
  else (d.netifRx ⟨canguruRecvFrame data d.ctrlmode, timeStamp, dataLen⟩ dataLen, [])

/-! ### Received frames -/

/-- The byte `i` of the payload of a frame. -/
def Frame.byte (i : ℕ) : Frame → UInt8
  | .can f => if h : i < CAN_MAX_DLEN then f.data ⟨i, h⟩ else 0
  | .canfd f => if h : i < CANFD_MAX_DLEN then f.data ⟨i, h⟩ else 0

/-- The kind of a frame. -/
def Frame.isFd : Frame → Bool
  | .can _ => false
  | .canfd _ => true

theorem canguruRecvFrame_isFd (data : List UInt8) (ctrlmode : UInt32) :
    (canguruRecvFrame data ctrlmode).isFd =
    (CanMsgHeader.ofNat (readLE 5 CanMsgHeader.size data)).canfd := by
  cases h : (CanMsgHeader.ofNat (readLE 5 CanMsgHeader.size data)).canfd <;>
    simp [canguruRecvFrame, h, Frame.isFd]

theorem canFdDlc2len_le (dlc : ℕ) : canFdDlc2len dlc ≤ CANFD_MAX_DLEN := by
  have hall : ∀ k < 16, canFdDlc2len k ≤ CANFD_MAX_DLEN := by decide
  have hmod : canFdDlc2len (dlc % 16) = canFdDlc2len dlc := by
    rw [canFdDlc2len, canFdDlc2len, Nat.mod_mod]
  exact hmod ▸ hall (dlc % 16) (Nat.mod_lt _ (by decide))

theorem canguruRecvLen_le (h : CanMsgHeader) : canguruRecvLen h ≤ CANFD_MAX_DLEN := by
  unfold canguruRecvLen
  split
  · exact canFdDlc2len_le _
  · exact (min_le_right _ _).trans (by decide)

/-- The payload of a received frame comes out of the message. -/
theorem canguruRecvFrame_byte {data : List UInt8} {ctrlmode : UInt32} {i : ℕ}
    (hi : i < canguruRecvLen (.ofNat (readLE 5 CanMsgHeader.size data))) :
    (canguruRecvFrame data ctrlmode).byte i = data.getD (CAN_RECV_HEADER_SIZE + i) 0 := by
  have hle := hi
  rw [canguruRecvLen] at hle
  cases h : (CanMsgHeader.ofNat (readLE 5 CanMsgHeader.size data)).canfd with
  | false =>
    rw [h, if_neg Bool.false_ne_true] at hle
    have h8 : i < CAN_MAX_DLEN := hle.trans_le (min_le_right _ _)
    simp [canguruRecvFrame, h, Frame.byte, h8, canFrameSetCcLen, copyPayload, hi]
  | true =>
    rw [h, if_pos rfl] at hle
    have h64 : i < CANFD_MAX_DLEN := hle.trans_le (canFdDlc2len_le _)
    simp [canguruRecvFrame, h, Frame.byte, h64, copyPayload, hi]

/-! ### Configuration -/

/-- `CANGURU_CAN_CLK`. -/
def CANGURU_CAN_CLK : UInt32 := 80000000

/-- `enum can_conf_mode`, the values the driver uses. -/
def CAN_NORMAL : UInt8 := 0

/-- `CAN_BUS_MONITORING`. -/
def CAN_BUS_MONITORING : UInt8 := 1

/-- `struct can_conf_msg`. -/
structure CanConfMsg where
  /-- `iface`. -/
  iface : UInt8
  /-- `baudRateA`. -/
  baudRateA : UInt32
  /-- `baudRateD`. -/
  baudRateD : UInt32
  /-- `canFdEnable`. -/
  canFdEnable : UInt8
  /-- `canMode`. -/
  canMode : UInt8
  deriving DecidableEq

/-- The bytes of the message. -/
def CanConfMsg.toBytes (m : CanConfMsg) : List UInt8 :=
  m.iface :: toLE 4 m.baudRateA.toNat ++ toLE 4 m.baudRateD.toNat ++ [m.canFdEnable, m.canMode]

/-- `struct can_timing`. -/
structure CanTiming where
  /-- `samplePoint`. -/
  samplePoint : UInt32
  /-- `idealTqNum`. -/
  idealTqNum : UInt32
  /-- `syncJumpWidth`. -/
  syncJumpWidth : UInt32
  deriving DecidableEq

/-- The bytes of the timing. -/
def CanTiming.toBytes (t : CanTiming) : List UInt8 :=
  toLE 4 t.samplePoint.toNat ++ toLE 4 t.idealTqNum.toNat ++ toLE 4 t.syncJumpWidth.toNat

/-- The `conf` of `canguru_set_bittiming`. -/
def canguruConf (d : NetDevice) : CanConfMsg where
  iface := d.channelIdx
  baudRateA := d.bittiming.bitrate
  baudRateD := d.dataBittiming.bitrate
  canFdEnable := if d.ctrlmode &&& CAN_CTRLMODE_FD ≠ 0 then 1 else 0
  canMode := if d.ctrlmode &&& CAN_CTRLMODE_LISTENONLY ≠ 0 then CAN_BUS_MONITORING else CAN_NORMAL

/-- The timing `canguru_set_bittiming` makes of a bit timing. -/
def canguruTiming (bt : CanBittiming) : CanTiming where
  samplePoint := bt.samplePoint
  idealTqNum := if bt.bitrate ≠ 0 then CANGURU_CAN_CLK / (bt.brp + 1) / bt.bitrate else 0
  syncJumpWidth := bt.sjw

/-- `canguru_set_can_conf`. -/
def canguruSetCanConf (o : SendOutcome) (value : CanConfMsg) : ℤ × List GuruData :=
  guruSendData o CAN_MSG_CONFIG_SET value.toBytes

/-- `canguru_set_can_timing` of `struct can_timing_msg`. -/
def canguruSetCanTiming (o : SendOutcome) (iface : UInt8) (nominal data : CanTiming) :
    ℤ × List GuruData :=
  guruSendData o CAN_MSG_TIMING_SET (iface :: nominal.toBytes ++ data.toBytes)

/-- `canguru_set_bittiming`, which is both `do_set_bittiming` and
`do_set_data_bittiming`, with how its two messages end. -/
def canguruSetBittiming (conf timing : SendOutcome) (d : NetDevice) : ℤ × List GuruData :=
  let (err, out) := canguruSetCanConf conf (canguruConf d)
  if err ≠ 0 then (err, out)
  else
    let (err, out') :=
      canguruSetCanTiming timing d.channelIdx (canguruTiming d.bittiming)
        (canguruTiming d.dataBittiming)
    (err, out ++ out')

/-! ### Opening and closing -/

/-- `canguru_set_can_enable`. -/
def canguruSetCanEnable (o : SendOutcome) (enable : Bool) (d : NetDevice) : ℤ × List GuruData :=
  guruSendData o CAN_MSG_ENABLE_SET [d.channelIdx, enable.toUInt8]

/-- `CAN_TERMINATION_DISABLED`. -/
def CAN_TERMINATION_DISABLED : UInt16 := 0

/-- `canguru_termination`, the values of `termination_const`. -/
def canguruTermination : List UInt16 := [CAN_TERMINATION_DISABLED, 120]

/-- `canguru_set_can_ter`. -/
def canguruSetCanTer (o : SendOutcome) (enable : Bool) (d : NetDevice) : ℤ × List GuruData :=
  guruSendData o CAN_MSG_TER_ENABLE [d.channelIdx, enable.toUInt8]

/-- `canguru_set_termination`. -/
def canguruSetTermination (o : SendOutcome) (term : UInt16) (d : NetDevice) : ℤ × List GuruData :=
  canguruSetCanTer o (term ≠ 0) d

/-- `canguru_can_reset`. -/
def canguruCanReset (o : SendOutcome) (d : NetDevice) : ℤ × List GuruData :=
  guruSendData o CAN_MSG_RESET [d.channelIdx]

/-- `canguru_set_global_filter`. -/
def canguruSetGlobalFilter (o : SendOutcome) (d : NetDevice) : ℤ × List GuruData :=
  guruSendData o CAN_MSG_GLOBAL_FILTER_SET [d.channelIdx, 1, 1, 0, 0]

/-- `canguru_ops_open`, with what `open_candev` returns and how the enable message
ends: what it returns, the channel and the messages sent. -/
def canguruOpsOpen (openErr : ℤ) (o : SendOutcome) (d : NetDevice) :
    ℤ × NetDevice × List GuruData :=
  let (err, d) := d.openCandev openErr
  if err ≠ 0 then (err, d, [])
  else
    let d := { d with state := .errorActive }.netifStartQueue
    let (_, out) := canguruSetCanEnable o true d
    (0, d, out)

/-- `canguru_ops_close`, with how the disable message ends. -/
def canguruOpsClose (o : SendOutcome) (d : NetDevice) : NetDevice × List GuruData :=
  let (_, out) := canguruSetCanEnable o false d
  let d := { d with state := .stopped }
  let d := d.netifStopQueue
  (d.closeCandev, out)

end CanGuru
