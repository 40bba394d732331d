import Mathlib.Data.List.GetD
import CanGuru.CanguruNet

/-!
# A LIN channel

`linguru-net.c`: the packed structures of the LIN messages, the encoding of a
frame for transmission, the decoding of a received one, and the operations of the
net device.

## What is proved

* `LinMsgHeader.ofBytes_append` — the fields of a header are read back where they stand.
-/

namespace CanGuru

open Packed

/-! ### Messages -/

/-- `LIN_MSG_CONFIG_SET`. -/
def LIN_MSG_CONFIG_SET : UInt16 := 0x0D00

/-- `LIN_MSG_ENABLE_SET`. -/
def LIN_MSG_ENABLE_SET : UInt16 := 0x0D02

/-- `LIN_MSG_MASTER_ENABLE_SET`. -/
def LIN_MSG_MASTER_ENABLE_SET : UInt16 := 0x0D04

/-- `LIN_MSG_SEND`. -/
def LIN_MSG_SEND : UInt16 := 0x0D06

/-- `LIN_MSG_RECV`. -/
def LIN_MSG_RECV : UInt16 := 0x0D07

/-- `LIN_MSG_RESET`. -/
def LIN_MSG_RESET : UInt16 := 0x0D08

/-- `LIN_MSG_VOLT_GET`. -/
def LIN_MSG_VOLT_GET : UInt16 := 0x0D20

/-- `LIN_MAX_DLEN`. -/
def LIN_MAX_DLEN : ℕ := 8

/-- `LINGURU_100US_TO_1NS`. -/
def LINGURU_100US_TO_1NS : ℕ := 100000

/-- `LIN_ID_MASK`. -/
def LIN_ID_MASK : UInt32 := 0x3f

/-- `LIN_ENHANCED_SUM_FLAG`. -/
def LIN_ENHANCED_SUM_FLAG : UInt32 := 0x40

/-- `enum lin_mode`, the values the driver uses. -/
def LIN_MODE_MONITORING : UInt8 := 0

/-- `LIN_MODE_MASTER_USER`. -/
def LIN_MODE_MASTER_USER : UInt8 := 2

/-- `struct lin_msg_header`. -/
@[ext]
structure LinMsgHeader where
  /-- `id`, 6 bits. -/
  id : ℕ
  /-- `remote_data`. -/
  remoteData : Bool
  /-- `enhanced_sum`. -/
  enhancedSum : Bool
  /-- `data_len`. -/
  dataLen : UInt8
  deriving DecidableEq

namespace LinMsgHeader

/-- The widths of the bit fields, from the lowest bit up. -/
def widths : List ℕ := [6, 1, 1]

/-- The bytes of a header: the bit fields, then the length. -/
def toBytes (h : LinMsgHeader) : List UInt8 :=
  toLE 1 (pack [(6, h.id), (1, h.remoteData.toNat), (1, h.enhancedSum.toNat)]) ++ [h.dataLen]

/-- The header at offset `o` of a message. -/
def ofBytes (o : ℕ) (data : List UInt8) : LinMsgHeader :=
  let f := unpack widths (readLE o 1 data)
  { id := f.getD 0 0
    remoteData := f.getD 1 0 = 1
    enhancedSum := f.getD 2 0 = 1
    dataLen := data.getD (o + 1) 0 }

/-- `sizeof(struct lin_msg_header)`. -/
def size : ℕ := 2

@[simp] theorem length_toBytes (h : LinMsgHeader) : h.toBytes.length = size := rfl

/-- The bit fields with their widths. -/
def fields (h : LinMsgHeader) : List (ℕ × ℕ) :=
  [(6, h.id), (1, h.remoteData.toNat), (1, h.enhancedSum.toNat)]

/-- **The fields of a header are read back** at its offset, if they fit. -/
theorem ofBytes_append {o : ℕ} {h : LinMsgHeader} (hid : h.id < 2 ^ 6) (pre post : List UInt8)
    (ho : pre.length = o) : ofBytes o (pre ++ h.toBytes ++ post) = h := by
  have hb : ∀ b : Bool, decide (b.toNat % 2 ^ 1 = 1) = b := by decide
  have hlt : pack h.fields < 2 ^ 8 := pack_lt _
  have hbits : readLE o 1 (pre ++ h.toBytes ++ post) = pack h.fields := by
    rw [toBytes, ← List.append_assoc, List.append_assoc, readLE_append _ _ _ ho]
    exact Nat.mod_eq_of_lt (hlt.trans_eq (by norm_num))
  have hlen : (pre ++ h.toBytes ++ post).getD (o + 1) 0 = h.dataLen := by
    rw [List.append_assoc, List.getD_append_right _ _ _ _ (by omega), ho, Nat.add_sub_cancel_left]
    rfl
  have hu : unpack widths (pack h.fields) = h.fields.map fun f => f.2 % 2 ^ f.1 :=
    unpack_pack h.fields
  rw [ofBytes, hbits, hlen, hu]
  ext1
  case id => exact Nat.mod_eq_of_lt hid
  case dataLen => rfl
  all_goals exact hb _

end LinMsgHeader

/-- `sizeof(struct lin_master_header)`, and of `struct lin_recv_header`. -/
def LIN_MASTER_HEADER_SIZE : ℕ := 5

/-- `linguru_lin_send`. -/
def linguruLinSend (o : SendOutcome) (d : NetDevice) (frame : CanFrame) : ℤ × List GuruData :=
  let header : LinMsgHeader :=
    { dataLen := UInt8.ofNat (canGetCcDlc frame d.ctrlmode)
      remoteData := frame.canId &&& CAN_RTR_FLAG ≠ 0
      enhancedSum := frame.canId &&& LIN_ENHANCED_SUM_FLAG ≠ 0
      id := (frame.canId &&& LIN_ID_MASK).toNat }
  let delay := 0
  let msg := d.channelIdx :: toLE 4 delay ++ header.toBytes ++
    ((List.ofFn frame.data).take frame.len.toNat ++ List.replicate (LIN_MAX_DLEN - frame.len.toNat) 0)
  guruSendData o LIN_MSG_SEND (msg.take (LIN_MASTER_HEADER_SIZE + LinMsgHeader.size + frame.len.toNat))

/-- The bytes of a frame, read as a `struct can_frame`. -/
def Frame.asCan : Frame → CanFrame
  | .can f => f
  | .canfd f =>
    { canId := f.canId, len := f.len, len8Dlc := 0, data := fun i => f.data (i.castLE (by decide)) }

/-- What `linguru_start_xmit` sends: it takes every frame for a classic one. -/
def linguruSend : MsgNet.Send := fun o d skb => linguruLinSend o d skb.frame.asCan

/-! ### Reception -/

/-- The frame `linguru_net_recv` fills in from a message. -/
def linguruRecvFrame (data : List UInt8) (ctrlmode : UInt32) : CanFrame :=
  let header := LinMsgHeader.ofBytes LIN_MASTER_HEADER_SIZE data
  let dataLen := header.dataLen.toNat
  let canId := UInt32.ofNat header.id
  let canId := if header.remoteData then canId ||| CAN_RTR_FLAG else canId
  let canId := if header.enhancedSum then canId ||| LIN_ENHANCED_SUM_FLAG else canId
  let frame : CanFrame :=
    { canId := canId
      len := 0
      len8Dlc := 0
      data := copyPayload CAN_MAX_DLEN (LIN_MASTER_HEADER_SIZE + LinMsgHeader.size) dataLen data }
  canFrameSetCcLen frame dataLen ctrlmode

/-- `linguru_net_recv` on a channel, with the frame allocated or not. Nothing bounds
its copy, out of a response and into a payload of 8 bytes. -/
def linguruNetRecv (alloc : Bool) (data : List UInt8) (d : NetDevice) : NetDevice × List Fault :=
  let dataLen := (LinMsgHeader.ofBytes LIN_MASTER_HEADER_SIZE data).dataLen.toNat
  let timeStamp := readLE 1 4 data * LINGURU_100US_TO_1NS
  if !alloc then (d, [.nullFrame])
  else
    (d.netifRx ⟨.can (linguruRecvFrame data d.ctrlmode), timeStamp, dataLen⟩ dataLen,
      if LIN_MAX_DLEN < dataLen then [.outOfBounds dataLen LIN_MAX_DLEN] else [])

/-! ### Opening and closing -/

/-- `linguru_set_lin_conf`: `struct lin_conf_msg`. -/
def linguruSetLinConf (o : SendOutcome) (d : NetDevice) : ℤ × List GuruData :=
  let mode :=
    if d.ctrlmode &&& CAN_CTRLMODE_LISTENONLY ≠ 0 then LIN_MODE_MONITORING else LIN_MODE_MASTER_USER
  guruSendData o LIN_MSG_CONFIG_SET (d.channelIdx :: toLE 4 d.bittiming.bitrate.toNat ++ [mode])

/-- `linguru_set_lin_enable`. -/
def linguruSetLinEnable (o : SendOutcome) (enable : Bool) (d : NetDevice) : ℤ × List GuruData :=
  guruSendData o LIN_MSG_ENABLE_SET [d.channelIdx, enable.toUInt8]

/-- `linguru_termination`: the pull-up of a master is 1 kOhm. -/
def linguruTermination : List UInt16 := [CAN_TERMINATION_DISABLED, 1000]

/-- `linguru_set_lin_master`. -/
def linguruSetLinMaster (o : SendOutcome) (enable : Bool) (d : NetDevice) : ℤ × List GuruData :=
  guruSendData o LIN_MSG_MASTER_ENABLE_SET [d.channelIdx, enable.toUInt8]

/-- `linguru_set_termination`. -/
def linguruSetTermination (o : SendOutcome) (term : UInt16) (d : NetDevice) : ℤ × List GuruData :=
  linguruSetLinMaster o (term ≠ 0) d

/-- `linguru_lin_reset`. -/
def linguruLinReset (o : SendOutcome) (d : NetDevice) : ℤ × List GuruData :=
  guruSendData o LIN_MSG_RESET [d.channelIdx]

/-- `linguru_set_bittiming`, which leaves the configuration to `ndo_open`. -/
def linguruSetBittiming (_ : NetDevice) : ℤ × List GuruData := (0, [])

/-- `linguru_ops_open`, with what `open_candev` returns and how the configuration
and the enable message end. -/
def linguruOpsOpen (openErr : ℤ) (conf o : SendOutcome) (d : NetDevice) :
    ℤ × NetDevice × List GuruData :=
  let confMsg := linguruSetLinConf conf d
  let (err, d) := d.openCandev openErr
  if err ≠ 0 then (err, d, [])
  else
    let (err, out) := confMsg
    if err ≠ 0 then (err, d, out)
    else
      let d := { d with state := .errorActive }.netifStartQueue
      let (_, out') := linguruSetLinEnable o true d
      (0, d, out ++ out')

/-- `linguru_ops_close`, with how the disable message ends. -/
def linguruOpsClose (o : SendOutcome) (d : NetDevice) : NetDevice × List GuruData :=
  let (_, out) := linguruSetLinEnable o false d
  let d := { d with state := .stopped }
  let d := d.netifStopQueue
  (d.closeCandev, out)

end CanGuru
