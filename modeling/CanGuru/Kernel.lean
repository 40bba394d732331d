import Mathlib.Data.Fintype.Pi

/-!
# The kernel side

What the driver uses of the CAN stack and the network core: frames, socket
buffers, and the net device of a channel with its transmit queue, its echo slot,
its counters and the reports of its byte queue.

## The model

A `NetDevice` is one `struct net_device` with its `struct can_priv`. The driver
puts echoes into slot `0` only, so there is one slot. The counters are not cut to
a word. Reports to the byte queue and the fate of socket buffers are kept as logs,
newest last, so that statements can speak of every call.

Functions of the kernel are named as in the source and follow what they are
documented to do; where the outcome is the kernel's to decide (an allocation, the
opening of a device) it is an argument.
-/

namespace CanGuru

/-! ### Error codes -/

/-- `ENOENT`. -/
def ENOENT : ℤ := 2

/-- `ENOMEM`. -/
def ENOMEM : ℤ := 12

/-- `EEXIST`. -/
def EEXIST : ℤ := 17

/-- `ENODEV`. -/
def ENODEV : ℤ := 19

/-- `EBUSY`. -/
def EBUSY : ℤ := 16

/-- `EINVAL`. -/
def EINVAL : ℤ := 22

/-- `EPIPE`. -/
def EPIPE : ℤ := 32

/-- `EPROTO`. -/
def EPROTO : ℤ := 71

/-- `ENOBUFS`. -/
def ENOBUFS : ℤ := 105

/-- `ESHUTDOWN`. -/
def ESHUTDOWN : ℤ := 108

/-! ### Frames -/

/-- The flag of an extended identifier in `can_id`. -/
def CAN_EFF_FLAG : UInt32 := 0x80000000

/-- The flag of a remote frame in `can_id`. -/
def CAN_RTR_FLAG : UInt32 := 0x40000000

/-- `CANFD_BRS` in the flags of a CAN FD frame. -/
def CANFD_BRS : UInt8 := 0x01

/-- `CANFD_ESI` in the flags of a CAN FD frame. -/
def CANFD_ESI : UInt8 := 0x02

/-- The longest payload of a classic frame. -/
def CAN_MAX_DLEN : ℕ := 8

/-- The longest payload of a CAN FD frame. -/
def CANFD_MAX_DLEN : ℕ := 64

/-- The greatest raw DLC. -/
def CAN_MAX_RAW_DLC : ℕ := 15

/-- `CAN_CTRLMODE_LISTENONLY`. -/
def CAN_CTRLMODE_LISTENONLY : UInt32 := 0x02

/-- `CAN_CTRLMODE_FD`. -/
def CAN_CTRLMODE_FD : UInt32 := 0x20

/-- `CAN_CTRLMODE_CC_LEN8_DLC`. -/
def CAN_CTRLMODE_CC_LEN8_DLC : UInt32 := 0x100

/-- `struct can_frame`. -/
@[ext]
structure CanFrame where
  /-- Identifier and flags. -/
  canId : UInt32
  /-- Payload length. -/
  len : UInt8
  /-- The raw DLC of a frame of length 8, or `0`. -/
  len8Dlc : UInt8
  /-- The payload. -/
  data : Fin CAN_MAX_DLEN → UInt8
  deriving DecidableEq

/-- `struct canfd_frame`. -/
@[ext]
structure CanfdFrame where
  /-- Identifier and flags. -/
  canId : UInt32
  /-- Payload length. -/
  len : UInt8
  /-- `CANFD_BRS`, `CANFD_ESI`. -/
  flags : UInt8
  /-- The payload. -/
  data : Fin CANFD_MAX_DLEN → UInt8
  deriving DecidableEq

/-- The frame of a socket buffer. -/
inductive Frame where
  /-- A classic frame. -/
  | can (f : CanFrame)
  /-- A CAN FD frame. -/
  | canfd (f : CanfdFrame)
  deriving DecidableEq

/-- `can_fd_dlc2len`. -/
def canFdDlc2len (dlc : ℕ) : ℕ :=
  [0, 1, 2, 3, 4, 5, 6, 7, 8, 12, 16, 20, 24, 32, 48, 64].getD (dlc % 16) 0

/-- `can_fd_len2dlc`: the least DLC whose length is enough, `0xF` past `64`. -/
def canFdLen2dlc (len : ℕ) : ℕ :=
  if len ≤ 8 then len else if len ≤ 12 then 9 else if len ≤ 16 then 10 else if len ≤ 20 then 11
  else if len ≤ 24 then 12 else if len ≤ 32 then 13 else if len ≤ 48 then 14 else 15

/-- `can_cc_dlc2len`. -/
def canCcDlc2len (dlc : ℕ) : ℕ := min dlc CAN_MAX_DLEN

/-- `can_get_cc_dlc`: the raw DLC if the mode asks for it and the frame has one. -/
def canGetCcDlc (f : CanFrame) (ctrlmode : UInt32) : ℕ :=
  if ctrlmode &&& CAN_CTRLMODE_CC_LEN8_DLC ≠ 0 ∧ f.len.toNat = CAN_MAX_DLEN ∧
      CAN_MAX_DLEN < f.len8Dlc.toNat ∧ f.len8Dlc.toNat ≤ CAN_MAX_RAW_DLC then
    f.len8Dlc.toNat
  else f.len.toNat

/-- `can_frame_set_cc_len`. -/
def canFrameSetCcLen (f : CanFrame) (dlc : ℕ) (ctrlmode : UInt32) : CanFrame :=
  { f with
    len8Dlc :=
      if ctrlmode &&& CAN_CTRLMODE_CC_LEN8_DLC ≠ 0 ∧ CAN_MAX_DLEN < dlc then UInt8.ofNat dlc
      else f.len8Dlc
    len := UInt8.ofNat (canCcDlc2len dlc) }

/-! ### Socket buffers and net devices -/

/-- A socket buffer handed to `ndo_start_xmit`. -/
structure Skb where
  /-- Its frame. -/
  frame : Frame
  /-- `can_skb_get_frame_len`: its bytes on the wire. -/
  frameLen : ℕ
  /-- `can_dropped_invalid_skb` drops it. -/
  invalid : Bool
  deriving DecidableEq

/-- The payload length that `can_get_echo_skb` returns: none for a remote frame. -/
def Skb.payloadLen (skb : Skb) : ℕ :=
  match skb.frame with
  | .can f => if f.canId &&& CAN_RTR_FLAG ≠ 0 then 0 else f.len.toNat
  | .canfd f => if f.canId &&& CAN_RTR_FLAG ≠ 0 then 0 else f.len.toNat

/-- What became of a socket buffer. -/
inductive Disposal where
  /-- Freed by `can_dropped_invalid_skb`. -/
  | invalid
  /-- Freed by a failing `can_put_echo_skb`. -/
  | refused
  /-- Given back to the stack by `can_get_echo_skb`. -/
  | echoed
  /-- Freed by `close_candev`. -/
  | flushed
  deriving DecidableEq

/-- The counters of a net device. -/
structure Stats where
  /-- `rx_packets`. -/
  rxPackets : ℕ
  /-- `rx_bytes`. -/
  rxBytes : ℕ
  /-- `tx_packets`. -/
  txPackets : ℕ
  /-- `tx_bytes`. -/
  txBytes : ℕ
  /-- `tx_errors`. -/
  txErrors : ℕ
  /-- `tx_dropped`. -/
  txDropped : ℕ
  deriving DecidableEq

/-- The states of a CAN controller the driver sets. -/
inductive CanState where
  /-- `CAN_STATE_ERROR_ACTIVE`. -/
  | errorActive
  /-- `CAN_STATE_STOPPED`. -/
  | stopped
  deriving DecidableEq

/-- A frame handed to `netif_rx`. -/
structure RxFrame where
  /-- The frame. -/
  frame : Frame
  /-- Its hardware time stamp in nanoseconds. -/
  hwtstamp : ℕ
  /-- How many bytes were copied from the message into the frame. -/
  copied : ℕ
  deriving DecidableEq

/-- The fields of `struct can_bittiming` the driver reads. -/
structure CanBittiming where
  /-- Bits per second. -/
  bitrate : UInt32
  /-- Sample point. -/
  samplePoint : UInt32
  /-- Synchronisation jump width. -/
  sjw : UInt32
  /-- Prescaler. -/
  brp : UInt32
  deriving DecidableEq

/-- A channel: `struct net_device`, its `struct can_priv` and the fields of
`struct canguru_priv` or `struct linguru_priv`. -/
structure NetDevice where
  /-- `channel_idx`. -/
  channelIdx : UInt8
  /-- `IFF_UP`: the last `ndo_open` returned `0` and no `ndo_stop` followed. -/
  up : Bool
  /-- The transmit queue is stopped. -/
  queueStopped : Bool
  /-- `can.state`. -/
  state : CanState
  /-- Calls of `open_candev` that returned `0`. -/
  candevOpens : ℕ
  /-- Calls of `close_candev`. -/
  candevCloses : ℕ
  /-- `can.ctrlmode`. -/
  ctrlmode : UInt32
  /-- `can.bittiming`. -/
  bittiming : CanBittiming
  /-- `can.data_bittiming`. -/
  dataBittiming : CanBittiming
  /-- `can.echo_skb[0]`. -/
  echoSkb : Option Skb
  /-- The counters. -/
  stats : Stats
  /-- What `netdev_sent_queue` was told. -/
  sentQueue : List ℕ
  /-- What `netdev_completed_queue` was told, `none` if the variable was not set. -/
  completedQueue : List (Option ℕ)
  /-- The frames received. -/
  rx : List RxFrame
  /-- The socket buffers disposed of. -/
  disposed : List (Skb × Disposal)
  deriving DecidableEq

/-- Fresh memory for the bit timing. -/
def CanBittiming.zero : CanBittiming := ⟨0, 0, 0, 0⟩

/-- Fresh counters. -/
def Stats.zero : Stats := ⟨0, 0, 0, 0, 0, 0⟩

/-- `alloc_candev`, and the fields `canguru_net_create` and `linguru_net_create`
set. -/
def NetDevice.create (channelIdx : UInt8) : NetDevice where
  channelIdx := channelIdx
  up := false
  queueStopped := false
  state := .stopped
  candevOpens := 0
  candevCloses := 0
  ctrlmode := 0
  bittiming := .zero
  dataBittiming := .zero
  echoSkb := none
  stats := .zero
  sentQueue := []
  completedQueue := []
  rx := []
  disposed := []

namespace NetDevice

/-- `netif_start_queue`. -/
def netifStartQueue (d : NetDevice) : NetDevice := { d with queueStopped := false }

/-- `netif_stop_queue`. -/
def netifStopQueue (d : NetDevice) : NetDevice := { d with queueStopped := true }

/-- `netif_wake_queue`. -/
def netifWakeQueue (d : NetDevice) : NetDevice := { d with queueStopped := false }

/-- `netdev_sent_queue`. -/
def netdevSentQueue (bytes : ℕ) (d : NetDevice) : NetDevice :=
  { d with sentQueue := d.sentQueue ++ [bytes] }

/-- `netdev_completed_queue` for one packet. -/
def netdevCompletedQueue (bytes : Option ℕ) (d : NetDevice) : NetDevice :=
  { d with completedQueue := d.completedQueue ++ [bytes] }

/-- A socket buffer reaches its end. -/
def dispose (skb : Skb) (how : Disposal) (d : NetDevice) : NetDevice :=
  { d with disposed := d.disposed ++ [(skb, how)] }

/-- What `can_dropped_invalid_skb` does with a buffer it drops. -/
def dropInvalidSkb (skb : Skb) (d : NetDevice) : NetDevice :=
  { d.dispose skb .invalid with stats := { d.stats with txDropped := d.stats.txDropped + 1 } }

/-- `can_put_echo_skb` on slot `0` of a device with `IFF_ECHO`: `oom` if the clone
cannot be allocated. The buffer is consumed on every outcome. -/
def canPutEchoSkb (oom : Bool) (skb : Skb) (frameLen : ℕ) (d : NetDevice) : ℤ × NetDevice :=
  match d.echoSkb with
  | some _ => (-EBUSY, d.dispose skb .refused)
  | none =>
    if oom then (-ENOMEM, d.dispose skb .refused)
    else (0, { d with echoSkb := some { skb with frameLen := frameLen } })

/-- `can_get_echo_skb` on slot `0`: the payload length, and the frame length if it
is set; an empty slot leaves it unset. -/
def canGetEchoSkb (d : NetDevice) : ℕ × Option ℕ × NetDevice :=
  match d.echoSkb with
  | some skb => (skb.payloadLen, some skb.frameLen, { d.dispose skb .echoed with echoSkb := none })
  | none => (0, none, d)

/-- `open_candev`, which returns `err`. -/
def openCandev (err : ℤ) (d : NetDevice) : ℤ × NetDevice :=
  if err ≠ 0 then (err, d) else (0, { d with candevOpens := d.candevOpens + 1 })

/-- `close_candev`: it frees the echo and counts it as dropped. -/
def closeCandev (d : NetDevice) : NetDevice :=
  match d.echoSkb with
  | some skb => { d.dispose skb .flushed with
      echoSkb := none, candevCloses := d.candevCloses + 1,
      stats := { d.stats with txDropped := d.stats.txDropped + 1 } }
  | none => { d with candevCloses := d.candevCloses + 1 }

/-- `close_candev` empties the slot, and touches the counters and the buffers disposed of. -/
theorem closeCandev_eq (d : NetDevice) : ∃ stats disposed, d.closeCandev =
    { d with echoSkb := none, candevCloses := d.candevCloses + 1, stats := stats, disposed := disposed } := by
  cases he : d.echoSkb with
  | some skb => exact ⟨_, _, by rw [closeCandev, he]; rfl⟩
  | none =>
    refine ⟨d.stats, d.disposed, ?_⟩
    rw [closeCandev, he]

/-- The count of a received frame and `netif_rx`. -/
def netifRx (f : RxFrame) (dataLen : ℕ) (d : NetDevice) : NetDevice :=
  { d with
    rx := d.rx ++ [f]
    stats := { d.stats with rxPackets := d.stats.rxPackets + 1, rxBytes := d.stats.rxBytes + dataLen } }

end NetDevice

end CanGuru
