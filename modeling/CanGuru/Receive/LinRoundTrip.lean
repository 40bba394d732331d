import CanGuru.Receive.RoundTrip

/-!
# The round trip of a LIN frame

The bytes `linguru_start_xmit` sends for a frame, reported by the device as a received
frame, are decoded to the frame they came from.

## The model

`reflectedLin` is the device's part: the message gets the id of a received frame, and its
data is kept, so that the delay the driver sent stands where the time stamp is read.
`Frame.linNormalised` is what is left of a frame on the bus: the six bits of its identifier,
the two flags LIN knows, and the payload up to its length.

## What is proved

`lin_recv_send` — every frame that is sent without a raw DLC comes back normalised, once, on
its own channel, and nothing else changes.
-/

namespace CanGuru

open Packed

/-! ### Frames on the bus -/

/-- The bits of an identifier that LIN keeps. -/
def LIN_KEPT_MASK : UInt32 := LIN_ID_MASK ||| LIN_ENHANCED_SUM_FLAG ||| CAN_RTR_FLAG

/-- What is left of a frame on the bus. -/
def CanFrame.linNormalised (f : CanFrame) : CanFrame where
  canId := f.canId &&& LIN_KEPT_MASK
  len := f.len
  len8Dlc := 0
  data := normalisedData f.data f.len.toNat

/-- The message with which the device reports the frame it was sent in `m`. -/
def reflectedLin (m : GuruData) : GuruData := { m with id := LIN_MSG_RECV }

/-! ### Identifiers -/

/-- The identifier and its flags are kept one by one. -/
theorem and_kept (canId : UInt32) :
    canId &&& LIN_KEPT_MASK =
      (canId &&& LIN_ID_MASK) ||| (canId &&& LIN_ENHANCED_SUM_FLAG) |||
      (canId &&& CAN_RTR_FLAG) := by
  rw [LIN_KEPT_MASK, and_or_distrib, and_or_distrib]

/-- The identifier is put together again from what the header has of it. -/
theorem recvLinId (canId : UInt32) :
    (if canId &&& LIN_ENHANCED_SUM_FLAG ≠ 0 then
        (if canId &&& CAN_RTR_FLAG ≠ 0 then (canId &&& LIN_ID_MASK) ||| CAN_RTR_FLAG else canId &&&
          LIN_ID_MASK) ||| LIN_ENHANCED_SUM_FLAG
      else if canId &&& CAN_RTR_FLAG ≠ 0 then (canId &&& LIN_ID_MASK) ||| CAN_RTR_FLAG else canId &&& LIN_ID_MASK) =
      canId &&& LIN_KEPT_MASK := by
  have hsum := @and_flag LIN_ENHANCED_SUM_FLAG 6 rfl canId
  have hrtr := @and_flag CAN_RTR_FLAG 30 rfl canId
  have hor : ∀ a b c : UInt32, (a ||| b) ||| c = (a ||| c) ||| b := by
    intro a b c
    rw [UInt32.or_assoc, UInt32.or_comm b, ← UInt32.or_assoc]
  rw [and_kept]
  by_cases hs : canId &&& LIN_ENHANCED_SUM_FLAG = 0
  · by_cases hr : canId &&& CAN_RTR_FLAG = 0
    · simp [hs, hr]
    · rw [if_pos hr] at hrtr
      rw [if_neg (not_not.mpr hs), if_pos hr, hs, hrtr, UInt32.or_zero]
  · rw [if_pos hs] at hsum
    by_cases hr : canId &&& CAN_RTR_FLAG = 0
    · rw [if_pos hs, if_neg (not_not.mpr hr), hsum, hr, UInt32.or_zero]
    · rw [if_pos hr] at hrtr
      rw [if_pos hs, if_pos hr, hsum, hrtr, hor]

/-! ### Messages -/

/-- The header `linguru_lin_send` fills in. -/
def linHeader (ctrlmode : UInt32) (f : CanFrame) : LinMsgHeader where
  dataLen := UInt8.ofNat (canGetCcDlc f ctrlmode)
  remoteData := f.canId &&& CAN_RTR_FLAG ≠ 0
  enhancedSum := f.canId &&& LIN_ENHANCED_SUM_FLAG ≠ 0
  id := (f.canId &&& LIN_ID_MASK).toNat

theorem linHeader_id_lt (ctrlmode : UInt32) (f : CanFrame) : (linHeader ctrlmode f).id < 2 ^ 6 :=
  lt_of_le_of_lt (UInt32.toNat_and .. ▸ Nat.and_le_right) (by decide)

/-- The data of a message that sends a frame: interface, delay, header, payload. -/
def linData (d : NetDevice) (f : CanFrame) : List UInt8 :=
  d.channelIdx :: toLE 4 0 ++ (linHeader d.ctrlmode f).toBytes ++
    (List.ofFn f.data).take f.len.toNat

theorem length_linData (d : NetDevice) {f : CanFrame} (hf : f.len.toNat ≤ CAN_MAX_DLEN) :
    (linData d f).length = LIN_MASTER_HEADER_SIZE + LinMsgHeader.size + f.len.toNat := by
  simp [linData, LIN_MASTER_HEADER_SIZE, LinMsgHeader.size, hf]
  omega

theorem linguruLinSend_ok (d : NetDevice) {f : CanFrame} (hf : f.len.toNat ≤ CAN_MAX_DLEN) :
    linguruLinSend .ok d f = (0, [.fill LIN_MSG_SEND (linData d f)]) := by
  have htake : (linData d f ++ List.replicate (LIN_MAX_DLEN - f.len.toNat) 0).take
      (LIN_MASTER_HEADER_SIZE + LinMsgHeader.size + f.len.toNat) = linData d f :=
    List.take_left' (length_linData d hf)
  rw [linData, List.append_assoc _ _ (List.replicate _ _)] at htake
  rw [linguruLinSend, guruSendData]
  exact congrArg (fun data => (0, [GuruData.fill LIN_MSG_SEND data])) htake

/-- The header is read back, whatever follows the message. -/
theorem ofBytes_linData (d : NetDevice) (f : CanFrame) (post : List UInt8) :
    LinMsgHeader.ofBytes LIN_MASTER_HEADER_SIZE (linData d f ++ post) = linHeader d.ctrlmode f := by
  rw [linData, List.append_assoc]
  exact LinMsgHeader.ofBytes_append (linHeader_id_lt _ _) _ _ (by simp [LIN_MASTER_HEADER_SIZE])

/-- A frame of a mode without raw DLCs declares its length. -/
theorem canGetCcDlc_off {ctrlmode : UInt32} (hmode : ctrlmode &&& CAN_CTRLMODE_CC_LEN8_DLC = 0)
    (f : CanFrame) : canGetCcDlc f ctrlmode = f.len.toNat := if_neg fun h => h.1 hmode

/-- A frame that was sent without a raw DLC is decoded, whatever the mode is now. -/
theorem linguruRecvFrame_linData {d : NetDevice}
    (hmode : d.ctrlmode &&& CAN_CTRLMODE_CC_LEN8_DLC = 0) {f : CanFrame}
    (hf : f.len.toNat ≤ CAN_MAX_DLEN) (ctrlmode : UInt32) (post : List UInt8) :
    linguruRecvFrame (linData d f ++ post) ctrlmode = f.linNormalised := by
  have hlen : (linHeader d.ctrlmode f).dataLen = f.len := by
    rw [linHeader, canGetCcDlc_off hmode, UInt8.ofNat_toNat]
  have hcopy : copyPayload CAN_MAX_DLEN (LIN_MASTER_HEADER_SIZE + LinMsgHeader.size) f.len.toNat
      (linData d f ++ post) = normalisedData f.data f.len.toNat := by
    rw [linData, List.append_assoc]
    exact copyPayload_append f.data _ post (by simp [LIN_MASTER_HEADER_SIZE, LinMsgHeader.size]) hf
  have hset : ∀ g : CanFrame, g.len8Dlc = 0 →
      canFrameSetCcLen g f.len.toNat ctrlmode = { g with len := f.len } := by
    intro g hg
    rw [canFrameSetCcLen, if_neg fun h => Nat.not_lt.mpr hf h.2, canCcDlc2len, min_eq_left hf,
      UInt8.ofNat_toNat]
  rw [linguruRecvFrame, ofBytes_linData, hlen, hcopy, hset _ rfl, CanFrame.linNormalised,
    ← recvLinId]
  simp only [linHeader, UInt32.ofNat_toNat, decide_eq_true_eq]

/-- What a channel does with a frame that was sent without a raw DLC. -/
theorem linguruNetRecv_linData {d₀ d : NetDevice}
    (hmode : d₀.ctrlmode &&& CAN_CTRLMODE_CC_LEN8_DLC = 0) {f : CanFrame}
    (hf : f.len.toNat ≤ CAN_MAX_DLEN) (post : List UInt8) :
    linguruNetRecv true (linData d₀ f ++ post) d =
      (d.netifRx ⟨.can f.linNormalised, 0, f.len.toNat⟩ f.len.toNat, []) := by
  have hlen : (linHeader d₀.ctrlmode f).dataLen = f.len := by
    rw [linHeader, canGetCcDlc_off hmode, UInt8.ofNat_toNat]
  have hdelay : readLE 1 4 (linData d₀ f ++ post) = 0 := by
    rw [linData, List.append_assoc, List.append_assoc]
    exact readLE_append [d₀.channelIdx] _ 0 rfl
  rw [linguruNetRecv, hdelay, ofBytes_linData, hlen, linguruRecvFrame_linData hmode hf,
    if_neg (show ¬ LIN_MAX_DLEN < f.len.toNat from Nat.not_lt.mpr hf), Nat.zero_mul]
  rfl

/-! ### The round trip -/

/-- **The round trip**: every frame that is sent in a mode without raw DLCs comes back
normalised, once, on its own channel, and nothing else changes. The channel may have
changed between the two. -/
theorem lin_recv_send {k : DeviceKind} (hk : k.hasLin = true) {self : Guru}
    (hl : self.msgList = k.msgList) {c : ℕ} {d₀ d : NetDevice} (hc : c < self.dev.lin.ifaceCount)
    (hd : self.dev.lin.netdev c = some d) (hidx : d₀.channelIdx.toNat = c)
    (hmode : d₀.ctrlmode &&& CAN_CTRLMODE_CC_LEN8_DLC = 0) {f : CanFrame}
    (hf : f.len.toNat ≤ CAN_MAX_DLEN) :
    ∃ m, linguruLinSend .ok d₀ f = (0, [m]) ∧ (reflectedLin m).padded.length = GURU_DATA_SIZE ∧
      (canguruProcessMsgList (runCallback true) self (.ofBytes (reflectedLin m).padded)).dev =
        { self.dev with
          lin :=
            { self.dev.lin with
              netdev := Function.update self.dev.lin.netdev c (some
                { d with
                  rx := d.rx ++ [⟨.can f.linNormalised, 0, f.len.toNat⟩]
                  stats :=
                    { d.stats with
                      rxPackets := d.stats.rxPackets + 1
                      rxBytes := d.stats.rxBytes + f.len.toNat } }) } } := by
  refine ⟨_, linguruLinSend_ok d₀ hf, length_padded ?_, ?_⟩
  · rw [show (reflectedLin (.fill LIN_MSG_SEND (linData d₀ f))).data = linData d₀ f from rfl,
      length_linData d₀ hf]
    unfold LIN_MASTER_HEADER_SIZE LinMsgHeader.size GURU_MAX_DATA_SIZE CAN_MAX_DLEN at *
    omega
  · rw [GuruData.padded, ofBytes_toBytes_append]
    generalize List.replicate _ (0 : UInt8) = post
    rw [processMsgList_lin_recv true hk hl rfl]
    generalize hmsg : CurrMsg.ofMsg _ = msg
    have hbytes : msg.data.getD [] = linData d₀ f ++ post := hmsg ▸ rfl
    have hbyte : (msg.byte 0).toNat = c := by
      rw [CurrMsg.byte, hbytes]
      exact hidx
    have hcall := @MsgNet.recvCallback_some (linguruNetRecv true) _ _ _ _ hbyte hc hd
    have hmod := MsgNet.modify_congr (f := fun d => (linguruNetRecv true (msg.data.getD []) d).1)
      (g := .netifRx ⟨.can f.linNormalised, 0, f.len.toNat⟩ f.len.toNat) hd
      (by rw [hbytes, linguruNetRecv_linData hmode hf])
    rw [linguruRecvCallback, hcall, hmod, hbytes, linguruNetRecv_linData hmode hf,
      MsgNet.modify, hd]
    simp only [List.append_nil]
    rfl

/-- A remote frame with the enhanced checksum and bits past the identifier. -/
def linFrame : CanFrame := ⟨0x400000FF, 2, 0, fun i => UInt8.ofNat (i + 1)⟩

/-- A frame goes round on channel 4. -/
theorem lin_recv_send_remote :
    ∃ m, linguruLinSend .ok (.create 4) linFrame = (0, [m]) ∧
      (reflectedLin m).padded.length = GURU_DATA_SIZE ∧
      (canguruProcessMsgList (runCallback true) DeviceKind.linguru.ready (.ofBytes (reflectedLin m).padded)).dev =
        { DeviceKind.linguru.ready.dev with
          lin :=
            { DeviceKind.linguru.ready.dev.lin with
              netdev := Function.update DeviceKind.linguru.ready.dev.lin.netdev 4 (some
                { NetDevice.create 4 with
                  rx := [⟨.can linFrame.linNormalised, 0, 2⟩]
                  stats := { (NetDevice.create 4).stats with rxPackets := 1, rxBytes := 2 } }) } } :=
  @lin_recv_send .linguru rfl DeviceKind.linguru.ready rfl 4 (.create 4) (.create 4) (by decide)
    rfl rfl rfl linFrame
    (by decide)

end CanGuru
