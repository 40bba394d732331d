import CanGuru.Driver

/-!
# The round trip of a CAN frame

The bytes `canguru_start_xmit` sends for a frame, turned into the message with
which the device reports a received frame, are decoded to the frame they came from.

## The model

`reflected` is the device's part: it puts a time stamp after the interface byte,
gives the message the id of a received frame, counts the four bytes more and fills
the transfer up with zeros. `Frame.normalised` is what is left of a frame on the
bus: the identifier cut to its width, the flags a CAN controller knows, and the
payload up to its length.

## What is proved

`recv_send` — every frame the stack may hand over comes back normalised, once, on
its own channel, and nothing else changes.
-/

namespace CanGuru

open Packed

/-! ### Frames on the bus -/

/-- The identifier on the bus, with the two flags that are kept. -/
def normalisedId (canId : UInt32) : UInt32 :=
  let base := if canId &&& CAN_EFF_FLAG ≠ 0 then canId &&& CAN_EXT_ID_MASK ||| CAN_EFF_FLAG
    else canId &&& CAN_STD_ID_MASK
  if canId &&& CAN_RTR_FLAG ≠ 0 then base ||| CAN_RTR_FLAG else base

/-- The raw DLC past 8 that the mode lets a frame have, or `0`. -/
def normalisedLen8Dlc (f : CanFrame) (ctrlmode : UInt32) : UInt8 :=
  if ctrlmode &&& CAN_CTRLMODE_CC_LEN8_DLC ≠ 0 ∧ f.len = 8 ∧ 9 ≤ f.len8Dlc ∧ f.len8Dlc ≤ 15 then
    f.len8Dlc
  else 0

/-- The first `len` bytes of a payload. -/
def normalisedData {n : ℕ} (payload : Fin n → UInt8) (len : ℕ) : Fin n → UInt8 :=
  fun i => if i.val < len then payload i else 0

/-- What is left of a frame on the bus. -/
def Frame.normalised (ctrlmode : UInt32) : Frame → Frame
  | .can f => .can
    { canId := normalisedId f.canId
      len := f.len
      len8Dlc := normalisedLen8Dlc f ctrlmode
      data := normalisedData f.data f.len.toNat }
  | .canfd f => .canfd
    { canId := normalisedId f.canId
      len := f.len
      flags := f.flags &&& (CANFD_ESI ||| CANFD_BRS)
      data := normalisedData f.data f.len.toNat }

/-- The payload length of a frame. -/
def Frame.len : Frame → ℕ
  | .can f => f.len.toNat
  | .canfd f => f.len.toNat

/-- The lengths of CAN FD frames. -/
def canfdLens : List ℕ := [0, 1, 2, 3, 4, 5, 6, 7, 8, 12, 16, 20, 24, 32, 48, 64]

/-- The frames the stack may hand to `canguru_start_xmit`. -/
def Frame.Sendable : Frame → Prop
  | .can f => f.len.toNat ≤ CAN_MAX_DLEN
  | .canfd f => f.len.toNat ∈ canfdLens

/-! ### The device -/

/-- The message with which the device reports, at time `ts`, the frame it was sent
in `m`. -/
def reflected (ts : UInt32) (m : GuruData) : GuruData :=
  { m with
    id := CAN_MSG_RECV
    dataCount := m.dataCount + 4
    data := m.data.take 1 ++ toLE 4 ts.toNat ++ m.data.drop 1 }

/-- A transfer of the message, filled up with zeros. -/
def GuruData.padded (m : GuruData) : List UInt8 :=
  m.toBytes ++ List.replicate (GURU_DATA_SIZE - m.toBytes.length) 0

/-! ### Headers -/

theorem headerId_lt (canId : UInt32) : headerId canId < 2 ^ 29 := by
  unfold headerId
  split
  · exact lt_of_le_of_lt (UInt32.toNat_and .. ▸ Nat.and_le_right) (by decide)
  · exact lt_of_le_of_lt (UInt32.toNat_and .. ▸ Nat.and_le_right) (by decide)

/-- The identifier is read back, cut to its width. -/
theorem recvId_headerId {h : CanMsgHeader} {canId : UInt32} (hid : h.canId = headerId canId)
    (hext : h.extendedId = decide (canId &&& CAN_EFF_FLAG ≠ 0))
    (hrtr : h.remoteFrame = decide (canId &&& CAN_RTR_FLAG ≠ 0)) :
    recvId h = normalisedId canId := by
  have hor : ∀ a : UInt32, (a ||| CAN_RTR_FLAG) ||| CAN_EFF_FLAG = (a ||| CAN_EFF_FLAG) |||
      CAN_RTR_FLAG := by
    intro a
    rw [UInt32.or_assoc, UInt32.or_comm CAN_RTR_FLAG, ← UInt32.or_assoc]
  rw [recvId, normalisedId, hid, hext, hrtr, headerId]
  by_cases he : canId &&& CAN_EFF_FLAG = 0
  · by_cases hr : canId &&& CAN_RTR_FLAG = 0 <;> simp [he, hr]
  · by_cases hr : canId &&& CAN_RTR_FLAG = 0 <;> simp [he, hr, hor]

theorem canfdLens_le {len : ℕ} (h : len ∈ canfdLens) : len ≤ CANFD_MAX_DLEN := by
  have hall : ∀ len ∈ canfdLens, len ≤ CANFD_MAX_DLEN := by decide
  exact hall len h

/-- The DLC of a valid FD length has that length. -/
theorem canFdDlc2len_len2dlc {len : ℕ} (h : len ∈ canfdLens) :
    canFdDlc2len (canFdLen2dlc len) = len := by
  have hall : ∀ len ∈ canfdLens, canFdDlc2len (canFdLen2dlc len) = len := by decide
  exact hall len h

theorem canFdLen2dlc_lt (len : ℕ) : canFdLen2dlc len < 2 ^ 4 := by
  unfold canFdLen2dlc
  split_ifs <;> omega

/-- The mode lets a frame have its raw DLC past 8. -/
theorem normalisedLen8Dlc_eq (f : CanFrame) (ctrlmode : UInt32) :
    normalisedLen8Dlc f ctrlmode =
      if ctrlmode &&& CAN_CTRLMODE_CC_LEN8_DLC ≠ 0 ∧ f.len.toNat = CAN_MAX_DLEN ∧
        CAN_MAX_DLEN < f.len8Dlc.toNat ∧
        f.len8Dlc.toNat ≤ CAN_MAX_RAW_DLC then f.len8Dlc else 0 := by
  have h8 : f.len = 8 ↔ f.len.toNat = CAN_MAX_DLEN := UInt8.toNat_inj.symm
  have h9 : 9 ≤ f.len8Dlc ↔ CAN_MAX_DLEN < f.len8Dlc.toNat := UInt8.le_iff_toNat_le
  have h15 : f.len8Dlc ≤ 15 ↔ f.len8Dlc.toNat ≤ CAN_MAX_RAW_DLC := UInt8.le_iff_toNat_le
  simp only [normalisedLen8Dlc, h8, h9, h15]

theorem canGetCcDlc_lt {f : CanFrame} (hf : f.len.toNat ≤ CAN_MAX_DLEN) (ctrlmode : UInt32) :
    canGetCcDlc f ctrlmode < 2 ^ 4 := by
  unfold canGetCcDlc
  split
  case isTrue h => exact lt_of_le_of_lt h.2.2.2 (by decide)
  case isFalse => exact lt_of_le_of_lt hf (by decide)

/-- The length of a classic frame is read back from its raw DLC. -/
theorem canCcDlc2len_getCcDlc {f : CanFrame} (hf : f.len.toNat ≤ CAN_MAX_DLEN) (ctrlmode : UInt32) :
    canCcDlc2len (canGetCcDlc f ctrlmode) = f.len.toNat := by
  rw [canCcDlc2len, canGetCcDlc]
  split
  case isTrue h => exact (min_eq_right h.2.2.1.le).trans h.2.1.symm
  case isFalse => exact min_eq_left hf

/-- The lengths of a classic frame are read back from its raw DLC. -/
theorem canFrameSetCcLen_getCcDlc {f g : CanFrame} (hf : f.len.toNat ≤ CAN_MAX_DLEN)
    (hg : g.len8Dlc = 0) (ctrlmode : UInt32) :
    canFrameSetCcLen g (canGetCcDlc f ctrlmode) ctrlmode =
      { g with len := f.len, len8Dlc := normalisedLen8Dlc f ctrlmode } := by
  rw [canFrameSetCcLen, canCcDlc2len_getCcDlc hf, UInt8.ofNat_toNat, normalisedLen8Dlc_eq, hg,
    canGetCcDlc]
  by_cases hc : ctrlmode &&& CAN_CTRLMODE_CC_LEN8_DLC ≠ 0 ∧ f.len.toNat = CAN_MAX_DLEN ∧
      CAN_MAX_DLEN < f.len8Dlc.toNat ∧ f.len8Dlc.toNat ≤ CAN_MAX_RAW_DLC
  · rw [if_pos hc, if_pos ⟨hc.1, hc.2.2.1⟩, UInt8.ofNat_toNat, if_pos hc]
  · rw [if_neg hc, if_neg fun h => Nat.not_lt.mpr hf h.2, if_neg hc]

/-! ### Messages -/

/-- A message is read back from its bytes, with what follows them. -/
theorem ofBytes_toBytes_append (m : GuruData) (post : List UInt8) :
    GuruData.ofBytes (m.toBytes ++ post) = { m with data := m.data ++ post } := by
  have hid : readLE 2 2 (m.toBytes ++ post) = m.id.toNat := by
    have h : m.toBytes ++ post = [m.preamble, m.ctrl] ++ toLE 2 m.id.toNat ++
        (m.dataCount :: (m.data ++ post)) := by
      simp [GuruData.toBytes]
    calc readLE 2 2 (m.toBytes ++ post)
      _ = m.id.toNat % 256 ^ 2 := by rw [h]; exact readLE_append _ _ _ rfl
      _ = m.id.toNat := Nat.mod_eq_of_lt m.id.toNat_lt
  rw [GuruData.ofBytes, hid, UInt16.ofNat_toNat]
  rfl

/-- The bytes of a send message that are put on the wire: interface, header, payload. -/
theorem canSendMsg_take {n : ℕ} (iface : UInt8) (h : CanMsgHeader)
    (payload : Fin n → UInt8) {len : ℕ} (hlen : len ≤ n) :
    (canSendMsg iface h payload len).take (CAN_SEND_HEADER_SIZE + len) =
      iface :: h.toBytes ++ (List.ofFn payload).take len := by
  have hl : (iface :: h.toBytes ++ (List.ofFn payload).take len).length =
      CAN_SEND_HEADER_SIZE + len := by
    simp [CanMsgHeader.toBytes, CanMsgHeader.size, CAN_SEND_HEADER_SIZE, hlen]
    omega
  rw [canSendMsg, ← List.append_assoc, List.take_left' hl]

/-- The data of a message that reports a received frame: interface, time stamp,
header, payload. -/
def canRecvMsg (iface : UInt8) (ts : UInt32) (h : CanMsgHeader) (body : List UInt8) : List UInt8 :=
  iface :: toLE 4 ts.toNat ++ h.toBytes ++ body

/-- The device reports the frame it was sent as a received frame. -/
theorem reflected_data (ts : UInt32) (iface : UInt8) (h : CanMsgHeader) (body : List UInt8) :
    (reflected ts (.fill CAN_MSG_SEND (iface :: h.toBytes ++ body))).data =
      canRecvMsg iface ts h body := by
  simp [reflected, canRecvMsg, GuruData.fill]

/-- A message and what fills it up make one transfer. -/
theorem length_padded {m : GuruData} (h : m.data.length ≤ GURU_MAX_DATA_SIZE) :
    m.padded.length = GURU_DATA_SIZE := by
  have hlen : m.toBytes.length = m.data.length + 5 := by
    simp [GuruData.toBytes]
    omega
  rw [GuruData.padded, List.length_append, List.length_replicate, hlen]
  unfold GURU_MAX_DATA_SIZE at h
  unfold GURU_DATA_SIZE
  omega

theorem length_padded_reflected (ts : UInt32) (iface : UInt8) (h : CanMsgHeader) {body : List UInt8}
    (hb : body.length ≤ CANFD_MAX_DLEN) :
    (reflected ts (.fill CAN_MSG_SEND (iface :: h.toBytes ++ body))).padded.length =
      GURU_DATA_SIZE := by
  refine length_padded ?_
  rw [reflected_data]
  simp only [canRecvMsg, CanMsgHeader.toBytes, List.length_append, List.length_cons, length_toLE]
  simp only [CanMsgHeader.size, CANFD_MAX_DLEN, GURU_MAX_DATA_SIZE] at hb ⊢
  omega

theorem copyPayload_append {n o len : ℕ} (payload : Fin n → UInt8) (pre post : List UInt8)
    (ho : pre.length = o) (hlen : len ≤ n) :
    copyPayload n o len (pre ++ ((List.ofFn payload).take len ++ post)) =
      normalisedData payload len := by
  have hbody : ((List.ofFn payload).take len).length = len := by simp [hlen]
  funext i
  rw [copyPayload, normalisedData]
  by_cases hi : i.val < len
  · rw [if_pos hi, if_pos hi, List.getD_eq_getElem?_getD, List.getElem?_append_right (by omega), ho,
      Nat.add_sub_cancel_left, List.getElem?_append_left (by omega)]
    simp [hi]
  · rw [if_neg hi, if_neg hi]

/-- The length of a received frame is the number of bytes that are copied into it. -/
theorem canguruRecvFrame_len (data : List UInt8) (ctrlmode : UInt32) :
    (canguruRecvFrame data ctrlmode).len = canguruRecvLen
    (.ofNat (readLE 5 CanMsgHeader.size data)) := by
  rw [canguruRecvFrame]
  generalize CanMsgHeader.ofNat (readLE 5 CanMsgHeader.size data) = header
  have hlt : canguruRecvLen header < 2 ^ 8 := (canguruRecvLen_le header).trans_lt (by decide)
  cases hfd : header.canfd with
  | true => exact UInt8.toNat_ofNat_of_lt' hlt
  | false =>
    rw [canguruRecvLen, hfd, if_neg Bool.false_ne_true] at hlt ⊢
    exact UInt8.toNat_ofNat_of_lt' hlt

section Decoding

variable (iface : UInt8) (ts : UInt32) (h : CanMsgHeader) (body : List UInt8)

theorem readLE_timeStamp : readLE 1 4 (canRecvMsg iface ts h body) = ts.toNat := by
  have hm : canRecvMsg iface ts h body = [iface] ++ toLE 4 ts.toNat ++ (h.toBytes ++ body) := by
    simp [canRecvMsg]
  calc readLE 1 4 (canRecvMsg iface ts h body)
    _ = ts.toNat % 256 ^ 4 := by rw [hm]; exact readLE_append _ _ _ rfl
    _ = ts.toNat := Nat.mod_eq_of_lt ts.toNat_lt

theorem ofNat_header (hid : h.canId < 2 ^ 29) (hdlc : h.canDlc < 2 ^ 4) :
    CanMsgHeader.ofNat (readLE 5 CanMsgHeader.size (canRecvMsg iface ts h body)) = h := by
  have hl : (iface :: toLE 4 ts.toNat).length = 5 := by simp
  rw [canRecvMsg, CanMsgHeader.toBytes, readLE_append _ _ _ hl, Nat.mod_eq_of_lt h.toNat_lt,
    CanMsgHeader.ofNat_toNat hid hdlc]

theorem copyPayload_canRecvMsg {n len : ℕ} (payload : Fin n → UInt8) (post : List UInt8)
    (hlen : len ≤ n) :
    copyPayload n CAN_RECV_HEADER_SIZE len (canRecvMsg iface ts h ((List.ofFn payload).take len ++ post)) =
      normalisedData payload len :=
  copyPayload_append payload _ post (by simp [CanMsgHeader.toBytes, CanMsgHeader.size, CAN_RECV_HEADER_SIZE]) hlen

theorem canguruRecvFrame_can (payload : Fin CAN_MAX_DLEN → UInt8) (post : List UInt8)
    (ctrlmode : UInt32) {len : ℕ} (hid : h.canId < 2 ^ 29) (hdlc : h.canDlc < 2 ^ 4)
    (hfd : h.canfd = false) (hlen : canCcDlc2len h.canDlc = len) :
    canguruRecvFrame (canRecvMsg iface ts h ((List.ofFn payload).take len ++ post)) ctrlmode =
      .can (canFrameSetCcLen ⟨recvId h, 0, 0, normalisedData payload len⟩ h.canDlc ctrlmode) := by
  have hle : len ≤ CAN_MAX_DLEN := hlen ▸ min_le_right _ _
  rw [canguruRecvFrame, ofNat_header _ _ _ _ hid hdlc]
  simp only [canguruRecvLen, hfd, Bool.false_eq_true, if_false, hlen,
    copyPayload_canRecvMsg _ _ _ _ _ hle]

/-- The flags of a CAN FD frame that has both kept. -/
def flagsOf (h : CanMsgHeader) : UInt8 :=
  (if h.bitrateSwitch then CANFD_BRS else 0) ||| if h.esi then CANFD_ESI else 0

theorem canguruRecvFrame_canfd (payload : Fin CANFD_MAX_DLEN → UInt8) (post : List UInt8)
    (ctrlmode : UInt32) {len : ℕ} (hid : h.canId < 2 ^ 29) (hdlc : h.canDlc < 2 ^ 4)
    (hfd : h.canfd = true) (hlen : canFdDlc2len h.canDlc = len) (hle : len ≤ CANFD_MAX_DLEN) :
    canguruRecvFrame (canRecvMsg iface ts h ((List.ofFn payload).take len ++ post)) ctrlmode =
      .canfd ⟨recvId h, UInt8.ofNat len, flagsOf h, normalisedData payload len⟩ := by
  have hflags :
    (if h.bitrateSwitch = true then (if h.esi = true then (0 : UInt8) ||| CANFD_ESI else 0) ||| CANFD_BRS
      else if h.esi = true then 0 ||| CANFD_ESI else 0) = flagsOf h := by
    cases hb : h.bitrateSwitch <;> cases he : h.esi <;> simp [flagsOf, hb, he]
    decide
  rw [canguruRecvFrame, ofNat_header _ _ _ _ hid hdlc]
  simp only [canguruRecvLen, hfd, if_true, hlen, copyPayload_canRecvMsg _ _ _ _ _ hle, hflags]

end Decoding

/-- The two flags are read back, and no other. -/
theorem flagsOf_eq {h : CanMsgHeader} {flags : UInt8}
    (hesi : h.esi = decide (flags &&& CANFD_ESI ≠ 0))
    (hbrs : h.bitrateSwitch = decide (flags &&& CANFD_BRS ≠ 0)) :
    flagsOf h = flags &&& (CANFD_ESI ||| CANFD_BRS) := by
  have hall : ∀ n < 256, (if decide (UInt8.ofNat n &&& CANFD_BRS ≠ 0) then CANFD_BRS else 0) |||
      (if decide (UInt8.ofNat n &&& CANFD_ESI ≠ 0) then CANFD_ESI else 0) =
        UInt8.ofNat n &&& (CANFD_ESI ||| CANFD_BRS) := by decide +kernel
  rw [flagsOf, hesi, hbrs, ← UInt8.ofNat_toNat (x := flags)]
  exact hall flags.toNat flags.toNat_lt

/-! ### The round trip -/

/-- A message carries a frame: it is the frame that is decoded from what the device
reports for it. -/
structure Carries (iface : UInt8) (ctrlmode : UInt32) (frame : Frame) (h : CanMsgHeader)
    (body : List UInt8) : Prop where
  /-- The header fits its fields. -/
  canId_lt : h.canId < 2 ^ 29
  /-- The header fits its fields. -/
  canDlc_lt : h.canDlc < 2 ^ 4
  /-- The payload fits the message. -/
  body_le : body.length ≤ CANFD_MAX_DLEN
  /-- The header has the length of the frame. -/
  len : canguruRecvLen h = frame.len
  /-- The frame is decoded, whatever the transfer is filled up with. -/
  frame : ∀ ts post, canguruRecvFrame (canRecvMsg iface ts h (body ++ post)) ctrlmode =
    frame.normalised ctrlmode

theorem canguruCanClassicSend_carries (d : NetDevice) {f : CanFrame}
    (hf : f.len.toNat ≤ CAN_MAX_DLEN) :
    ∃ h body, canguruCanClassicSend .ok d f =
      (0, [.fill CAN_MSG_SEND (d.channelIdx :: h.toBytes ++ body)]) ∧
      Carries d.channelIdx d.ctrlmode (.can f) h body := by
  let header : CanMsgHeader :=
    { canfd := false
      esi := false
      bitrateSwitch := false
      canDlc := canGetCcDlc f d.ctrlmode
      remoteFrame := f.canId &&& CAN_RTR_FLAG ≠ 0
      extendedId := f.canId &&& CAN_EFF_FLAG ≠ 0
      canId := headerId f.canId }
  refine ⟨header, (List.ofFn f.data).take f.len.toNat, ?send, headerId_lt _, canGetCcDlc_lt hf _,
    ?body, ?len, fun ts post => ?frame⟩
  case send => rw [canguruCanClassicSend, canSendMsg_take _ _ _ hf, guruSendData]; rfl
  case body => exact (List.length_take_le' _ _).trans (by rw [List.length_ofFn]; decide)
  case len => exact canCcDlc2len_getCcDlc hf _
  case frame =>
    have hid : recvId header = normalisedId f.canId := recvId_headerId rfl rfl rfl
    rw [canguruRecvFrame_can _ _ header _ _ _ (headerId_lt _) (canGetCcDlc_lt hf _) rfl (canCcDlc2len_getCcDlc hf _),
      canFrameSetCcLen_getCcDlc hf rfl, hid, Frame.normalised]

/-- The header `canguru_can_fd_send` fills in. -/
def fdHeader (f : CanfdFrame) : CanMsgHeader where
  canfd := true
  esi := f.flags &&& CANFD_ESI ≠ 0
  bitrateSwitch := f.flags &&& CANFD_BRS ≠ 0
  canDlc := canFdLen2dlc f.len.toNat
  remoteFrame := f.canId &&& CAN_RTR_FLAG ≠ 0
  extendedId := f.canId &&& CAN_EFF_FLAG ≠ 0
  canId := headerId f.canId

theorem canguruCanFdSend_ok (d : NetDevice) {f : CanfdFrame} (hle : f.len.toNat ≤ CANFD_MAX_DLEN) :
    canguruCanFdSend .ok d f =
      (0, [.fill CAN_MSG_SEND (d.channelIdx :: (fdHeader f).toBytes ++ (List.ofFn f.data).take f.len.toNat)]) := by
  rw [canguruCanFdSend, canSendMsg_take _ _ _ hle, guruSendData]
  rfl

theorem canguruCanFdSend_carries (d : NetDevice) {f : CanfdFrame} (hf : f.len.toNat ∈ canfdLens) :
    ∃ h body, canguruCanFdSend .ok d f =
      (0, [.fill CAN_MSG_SEND (d.channelIdx :: h.toBytes ++ body)]) ∧
      Carries d.channelIdx d.ctrlmode (.canfd f) h body := by
  have hle : f.len.toNat ≤ CANFD_MAX_DLEN := canfdLens_le hf
  refine ⟨fdHeader f, (List.ofFn f.data).take f.len.toNat, canguruCanFdSend_ok d hle, headerId_lt _,
    canFdLen2dlc_lt _, ?body, ?len, fun ts post => ?frame⟩
  case body => exact (List.length_take_le' _ _).trans List.length_ofFn.le
  case len => exact canFdDlc2len_len2dlc hf
  case frame =>
    have hid : recvId (fdHeader f) = normalisedId f.canId := recvId_headerId rfl rfl rfl
    have hflags : flagsOf (fdHeader f) = f.flags &&& (CANFD_ESI ||| CANFD_BRS) := flagsOf_eq rfl rfl
    rw [canguruRecvFrame_canfd _ _ (fdHeader f) _ _ _ (headerId_lt _) (canFdLen2dlc_lt _) rfl
      (canFdDlc2len_len2dlc hf) hle, hid, hflags, UInt8.ofNat_toNat, Frame.normalised]

theorem canguruSend_carries (d : NetDevice) {skb : Skb} (hf : skb.frame.Sendable) :
    ∃ h body, canguruSend .ok d skb =
      (0, [.fill CAN_MSG_SEND (d.channelIdx :: h.toBytes ++ body)]) ∧
      Carries d.channelIdx d.ctrlmode skb.frame h body := by
  unfold canguruSend
  generalize skb.frame = frame at hf
  cases frame with
  | can f => exact canguruCanClassicSend_carries d hf
  | canfd f => exact canguruCanFdSend_carries d hf

/-- The message of a frame is delivered on its channel, and nothing else of the
driver changes. -/
theorem processMsgList_carries {k : DeviceKind} (hk : k.hasCan = true) {self : Guru}
    (hl : self.msgList = k.msgList) {iface : UInt8} {d : NetDevice}
    (hc : iface.toNat < self.dev.can.ifaceCount) (hd : self.dev.can.netdev iface.toNat = some d)
    {frame : Frame} {h : CanMsgHeader} {body : List UInt8}
    (hm : Carries iface d.ctrlmode frame h body) (ts : UInt32) :
    (canguruProcessMsgList (runCallback true) self
      (.ofBytes (reflected ts (.fill CAN_MSG_SEND (iface :: h.toBytes ++ body))).padded)).dev =
      { self.dev with
        can := self.dev.can.modify iface.toNat
          (.netifRx ⟨frame.normalised d.ctrlmode, ts.toNat * CANGURU_100US_TO_1NS, frame.len⟩ frame.len) } := by
  rw [GuruData.padded, ofBytes_toBytes_append, reflected_data]
  generalize List.replicate _ (0 : UInt8) = post
  have hdata : canRecvMsg iface ts h body ++ post = canRecvMsg iface ts h (body ++ post) := by
    simp [canRecvMsg]
  rw [hdata, processMsgList_can_recv true hk hl rfl]
  generalize hmsg : CurrMsg.ofMsg _ = msg
  have hbytes : msg.data.getD [] = canRecvMsg iface ts h (body ++ post) := hmsg ▸ rfl
  have hbyte : msg.byte 0 = iface := by rw [CurrMsg.byte, hbytes]; rfl
  have hrecv : canguruNetRecv true (canRecvMsg iface ts h (body ++ post)) d =
      (d.netifRx ⟨frame.normalised d.ctrlmode, ts.toNat * CANGURU_100US_TO_1NS, frame.len⟩ frame.len, []) := by
    rw [canguruNetRecv, ofNat_header _ _ _ _ hm.canId_lt hm.canDlc_lt, readLE_timeStamp,
      hm.frame, hm.len]
    rfl
  have hcall :=
    @MsgNet.recvCallback_some (canguruNetRecv true) msg self.dev.can _ d (congrArg _ hbyte) hc hd
  have hmod :=
    MsgNet.modify_congr (f := fun d => (canguruNetRecv true (msg.data.getD []) d).1)
      (g := .netifRx ⟨frame.normalised d.ctrlmode, ts.toNat * CANGURU_100US_TO_1NS, frame.len⟩ frame.len) hd
    (by rw [hbytes, hrecv])
  rw [canguruRecvCallback, hcall, hmod, hbytes, hrecv]
  simp only [List.append_nil]

/-- **The round trip**: every frame the stack may hand over comes back normalised,
once, on its own channel, and nothing else changes. The channel may have changed
between the two in all but its mode. -/
theorem recv_send {k : DeviceKind} (hk : k.hasCan = true) {self : Guru}
    (hl : self.msgList = k.msgList) {c : ℕ} {d₀ d : NetDevice} (hc : c < self.dev.can.ifaceCount)
    (hd : self.dev.can.netdev c = some d) (hidx : d₀.channelIdx.toNat = c)
    (hmode : d.ctrlmode = d₀.ctrlmode) {skb : Skb} (hf : skb.frame.Sendable) (ts : UInt32) :
    ∃ m, canguruSend .ok d₀ skb = (0, [m]) ∧ (reflected ts m).padded.length = GURU_DATA_SIZE ∧
      (canguruProcessMsgList (runCallback true) self (.ofBytes (reflected ts m).padded)).dev =
        { self.dev with
          can :=
            { self.dev.can with
              netdev := Function.update self.dev.can.netdev c (some
                { d with
                  rx := d.rx ++
                    [⟨skb.frame.normalised d₀.ctrlmode, ts.toNat * CANGURU_100US_TO_1NS, skb.frame.len⟩]
                  stats :=
                    { d.stats with
                      rxPackets := d.stats.rxPackets + 1
                      rxBytes := d.stats.rxBytes + skb.frame.len } }) } } := by
  obtain ⟨h, body, hsend, hm⟩ := canguruSend_carries d₀ hf
  subst hidx
  rw [← hmode] at hm ⊢
  refine ⟨_, hsend, length_padded_reflected _ _ _ hm.body_le, ?_⟩
  rw [processMsgList_carries hk hl hc hd hm ts, MsgNet.modify, hd]
  rfl

/-- A frame of 3 bytes with an extended identifier and the error flag. -/
def extendedFrame : Frame := .can ⟨0xBABCDEF0, 3, 0, fun i => UInt8.ofNat i⟩

/-- A frame with an extended identifier goes round on the second channel. -/
theorem recv_send_extended :
    ∃ m, canguruSend .ok (.create 1) ⟨extendedFrame, 0, false⟩ = (0, [m]) ∧
      (reflected 7 m).padded.length = GURU_DATA_SIZE ∧
      (canguruProcessMsgList (runCallback true) DeviceKind.canguru.ready (.ofBytes (reflected 7 m).padded)).dev =
        { DeviceKind.canguru.ready.dev with
          can :=
            { DeviceKind.canguru.ready.dev.can with
              netdev := Function.update DeviceKind.canguru.ready.dev.can.netdev 1 (some
                { NetDevice.create 1 with
                  rx := [⟨extendedFrame.normalised 0, 700000, 3⟩]
                  stats := { (NetDevice.create 1).stats with rxPackets := 1, rxBytes := 3 } }) } } :=
  @recv_send .canguru rfl DeviceKind.canguru.ready rfl 1 (.create 1) (.create 1)
    (by decide) rfl rfl rfl
    ⟨extendedFrame, 0, false⟩ (show 3 ≤ 8 by decide) 7

end CanGuru
