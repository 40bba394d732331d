import CanGuru.Receive.LinRoundTrip

/-!
# The lengths of a frame that is sent

A message that sends a frame has three lengths: the one its header declares, the number
of payload bytes behind the header, and the `data_count` of the message. The last two are
the `len` of the frame. The first is a DLC, which rounds `len` up on CAN FD, and which
`can_get_cc_dlc` takes from `len8_dlc` if the mode asks for it, although LIN has no raw
DLC.

## What is proved

* `fdConsistent_iff` — the lengths of a CAN FD frame agree exactly when its `len` is one of
  the lengths a DLC stands for.
* `linConsistent_iff` — the lengths of a LIN frame agree exactly when it has no raw DLC that
  the mode asks for.
-/

namespace CanGuru

open Packed

/-! ### CAN FD -/

/-- The header of a message that sends a CAN frame. -/
def sentHeader (m : GuruData) : CanMsgHeader := .ofNat (readLE 1 CanMsgHeader.size m.data)

/-- The payload of a message that sends a CAN frame. -/
def sentPayload (m : GuruData) : List UInt8 := m.data.drop CAN_SEND_HEADER_SIZE

/-- **The message of a CAN FD frame is consistent**: the DLC of its header is the length of
its payload. -/
structure FdConsistent (f : CanfdFrame) (m : GuruData) : Prop where
  /-- The payload has the length of the DLC. -/
  length : (sentPayload m).length = canFdDlc2len (sentHeader m).canDlc
  /-- It is the data of the frame, filled up with zeros. -/
  payload : sentPayload m = (List.ofFn f.data).take f.len.toNat ++
    List.replicate (canFdDlc2len (sentHeader m).canDlc - f.len.toNat) 0
  /-- The header and the payload are the data of the message. -/
  count : m.dataCount.toNat = CAN_SEND_HEADER_SIZE + canFdDlc2len (sentHeader m).canDlc
  /-- A receiver that trusts the DLC reads no byte that was not sent. -/
  received : canguruRecvLen (sentHeader m) ≤ (sentPayload m).length

/-- The DLC of a length stands for that length if it is one of CAN FD, and only then. -/
theorem canFdDlc2len_len2dlc_iff {len : ℕ} (h : len ≤ CANFD_MAX_DLEN) :
    canFdDlc2len (canFdLen2dlc len) = len ↔ len ∈ canfdLens := by
  have hall : ∀ len < CANFD_MAX_DLEN + 1, canFdDlc2len (canFdLen2dlc len) = len ↔
      len ∈ canfdLens := by decide
  exact hall len (Nat.lt_succ_of_le h)

section CanFd

variable (d : NetDevice) {f : CanfdFrame}

/-- The data of the message of a CAN FD frame: interface, header, payload. -/
def fdData (f : CanfdFrame) : List UInt8 :=
  d.channelIdx :: (fdHeader f).toBytes ++ (List.ofFn f.data).take f.len.toNat

theorem length_fdData (hf : f.len.toNat ≤ CANFD_MAX_DLEN) :
    (fdData d f).length = CAN_SEND_HEADER_SIZE + f.len.toNat := by
  simp [fdData, CanMsgHeader.toBytes, CanMsgHeader.size, CAN_SEND_HEADER_SIZE, hf]
  omega

theorem sentHeader_fdData : sentHeader (.fill CAN_MSG_SEND (fdData d f)) = fdHeader f := by
  have hread : readLE 1 CanMsgHeader.size (fdData d f) = (fdHeader f).toNat := by
    rw [← Nat.mod_eq_of_lt (fdHeader f).toNat_lt]
    exact readLE_append [d.channelIdx] _ _ rfl
  rw [sentHeader, show (GuruData.fill CAN_MSG_SEND (fdData d f)).data = fdData d f from rfl, hread]
  exact CanMsgHeader.ofNat_toNat (headerId_lt _) (canFdLen2dlc_lt _)

theorem sentPayload_fdData :
    sentPayload (.fill CAN_MSG_SEND (fdData d f)) = (List.ofFn f.data).take f.len.toNat := by
  have hlen : (d.channelIdx :: (fdHeader f).toBytes).length = CAN_SEND_HEADER_SIZE := by
    simp [CanMsgHeader.toBytes, CanMsgHeader.size, CAN_SEND_HEADER_SIZE]
  exact List.drop_left' hlen

/-- **The message of a CAN FD frame is consistent** exactly when the length of the frame is
one of those a DLC stands for. -/
theorem fdConsistent_iff (hf : f.len.toNat ≤ CANFD_MAX_DLEN) :
    ∃ m, canguruCanFdSend .ok d f = (0, [m]) ∧ m.id = CAN_MSG_SEND ∧
      (FdConsistent f m ↔ f.len.toNat ∈ canfdLens) := by
  refine ⟨.fill CAN_MSG_SEND (fdData d f), canguruCanFdSend_ok d hf, rfl, ?_⟩
  have htake : ((List.ofFn f.data).take f.len.toNat).length = f.len.toNat := by simpa using hf
  have hdlc : (fdHeader f).canDlc = canFdLen2dlc f.len.toNat := rfl
  rw [← canFdDlc2len_len2dlc_iff hf]
  constructor
  · intro h
    have hlength := h.length
    rw [sentPayload_fdData, sentHeader_fdData, htake, hdlc] at hlength
    exact hlength.symm
  · intro hlen
    have hle : CAN_SEND_HEADER_SIZE + f.len.toNat ≤ GURU_MAX_DATA_SIZE := by
      unfold CAN_SEND_HEADER_SIZE GURU_MAX_DATA_SIZE CANFD_MAX_DLEN at *
      omega
    constructor
    case length => rw [sentPayload_fdData, sentHeader_fdData, htake, hdlc, hlen]
    case payload =>
      rw [sentPayload_fdData, sentHeader_fdData, hdlc, hlen, Nat.sub_self, List.replicate_zero,
        List.append_nil]
    case count =>
      rw [GuruData.fill_dataCount (by rwa [length_fdData d hf]), length_fdData d hf,
        sentHeader_fdData, hdlc, hlen]
    case received =>
      have hfd : (fdHeader f).canfd = true := rfl
      rw [sentPayload_fdData, sentHeader_fdData, htake, canguruRecvLen, if_pos hfd, hdlc, hlen]

end CanFd

/-- A CAN FD frame of `len` bytes. -/
def fdFrame (len : UInt8) : CanfdFrame := ⟨0x123, len, 0, fun i => UInt8.ofNat i⟩

/-- The message of 12 bytes is consistent. -/
theorem fdConsistent_twelve :
    ∃ m, canguruCanFdSend .ok (.create 1) (fdFrame 12) = (0, [m]) ∧
      FdConsistent (fdFrame 12) m := by
  obtain ⟨m, hm, -, h⟩ := fdConsistent_iff (.create 1) (f := fdFrame 12) (by decide)
  exact ⟨m, hm, h.mpr (by decide)⟩

/-- The message of 9 bytes declares 12. -/
theorem not_fdConsistent_nine :
    ∃ m, canguruCanFdSend .ok (.create 1) (fdFrame 9) = (0, [m]) ∧ ¬ FdConsistent (fdFrame 9) m :=
  ⟨_, rfl, fun h => absurd h.length (by decide)⟩

/-! ### LIN -/

/-- The header of a message that sends a LIN frame. -/
def sentLinHeader (m : GuruData) : LinMsgHeader := .ofBytes LIN_MASTER_HEADER_SIZE m.data

/-- The payload of a message that sends a LIN frame. -/
def sentLinPayload (m : GuruData) : List UInt8 :=
  m.data.drop (LIN_MASTER_HEADER_SIZE + LinMsgHeader.size)

/-- **The message of a LIN frame is consistent**: its `data_len` is the length of its
payload. -/
structure LinConsistent (m : GuruData) : Prop where
  /-- A LIN frame has at most 8 bytes. -/
  bounded : (sentLinHeader m).dataLen.toNat ≤ LIN_MAX_DLEN
  /-- The header declares the payload. -/
  length : (sentLinHeader m).dataLen.toNat = (sentLinPayload m).length
  /-- The headers and the payload are the data of the message. -/
  count : m.dataCount.toNat = LIN_MASTER_HEADER_SIZE + LinMsgHeader.size +
    (sentLinHeader m).dataLen.toNat

/-- The mode asks for the raw DLC of the frame, and the frame has one. -/
def RawDlc (ctrlmode : UInt32) (f : CanFrame) : Prop :=
  ctrlmode &&& CAN_CTRLMODE_CC_LEN8_DLC ≠ 0 ∧ f.len.toNat = CAN_MAX_DLEN ∧
    CAN_MAX_DLEN < f.len8Dlc.toNat ∧ f.len8Dlc.toNat ≤ CAN_MAX_RAW_DLC

/-- The declared length is the length of the frame if there is no raw DLC, and only then. -/
theorem canGetCcDlc_eq_len {ctrlmode : UInt32} {f : CanFrame} :
    canGetCcDlc f ctrlmode = f.len.toNat ↔ ¬ RawDlc ctrlmode f := by
  constructor
  · intro h hraw
    have hdlc : canGetCcDlc f ctrlmode = f.len8Dlc.toNat := if_pos hraw
    rw [hdlc, hraw.2.1] at h
    exact absurd h hraw.2.2.1.ne'
  · exact fun h => if_neg h

/-- **The message of a LIN frame is consistent** exactly when the frame has no raw DLC that
the mode asks for. -/
theorem linConsistent_iff (d : NetDevice) {f : CanFrame} (hf : f.len.toNat ≤ CAN_MAX_DLEN) :
    ∃ m, linguruLinSend .ok d f = (0, [m]) ∧ m.id = LIN_MSG_SEND ∧
      (LinConsistent m ↔ ¬ RawDlc d.ctrlmode f) := by
  refine ⟨.fill LIN_MSG_SEND (linData d f), linguruLinSend_ok d hf, rfl, ?_⟩
  have hheader : (sentLinHeader (.fill LIN_MSG_SEND (linData d f))).dataLen.toNat =
      canGetCcDlc f d.ctrlmode := by
    have hread := ofBytes_linData d f []
    rw [List.append_nil] at hread
    rw [sentLinHeader, show (GuruData.fill LIN_MSG_SEND (linData d f)).data = linData d f from rfl,
      hread]
    exact UInt8.toNat_ofNat_of_lt' ((canGetCcDlc_lt hf _).trans (by decide))
  have hpayload : (sentLinPayload (.fill LIN_MSG_SEND (linData d f))).length = f.len.toNat := by
    rw [sentLinPayload, List.length_drop, show (GuruData.fill LIN_MSG_SEND (linData d f)).data =
      linData d f from rfl, length_linData d hf, Nat.add_sub_cancel_left]
  rw [← canGetCcDlc_eq_len]
  constructor
  · intro h
    have hlength := h.length
    rw [hheader, hpayload] at hlength
    exact hlength
  · intro hlen
    have hle : LIN_MASTER_HEADER_SIZE + LinMsgHeader.size + f.len.toNat ≤ GURU_MAX_DATA_SIZE := by
      unfold LIN_MASTER_HEADER_SIZE LinMsgHeader.size GURU_MAX_DATA_SIZE CAN_MAX_DLEN at *
      omega
    constructor
    case bounded => rw [hheader, hlen]; exact hf
    case length => rw [hheader, hpayload, hlen]
    case count =>
      rw [GuruData.fill_dataCount (by rwa [length_linData d hf]), length_linData d hf,
      hheader, hlen]

/-- A channel whose mode asks for raw DLCs. -/
def rawChannel : NetDevice := { NetDevice.create 4 with ctrlmode := CAN_CTRLMODE_CC_LEN8_DLC }

/-- A frame of 8 bytes with a raw DLC. -/
def rawFrame (dlc : UInt8) : CanFrame := ⟨0x25, 8, dlc, fun i => UInt8.ofNat i⟩

/-- The message of 8 bytes is consistent in a mode with raw DLCs, if the frame has none. -/
theorem linConsistent_eight : ∃ m, linguruLinSend .ok rawChannel (rawFrame 0) = (0, [m]) ∧
    LinConsistent m := by
  obtain ⟨m, hm, -, h⟩ := linConsistent_iff rawChannel (f := rawFrame 0) (by decide)
  exact ⟨m, hm, h.mpr fun hraw => absurd hraw.2.2.1 (by decide)⟩

/-- The message of 8 bytes with a raw DLC of 15 declares 15. -/
theorem not_linConsistent_raw :
    ∃ m, linguruLinSend .ok rawChannel (rawFrame 15) = (0, [m]) ∧ ¬ LinConsistent m :=
  ⟨_, rfl, fun h => absurd h.bounded (by decide)⟩

end CanGuru
