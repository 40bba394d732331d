import CanGuru.Receive.RoundTrip

/-!
# The validity of received CAN frames

`canguru_net_recv` takes the identifier, the flags and the DLC of a frame from independent
bits of a header. The lengths are cut to what a frame can have. The identifier is not cut
to the 11 bits of a standard one, as `canguru_can_fd_send` and `canguru_can_classic_send`
do, and a CAN FD frame gets the flag of a remote frame if the bit is set.

## What is proved

`wellReceived_iff` — the frame of a message is valid exactly when its header has an
identifier that fits its kind, and does not say of a CAN FD frame that it is a remote one.
-/

namespace CanGuru

open Packed

namespace Frame

/-- The identifier of a frame, with its flags. -/
def canId : Frame → UInt32
  | .can f => f.canId
  | .canfd f => f.canId

/-- **A valid frame.** -/
structure Valid (frame : Frame) : Prop where
  /-- A standard identifier has 11 bits. -/
  standard : frame.canId &&& CAN_EFF_FLAG = 0 → (frame.canId &&& CAN_EXT_ID_MASK).toNat < 2 ^ 11
  /-- No CAN FD frame is a remote frame. -/
  remote : ∀ f, frame = .canfd f → f.canId &&& CAN_RTR_FLAG = 0
  /-- The length is one that a frame can have. -/
  len : frame.Sendable

end Frame

/-- The header of a received CAN frame. -/
def recvHeader (msg : GuruData) : CanMsgHeader := .ofNat (readLE 5 CanMsgHeader.size msg.data)

/-- **A CAN frame is well received**, from `d` to `d'`: it is valid, its payload is copied out
of the message, and its length is the number of bytes that are copied and counted. -/
structure WellReceived (msg : GuruData) (d d' : NetDevice) (frame : Frame) : Prop where
  /-- The frame is delivered. -/
  rx : ∃ hwtstamp, d'.rx = d.rx ++ [⟨frame, hwtstamp, frame.len⟩]
  /-- It is valid. -/
  valid : frame.Valid
  /-- The copy stays in the data of the message. -/
  room : frame.len ≤ CANFD_MAX_DLEN
  /-- It is the payload. -/
  payload : ∀ i < frame.len, frame.byte i = msg.data.getD (CAN_RECV_HEADER_SIZE + i) 0
  /-- The bytes are counted. -/
  rxBytes : d'.stats.rxBytes = d.stats.rxBytes + frame.len

/-- The bits of a header agree: a standard identifier has 11 bits, and no CAN FD frame is a
remote frame. -/
def CanMsgHeader.Agrees (h : CanMsgHeader) : Prop :=
  (h.extendedId = true ∨ h.canId < 2 ^ 11) ∧ (h.canfd = true → h.remoteFrame = false)

/-! ### Identifiers -/

theorem ofNat_canId_lt (n : ℕ) : (CanMsgHeader.ofNat n).canId < 2 ^ 29 :=
  Nat.mod_lt _ (Nat.two_pow_pos 29)

section Identifiers

variable {h : CanMsgHeader}

theorem recvId_and (mask : UInt32) :
    recvId h &&& mask =
      (UInt32.ofNat h.canId &&& mask) ||| (if h.remoteFrame then CAN_RTR_FLAG &&& mask else 0) |||
        (if h.extendedId then CAN_EFF_FLAG &&& mask else 0) := by
  cases hr : h.remoteFrame <;> cases he : h.extendedId <;> simp [recvId, hr, he, or_and_distrib]

variable (hid : h.canId < 2 ^ 29)
include hid

theorem toNat_ofNat_canId : (UInt32.ofNat h.canId).toNat = h.canId :=
  UInt32.toNat_ofNat_of_lt' (hid.trans (by decide))

/-- The flag of an extended identifier is that of the header. -/
theorem recvId_eff : recvId h &&& CAN_EFF_FLAG = 0 ↔ h.extendedId = false := by
  have hlt : (UInt32.ofNat h.canId).toNat < 2 ^ 31 := by
    rw [toNat_ofNat_canId hid]
    omega
  rw [recvId_and, and_flag_of_lt (k := 31) rfl hlt]
  cases h.remoteFrame <;> cases h.extendedId <;> decide

/-- The flag of a remote frame is that of the header. -/
theorem recvId_rtr : recvId h &&& CAN_RTR_FLAG = 0 ↔ h.remoteFrame = false := by
  have hlt : (UInt32.ofNat h.canId).toNat < 2 ^ 30 := by
    rw [toNat_ofNat_canId hid]
    omega
  rw [recvId_and, and_flag_of_lt (k := 30) rfl hlt]
  cases h.remoteFrame <;> cases h.extendedId <;> decide

theorem recvId_ext : (recvId h &&& CAN_EXT_ID_MASK).toNat = h.canId := by
  have hlt : (UInt32.ofNat h.canId).toNat < 2 ^ 29 := by rwa [toNat_ofNat_canId hid]
  have hrtr : CAN_RTR_FLAG &&& CAN_EXT_ID_MASK = 0 := by decide
  have heff : CAN_EFF_FLAG &&& CAN_EXT_ID_MASK = 0 := by decide
  rw [recvId_and, and_mask_of_lt (k := 29) rfl hlt, hrtr, heff, ite_self, ite_self, UInt32.or_zero,
    UInt32.or_zero, toNat_ofNat_canId hid]

end Identifiers

/-! ### Frames -/

/-- The length of a DLC is one of CAN FD. -/
theorem canFdDlc2len_mem (dlc : ℕ) : canFdDlc2len dlc ∈ canfdLens := by
  have hall : ∀ dlc < 16, [0, 1, 2, 3, 4, 5, 6, 7, 8, 12, 16, 20, 24, 32, 48, 64].getD dlc 0 ∈
      canfdLens := by decide
  exact hall _ (Nat.mod_lt _ (by decide))

section Frames

variable (msg : GuruData) (ctrlmode : UInt32)

theorem canguruRecvFrame_canId :
    (canguruRecvFrame msg.data ctrlmode).canId = recvId (recvHeader msg) := by
  cases h : (recvHeader msg).canfd with
  | true =>
    rw [canguruRecvFrame]
    exact congrArg Frame.canId (if_pos h)
  | false =>
    rw [canguruRecvFrame]
    exact congrArg Frame.canId (if_neg (Bool.not_eq_true _ ▸ h))

/-- The length of a received frame is one of its kind. -/
theorem canguruRecvFrame_sendable : (canguruRecvFrame msg.data ctrlmode).Sendable := by
  have hlen : (canguruRecvFrame msg.data ctrlmode).len = canguruRecvLen (recvHeader msg) :=
    canguruRecvFrame_len msg.data ctrlmode
  have hfd := canguruRecvFrame_isFd msg.data ctrlmode
  cases hframe : canguruRecvFrame msg.data ctrlmode with
  | can f =>
    rw [hframe] at hlen hfd
    have hneg : ¬ (recvHeader msg).canfd = true := fun h => Bool.false_ne_true (hfd.trans h)
    rw [canguruRecvLen, if_neg hneg] at hlen
    exact hlen.trans_le (min_le_right _ _)
  | canfd f =>
    rw [hframe] at hlen hfd
    rw [canguruRecvLen, if_pos (show (recvHeader msg).canfd = true from hfd.symm)] at hlen
    have hmem := canFdDlc2len_mem (recvHeader msg).canDlc
    rwa [← hlen] at hmem

/-- A received frame is a CAN FD frame that is a remote one if its header says so. -/
theorem canguruRecvFrame_remote :
    (∀ f, canguruRecvFrame msg.data ctrlmode = .canfd f → f.canId &&& CAN_RTR_FLAG = 0) ↔
      ((recvHeader msg).canfd = true → recvId (recvHeader msg) &&& CAN_RTR_FLAG = 0) := by
  have hid := canguruRecvFrame_canId msg ctrlmode
  have hfd := canguruRecvFrame_isFd msg.data ctrlmode
  cases hframe : canguruRecvFrame msg.data ctrlmode with
  | can f =>
    rw [hframe] at hfd
    have hneg : ¬ (recvHeader msg).canfd = true := fun h => Bool.false_ne_true (hfd.trans h)
    exact iff_of_true (fun _ h => nomatch h) fun h => absurd h hneg
  | canfd f =>
    rw [hframe] at hid hfd
    rw [← hid]
    constructor
    · exact fun h _ => h f rfl
    · rintro h g ⟨⟩
      exact h hfd.symm

end Frames

/-! ### The validity -/

/-- The frame of a message is the one that is delivered for it. -/
theorem WellReceived.frame_eq {msg : GuruData} {d : NetDevice} {frame : Frame}
    (h : WellReceived msg d (canguruNetRecv true msg.data d).1 frame) :
    canguruRecvFrame msg.data d.ctrlmode = frame := by
  obtain ⟨t, ht⟩ := h.rx
  have hone := List.append_cancel_left ht
  exact congrArg RxFrame.frame (List.cons.inj hone).1

/-- **A CAN frame is well received** exactly when the bits of its header agree. -/
theorem wellReceived_iff (msg : GuruData) (d : NetDevice) :
    (∃ frame, WellReceived msg d (canguruNetRecv true msg.data d).1 frame) ↔
      (recvHeader msg).Agrees := by
  have hid : (recvHeader msg).canId < 2 ^ 29 := ofNat_canId_lt _
  have hcanId := canguruRecvFrame_canId msg d.ctrlmode
  have hlen : (canguruRecvFrame msg.data d.ctrlmode).len = canguruRecvLen (recvHeader msg) :=
    canguruRecvFrame_len msg.data d.ctrlmode
  have hremote := canguruRecvFrame_remote msg d.ctrlmode
  have hstandard : (recvId (recvHeader msg) &&& CAN_EFF_FLAG = 0 →
      (recvId (recvHeader msg) &&& CAN_EXT_ID_MASK).toNat < 2 ^ 11) ↔
        (recvHeader msg).extendedId = true ∨ (recvHeader msg).canId < 2 ^ 11 := by
    rw [recvId_eff hid, recvId_ext hid]
    cases (recvHeader msg).extendedId <;> simp
  rw [CanMsgHeader.Agrees, ← hstandard, ← recvId_rtr hid, ← hremote, ← hcanId]
  constructor
  · rintro ⟨frame, h⟩
    obtain rfl := h.frame_eq
    exact ⟨h.valid.standard, h.valid.remote⟩
  · rintro ⟨hstd, hrtr⟩
    refine ⟨canguruRecvFrame msg.data d.ctrlmode, ?_⟩
    constructor
    case rx => exact hlen ▸ ⟨_, rfl⟩
    case valid => exact ⟨hstd, hrtr, canguruRecvFrame_sendable msg d.ctrlmode⟩
    case room => exact hlen ▸ canguruRecvLen_le _
    case payload => exact fun i hi => canguruRecvFrame_byte (hi.trans_eq hlen)
    case rxBytes => exact hlen ▸ rfl

/-- A received frame of 2 bytes for channel 0. -/
def recvMsg (canId : ℕ) (remoteFrame canfd : Bool) : GuruData :=
  .fill CAN_MSG_RECV (canRecvMsg 0 0 ⟨canId, 2, false, remoteFrame, false, canfd, false⟩ [1, 2])

/-- A standard frame with an identifier of 12 bits, and a CAN FD frame that is a remote
frame, are delivered and not valid. -/
theorem not_wellReceived :
    (¬ ∃ frame, WellReceived (recvMsg 0x800 false false) (.create 0)
        (canguruNetRecv true (recvMsg 0x800 false false).data (.create 0)).1 frame) ∧
      ¬ ∃ frame, WellReceived (recvMsg 0x123 true true) (.create 0)
        (canguruNetRecv true (recvMsg 0x123 true true).data (.create 0)).1 frame := by
  constructor
  · rintro ⟨frame, h⟩
    have hid := h.valid.standard
    rw [← h.frame_eq] at hid
    exact absurd hid (by decide)
  · rintro ⟨frame, h⟩
    have hrtr := h.valid.remote
    rw [← h.frame_eq] at hrtr
    exact absurd (hrtr _ rfl) (by decide)

end CanGuru
