import CanGuru.Driver

/-!
# The copy of a received LIN frame

`linguru_net_recv` takes three lengths from the `data_len` of a received message:
the length of the frame it delivers (which `can_frame_set_cc_len` cuts to 8), the
size of the copy out of the 8 bytes of the response into the 8 bytes of the
payload, and the number it adds to `rx_bytes`. Nothing compares `data_len` with 8,
where `canguru_net_recv` goes through `can_cc_dlc2len`, and nothing looks at what
`alloc_can_skb` returns.

## What is proved

`linRecvOk_iff` — a received frame is handled within bounds exactly when its channel
exists, its buffer is allocated and its `data_len` is at most 8.
-/

namespace CanGuru

open Packed

/-- The `data_len` of a received LIN frame. -/
def linDataLen (msg : GuruData) : ℕ :=
  (LinMsgHeader.ofBytes LIN_MASTER_HEADER_SIZE msg.data).dataLen.toNat

/-- The interface byte of a received frame. -/
def ifaceOf (msg : GuruData) : ℕ := (msg.data.getD 0 0).toNat

/-- **A received LIN frame is handled within bounds**, from `s` to `s'`: nothing
undefined happens, and either the frame is dropped and every counter of its
channel kept, or one frame is delivered whose length is the number of bytes copied,
at most 8, and what `rx_bytes` grows by. -/
structure LinRecvOk (iface : ℕ) (s s' : Drv) : Prop where
  /-- Nothing undefined happens. -/
  sound : s'.faults = s.faults
  /-- The other channels are left alone. -/
  others : ∀ c ≠ iface, s'.lin.netdev c = s.lin.netdev c
  /-- The channel drops the frame or delivers it. -/
  channel : ∃ d d', s.lin.netdev iface = some d ∧ s'.lin.netdev iface = some d' ∧
    (d'.rx = d.rx ∧ d'.stats = d.stats ∨
      ∃ (f : CanFrame) (t : ℕ), d'.rx = d.rx ++ [⟨.can f, t, f.len.toNat⟩] ∧
        f.len.toNat ≤ LIN_MAX_DLEN ∧
        d'.stats = { d.stats with
          rxPackets := d.stats.rxPackets + 1
          rxBytes := d.stats.rxBytes + f.len.toNat })

theorem linguruNetRecv_faults (alloc : Bool) (data : List UInt8) (d : NetDevice) :
    (linguruNetRecv alloc data d).2 = [] ↔
      alloc = true ∧ (LinMsgHeader.ofBytes LIN_MASTER_HEADER_SIZE data).dataLen.toNat ≤
        LIN_MAX_DLEN := by
  cases alloc with
  | false => simp [linguruNetRecv]
  | true =>
    by_cases h : (LinMsgHeader.ofBytes LIN_MASTER_HEADER_SIZE data).dataLen.toNat ≤ LIN_MAX_DLEN
    · simp [linguruNetRecv, h]
    · simp [linguruNetRecv, h]

/-- The length of the frame is `data_len` cut to 8. -/
theorem linguruRecvFrame_len (data : List UInt8) (ctrlmode : UInt32) :
    (linguruRecvFrame data ctrlmode).len.toNat =
      min (LinMsgHeader.ofBytes LIN_MASTER_HEADER_SIZE data).dataLen.toNat LIN_MAX_DLEN := by
  simp only [linguruRecvFrame, canFrameSetCcLen, canCcDlc2len]
  refine UInt8.toNat_ofNat_of_lt' (lt_of_le_of_lt (min_le_right _ _) ?_)
  decide

/-- **A received LIN frame is handled within bounds** exactly when its channel
exists, its buffer is allocated and its `data_len` is at most 8. -/
theorem linRecvOk_iff (alloc : Bool) {k : DeviceKind} (hk : k.hasLin = true) {self : Guru}
    (hl : self.msgList = k.msgList) {msg : GuruData} (hm : msg.id = LIN_MSG_RECV)
    (hc : ifaceOf msg < self.dev.lin.ifaceCount) :
    LinRecvOk (ifaceOf msg) self.dev (canguruProcessMsgList (runCallback alloc) self msg).dev ↔
      (self.dev.lin.netdev (ifaceOf msg)).isSome = true ∧ alloc = true ∧
      linDataLen msg ≤ LIN_MAX_DLEN := by
  rw [processMsgList_lin_recv alloc hk hl hm]
  cases hd : self.dev.lin.netdev (ifaceOf msg) with
  | none =>
    simp only [Option.isSome_none, Bool.false_eq_true, false_and, iff_false]
    intro h
    obtain ⟨d, -, h, -⟩ := h.channel
    rw [hd] at h
    cases h
  | some d =>
    have hrecv : self.dev.lin.recvCallback (linguruNetRecv alloc) (CurrMsg.ofMsg msg) =
        (self.dev.lin.modify (ifaceOf msg) fun d => (linguruNetRecv alloc msg.data d).1,
          (linguruNetRecv alloc msg.data d).2) := MsgNet.recvCallback_some rfl hc hd
    have hfaults := linguruNetRecv_faults alloc msg.data d
    simp only [linguruRecvCallback, hrecv, Option.isSome_some, true_and]
    constructor
    · intro h
      exact hfaults.mp (List.append_right_eq_self.mp h.sound)
    · rintro ⟨rfl, hlen⟩
      have hflen : (linguruRecvFrame msg.data d.ctrlmode).len.toNat = linDataLen msg :=
        (linguruRecvFrame_len msg.data d.ctrlmode).trans (min_eq_left hlen)
      have hself :
        (MsgNet.modify (ifaceOf msg) (fun d => (linguruNetRecv true msg.data d).1) self.dev.lin).netdev
          (ifaceOf msg) = some (linguruNetRecv true msg.data d).1 := by
        rw [MsgNet.modify_self, hd]
        rfl
      constructor
      case sound => exact (congrArg _ (hfaults.mpr ⟨rfl, hlen⟩)).trans (List.append_nil _)
      case others => exact fun c hne => MsgNet.modify_of_ne hne _ _
      case channel =>
        refine ⟨d, _, hd, hself, .inr ⟨linguruRecvFrame msg.data d.ctrlmode,
          readLE 1 4 msg.data * LINGURU_100US_TO_1NS, ?_⟩⟩
        rw [hflen]
        exact ⟨rfl, hlen, rfl⟩

/-- A received LIN frame for channel 4 that declares `dataLen` bytes of payload. -/
def linRecvMsg (dataLen : UInt8) : GuruData :=
  .ofBytes ([GURU_CMD_PREAMBLE, 0, 0x07, 0x0D, 15, 4, 0, 0, 0, 0, 0x25, dataLen, 1, 2, 3] ++
    List.replicate 113 0)

/-- A frame of 3 bytes is handled within bounds. -/
theorem linRecvOk_three :
    LinRecvOk 4 DeviceKind.linguru.ready.dev
      (canguruProcessMsgList (runCallback true) DeviceKind.linguru.ready (linRecvMsg 3)).dev :=
  (@linRecvOk_iff true .linguru rfl DeviceKind.linguru.ready rfl (linRecvMsg 3) (by decide) (by decide)).mpr
    ⟨by decide, rfl, by decide⟩

/-- A frame that declares 9 bytes is copied out of its response and past its payload. -/
theorem not_linRecvOk_nine :
    ¬ LinRecvOk 4 DeviceKind.linguru.ready.dev
      (canguruProcessMsgList (runCallback true) DeviceKind.linguru.ready (linRecvMsg 9)).dev := by
  intro h
  have hf :
    (canguruProcessMsgList (runCallback true) DeviceKind.linguru.ready (linRecvMsg 9)).dev.faults =
      [.outOfBounds 9 8] := by decide
  exact absurd (hf.symm.trans h.sound) (by decide)

end CanGuru
