import CanGuru.LinguruNet

/-!
# The driver

The handlers of `guru-msg-std.c`, `canguru-msg-net.c` and `linguru-msg-net.c`, the
state they work on, and the three kinds of device with the handlers each of them
registers.

## What is proved

* `handlersOf_eq`, `handlersOf_length_le` — a message runs at most the callback of one
  handler.
* `processMsgList_can_recv`, `processMsgList_lin_recv` — what the dispatch of a
  received frame does on a device with channels of that bus.
-/

namespace CanGuru

open ListHead Packed

/-! ### The state -/

/-- The private data of the voltage device: its last value and its completion. -/
structure LinguruVoltagePriv where
  /-- `voltage`. -/
  voltage : UInt32
  /-- `completion.done`. -/
  done : ℕ
  deriving DecidableEq

/-- What the handlers work on. -/
structure Drv where
  /-- The message layer of the CAN channels. -/
  can : MsgNet
  /-- The message layer of the LIN channels. -/
  lin : MsgNet
  /-- `meas_volt_dev`, or `NULL`. -/
  measVoltDev : Option LinguruVoltagePriv
  /-- The firmware versions logged. -/
  fwVersions : List (List UInt8)
  /-- The undefined behaviour met. -/
  faults : List Fault

/-- The callbacks the driver registers. -/
inductive Callback where
  /-- `msg_std_fw_version`. -/
  | msgStdFwVersion
  /-- `canguru_status_callback`. -/
  | canguruStatus
  /-- `canguru_send_callback` of `canguru-msg-net.c`. -/
  | canguruSend
  /-- `canguru_recv_callback`. -/
  | canguruRecv
  /-- `linguru_status_callback`. -/
  | linguruStatus
  /-- `linguru_send_callback` of `linguru-msg-net.c`. -/
  | linguruSend
  /-- `linguru_recv_callback`. -/
  | linguruRecv
  /-- `linguru_volt_callback`. -/
  | linguruVolt
  deriving DecidableEq

/-! ### The callbacks -/

/-- `MSG_STR_SIZE_MAX`. -/
def MSG_STR_SIZE_MAX : ℕ := 32

/-- `msg_std_fw_version`: a copy of the declared size into a buffer of 32 bytes. -/
def msgStdFwVersion (msg : CurrMsg) (s : Drv) : Drv :=
  let n := msg.dataSize.toNat
  let buf :=
    ((msg.data.getD []).take (min n MSG_STR_SIZE_MAX)) ++ List.replicate (MSG_STR_SIZE_MAX - n) 0
  { s with
    fwVersions := s.fwVersions ++ [buf]
    faults := s.faults ++ if MSG_STR_SIZE_MAX < n then [.outOfBounds n MSG_STR_SIZE_MAX] else [] }

/-- `canguru_status_callback`, `linguru_status_callback`: they only log. -/
def statusCallback (_ : CurrMsg) (s : Drv) : Drv := s

/-- `canguru_recv_callback` and `linguru_recv_callback`, for the `recv` of the bus. -/
def MsgNet.recvCallback (recv : List UInt8 → NetDevice → NetDevice × List Fault) (msg : CurrMsg)
    (m : MsgNet) : MsgNet × List Fault :=
  let iface := (msg.byte 0).toNat
  if m.ifaceCount ≤ iface then (m, [])
  else
    match m.netdev iface with
    | none => (m, [.nullNetdev])
    | some d =>
      (m.modify iface fun d => (recv (msg.data.getD []) d).1, (recv (msg.data.getD []) d).2)

/-- `canguru_send_callback` of `canguru-msg-net.c`. -/
def canguruSendCallback (msg : CurrMsg) (s : Drv) : Drv :=
  { s with can := s.can.sendCallback (msg.byte 0) }

/-- `canguru_recv_callback`. -/
def canguruRecvCallback (alloc : Bool) (msg : CurrMsg) (s : Drv) : Drv :=
  let (m, faults) := s.can.recvCallback (canguruNetRecv alloc) msg
  { s with can := m, faults := s.faults ++ faults }

/-- `linguru_send_callback` of `linguru-msg-net.c`. -/
def linguruSendCallback (msg : CurrMsg) (s : Drv) : Drv :=
  { s with lin := s.lin.sendCallback (msg.byte 0) }

/-- `linguru_recv_callback`. -/
def linguruRecvCallback (alloc : Bool) (msg : CurrMsg) (s : Drv) : Drv :=
  let (m, faults) := s.lin.recvCallback (linguruNetRecv alloc) msg
  { s with lin := m, faults := s.faults ++ faults }

/-- `linguru_volt_callback` and `linguru_volt_reply`. -/
def linguruVoltCallback (msg : CurrMsg) (s : Drv) : Drv :=
  let voltage := UInt32.ofNat (readLE 0 4 (msg.data.getD []))
  { s with measVoltDev := s.measVoltDev.map fun priv => { priv with voltage := voltage, done := priv.done + 1 } }

/-- A callback, with what the kernel decides about the allocation of a received
frame. -/
def runCallback (alloc : Bool) : Callback → CurrMsg → Drv → Drv
  | .msgStdFwVersion => msgStdFwVersion
  | .canguruStatus => statusCallback
  | .canguruSend => canguruSendCallback
  | .canguruRecv => canguruRecvCallback alloc
  | .linguruStatus => statusCallback
  | .linguruSend => linguruSendCallback
  | .linguruRecv => linguruRecvCallback alloc
  | .linguruVolt => linguruVoltCallback

/-! ### The handlers of each device -/

/-- `GURU_MSG_GET_VERSION`. -/
def GURU_MSG_GET_VERSION : UInt16 := 0x1

/-- `canguru_init_status_msg` and `linguru_init_status_msg`: a handler of a status of
one byte. -/
def initStatusMsg (callback : Callback) (msgId : UInt16) : GuruMsg Callback :=
  { msgId := msgId, dataCount := 1, sizeRestriction := .static, callback := some callback }

/-- The handler `guru_msg_std_init` registers. -/
def guruMsgStdHandlers : List (GuruMsg Callback) :=
  [{ msgId := GURU_MSG_GET_VERSION, dataCount := 0, sizeRestriction := .variable, callback := some .msgStdFwVersion }]

/-- The handlers `canguru_msg_net_init` registers. -/
def canguruMsgNetHandlers : List (GuruMsg Callback) :=
  [initStatusMsg .canguruStatus CAN_MSG_RESET,
    initStatusMsg .canguruStatus CAN_MSG_CONFIG_SET,
    initStatusMsg .canguruStatus CAN_MSG_TIMING_SET,
    initStatusMsg .canguruStatus CAN_MSG_ENABLE_SET,
    initStatusMsg .canguruStatus CAN_MSG_TER_ENABLE,
    initStatusMsg .canguruStatus CAN_MSG_GLOBAL_FILTER_SET,
    { msgId := CAN_MSG_SEND, dataCount := 1, sizeRestriction := .static,
      callback := some .canguruSend },
    { msgId := CAN_MSG_RECV, dataCount := 0, sizeRestriction := .variable, callback := some .canguruRecv }]

/-- The handlers `linguru_msg_net_init` registers. -/
def linguruMsgNetHandlers : List (GuruMsg Callback) :=
  [initStatusMsg .linguruStatus LIN_MSG_RESET,
    initStatusMsg .linguruStatus LIN_MSG_CONFIG_SET,
    initStatusMsg .linguruStatus LIN_MSG_ENABLE_SET,
    initStatusMsg .linguruStatus LIN_MSG_MASTER_ENABLE_SET,
    { msgId := LIN_MSG_SEND, dataCount := 1, sizeRestriction := .static,
      callback := some .linguruSend },
    { msgId := LIN_MSG_RECV, dataCount := 0, sizeRestriction := .variable,
      callback := some .linguruRecv },
    { msgId := LIN_MSG_VOLT_GET, dataCount := 4, sizeRestriction := .static, callback := some .linguruVolt }]

/-- The handlers of the message layer of a bus. -/
def Bus.handlers : Bus → List (GuruMsg Callback)
  | .can => canguruMsgNetHandlers
  | .lin => linguruMsgNetHandlers

/-- The kinds of device `guru_usb_device_alloc` knows. -/
inductive DeviceKind where
  /-- `CAN Guru Lite`. -/
  | canguru
  /-- `LIN Guru`. -/
  | linguru
  /-- `BusKit MultiBus`. -/
  | mbus
  deriving DecidableEq

namespace DeviceKind

/-- The handlers of a device, in the order in which its init function registers
them. -/
def msgList : DeviceKind → List (GuruMsg Callback)
  | .canguru => guruMsgStdHandlers ++ canguruMsgNetHandlers
  | .linguru => guruMsgStdHandlers ++ linguruMsgNetHandlers
  | .mbus => guruMsgStdHandlers ++ (canguruMsgNetHandlers ++ linguruMsgNetHandlers)

/-- `CANGURU_CHANNEL_COUNT`, `CAN_MBUS_CHANNEL_COUNT`. -/
def canCount : DeviceKind → ℕ
  | .canguru => 2
  | .linguru => 0
  | .mbus => 8

/-- `LINGURU_CHANNEL_COUNT`, `LIN_MBUS_CHANNEL_COUNT`. -/
def linCount : DeviceKind → ℕ
  | .canguru => 0
  | .linguru => 10
  | .mbus => 8

/-- The device has CAN channels. -/
def hasCan (k : DeviceKind) : Bool := k ≠ .linguru

/-- The device has LIN channels. -/
def hasLin (k : DeviceKind) : Bool := k ≠ .canguru

end DeviceKind

/-- A device of the driver. -/
abbrev Guru := GuruDevice Callback Drv

/-- A message layer of `n` channels, all created, as its init function leaves it. -/
def MsgNet.ready (n : ℕ) : MsgNet where
  ifaceCount := n
  netdev := fun c => if c < n then some (.create (UInt8.ofNat c)) else none
  replies := initListHead fresh .listHead

/-- A device with all its channels, as its init function leaves it. -/
def DeviceKind.ready (k : DeviceKind) : Guru where
  msgList := k.msgList
  curr := .none
  dev :=
    { can := .ready k.canCount
      lin := .ready k.linCount
      measVoltDev := if k = .linguru then some ⟨0, 0⟩ else none
      fwVersions := []
      faults := [] }

/-- In a fresh message layer no reply is pending. -/
theorem MsgNet.ready_pending (n : ℕ) : (MsgNet.ready n).Pending [] := holds_init _

/-- The channels of a fresh message layer are fresh. -/
theorem MsgNet.ready_eq_create {n c : ℕ} {d : NetDevice} (hd : (MsgNet.ready n).netdev c = some d) :
    d = .create (UInt8.ofNat c) := by
  unfold MsgNet.ready at hd
  dsimp only at hd
  split at hd
  case isTrue => exact (Option.some.inj hd).symm
  case isFalse => cases hd

/-- In a fresh message layer no echo is kept. -/
theorem MsgNet.ready_echoSkb {n c : ℕ} {d : NetDevice} (hd : (MsgNet.ready n).netdev c = some d) :
    d.echoSkb = none := by
  rw [ready_eq_create hd]
  rfl

/-! ### What a message runs -/

/-- The ids of the handlers of a device are distinct. -/
theorem DeviceKind.msgList_nodup (k : DeviceKind) : (k.msgList.map (·.msgId)).Nodup := by
  cases k <;> decide

/-- A message runs at most the callback of one handler, the one with its id. -/
theorem handlersOf_eq {κ : Type} {items : List (GuruMsg κ)} (hn : (items.map (·.msgId)).Nodup)
    {item : GuruMsg κ} (hi : item ∈ items) {msg : GuruData} (hm : item.msgId = msg.id) :
    handlersOf items msg = handlersOf [item] msg := by
  induction items with
  | nil => cases hi
  | cons a items ih =>
    rw [List.map_cons, List.nodup_cons] at hn
    rw [handlersOf_cons]
    rcases List.mem_cons.mp hi with rfl | hi
    · have hnone : handlersOf items msg = [] := by
        have hf : items.filter (fun b => b.Matches msg) = [] := by
          rw [List.filter_eq_nil_iff]
          intro b hb hbm
          refine hn.1 (List.mem_map.mpr ⟨b, hb, ?_⟩)
          rw [hm]
          exact (of_decide_eq_true hbm).1
        rw [handlersOf, hf, List.filterMap_nil]
      rw [hnone, List.append_nil]
    · have ha : handlersOf [a] msg = [] := by
        have hne : ¬ a.Matches msg := by
          intro ham
          refine hn.1 (List.mem_map.mpr ⟨item, hi, ?_⟩)
          rw [hm, ham.1]
        simp [handlersOf, hne]
      rw [ha, List.nil_append, ih hn.2 hi]

theorem handlersOf_length_le {κ : Type} {items : List (GuruMsg κ)}
    (hn : (items.map (·.msgId)).Nodup) (msg : GuruData) : (handlersOf items msg).length ≤ 1 := by
  by_cases h : ∃ item ∈ items, item.msgId = msg.id
  · obtain ⟨item, hi, hm⟩ := h
    rw [handlersOf_eq hn hi hm]
    exact (List.length_filterMap_le _ _).trans (List.length_filter_le _ [item])
  · have hf : items.filter (fun item => item.Matches msg) = [] := by
      refine List.filter_eq_nil_iff.mpr fun item hi hmatch => h ⟨item, hi, ?_⟩
      exact (of_decide_eq_true hmatch).1
    rw [handlersOf, hf]
    exact Nat.zero_le _

/-- A received CAN frame runs `canguru_recv_callback` and nothing else. -/
theorem handlersOf_can_recv {k : DeviceKind} (hk : k.hasCan = true) {msg : GuruData}
    (hm : msg.id = CAN_MSG_RECV) : handlersOf k.msgList msg = [.canguruRecv] := by
  have hi : (⟨CAN_MSG_RECV, 0, .variable, some .canguruRecv⟩ : GuruMsg Callback) ∈ k.msgList := by
    cases k <;> first | exact absurd hk (by decide) | decide
  rw [handlersOf_eq k.msgList_nodup hi hm.symm]
  simp [handlersOf, GuruMsg.Matches, hm]

/-- A send status of one byte runs `canguru_send_callback` and nothing else. -/
theorem handlersOf_can_send {k : DeviceKind} (hk : k.hasCan = true) {msg : GuruData}
    (hm : msg.id = CAN_MSG_SEND) (hn : msg.dataCount = 1) :
    handlersOf k.msgList msg = [.canguruSend] := by
  have hi : (⟨CAN_MSG_SEND, 1, .static, some .canguruSend⟩ : GuruMsg Callback) ∈ k.msgList := by
    cases k <;> first | exact absurd hk (by decide) | decide
  rw [handlersOf_eq k.msgList_nodup hi hm.symm]
  simp [handlersOf, GuruMsg.Matches, hm, hn]

/-- A received LIN frame runs `linguru_recv_callback` and nothing else. -/
theorem handlersOf_lin_recv {k : DeviceKind} (hk : k.hasLin = true) {msg : GuruData}
    (hm : msg.id = LIN_MSG_RECV) : handlersOf k.msgList msg = [.linguruRecv] := by
  have hi : (⟨LIN_MSG_RECV, 0, .variable, some .linguruRecv⟩ : GuruMsg Callback) ∈ k.msgList := by
    cases k <;> first | exact absurd hk (by decide) | decide
  rw [handlersOf_eq k.msgList_nodup hi hm.symm]
  simp [handlersOf, GuruMsg.Matches, hm]

/-- A LIN send status of one byte runs `linguru_send_callback` and nothing else. -/
theorem handlersOf_lin_send {k : DeviceKind} (hk : k.hasLin = true) {msg : GuruData}
    (hm : msg.id = LIN_MSG_SEND) (hn : msg.dataCount = 1) :
    handlersOf k.msgList msg = [.linguruSend] := by
  have hi : (⟨LIN_MSG_SEND, 1, .static, some .linguruSend⟩ : GuruMsg Callback) ∈ k.msgList := by
    cases k <;> first | exact absurd hk (by decide) | decide
  rw [handlersOf_eq k.msgList_nodup hi hm.symm]
  simp [handlersOf, GuruMsg.Matches, hm, hn]

theorem processMsgList_can_recv (alloc : Bool) {k : DeviceKind} (hk : k.hasCan = true) {self : Guru}
    (hl : self.msgList = k.msgList) {msg : GuruData} (hm : msg.id = CAN_MSG_RECV) :
    (canguruProcessMsgList (runCallback alloc) self msg).dev =
      canguruRecvCallback alloc (CurrMsg.ofMsg msg) self.dev := by
  rw [processMsgList_eq, hl, handlersOf_can_recv hk hm]
  rfl

theorem processMsgList_can_send (alloc : Bool) {k : DeviceKind} (hk : k.hasCan = true) {self : Guru}
    (hl : self.msgList = k.msgList) {msg : GuruData} (hm : msg.id = CAN_MSG_SEND)
    (hn : msg.dataCount = 1) : canguruProcessMsgList (runCallback alloc) self msg =
      { self with curr := .none, dev := { self.dev with can := self.dev.can.sendCallback (msg.data.getD 0 0) } } := by
  rw [processMsgList_eq, hl, handlersOf_can_send hk hm hn]
  rfl

theorem processMsgList_lin_recv (alloc : Bool) {k : DeviceKind} (hk : k.hasLin = true) {self : Guru}
    (hl : self.msgList = k.msgList) {msg : GuruData} (hm : msg.id = LIN_MSG_RECV) :
    (canguruProcessMsgList (runCallback alloc) self msg).dev =
      linguruRecvCallback alloc (CurrMsg.ofMsg msg) self.dev := by
  rw [processMsgList_eq, hl, handlersOf_lin_recv hk hm]
  rfl

theorem processMsgList_lin_send (alloc : Bool) {k : DeviceKind} (hk : k.hasLin = true) {self : Guru}
    (hl : self.msgList = k.msgList) {msg : GuruData} (hm : msg.id = LIN_MSG_SEND)
    (hn : msg.dataCount = 1) : canguruProcessMsgList (runCallback alloc) self msg =
      { self with curr := .none, dev := { self.dev with lin := self.dev.lin.sendCallback (msg.data.getD 0 0) } } := by
  rw [processMsgList_eq, hl, handlersOf_lin_send hk hm hn]
  rfl

/-- A received frame for a channel that exists reaches the channel. -/
theorem MsgNet.recvCallback_some {recv : List UInt8 → NetDevice → NetDevice × List Fault}
    {msg : CurrMsg} {m : MsgNet} {iface : ℕ} {d : NetDevice} (hb : (msg.byte 0).toNat = iface)
    (hc : iface < m.ifaceCount) (hd : m.netdev iface = some d) :
    m.recvCallback recv msg =
      (m.modify iface fun d => (recv (msg.data.getD []) d).1, (recv (msg.data.getD []) d).2) := by
  subst hb
  unfold MsgNet.recvCallback
  simp only [if_neg (Nat.not_le.mpr hc), hd]

end CanGuru
