import CanGuru.Device
import CanGuru.Receive.LinCopy

/-!
# What the handlers leave undefined

A handler may be applied to a `NULL` net device, store through a frame that was not
allocated, or copy more than there is room for: C says nothing of what happens then, and
the model only notes it. What is said of the driver is worth something as long as nothing
is noted.

## What is proved

* `kept_processMsgList` — no handler adds a channel to a table or takes one out.
* `faults_iff` — the dispatch of a message is defined exactly when a firmware version fits
  its buffer, and a received frame has a channel, an allocated buffer and, on LIN, at most 8
  bytes.
-/

namespace CanGuru

/-! ### What the handlers keep -/

/-- The same channels are there. -/
structure MsgNet.SameTable (m m' : MsgNet) : Prop where
  /-- As many. -/
  ifaceCount : m'.ifaceCount = m.ifaceCount
  /-- The same entries are set. -/
  netdev : ∀ c, (m'.netdev c).isSome = (m.netdev c).isSome

namespace MsgNet

variable {m m' m'' : MsgNet}

theorem SameTable.refl (m : MsgNet) : m.SameTable m := ⟨rfl, fun _ => rfl⟩

theorem SameTable.trans (h : m.SameTable m') (h' : m'.SameTable m'') : m.SameTable m'' :=
  ⟨h'.ifaceCount.trans h.ifaceCount, fun c => (h'.netdev c).trans (h.netdev c)⟩

theorem SameTable.modify (m : MsgNet) (c : ℕ) (f : NetDevice → NetDevice) :
    m.SameTable (m.modify c f) where
  ifaceCount := rfl
  netdev := by
    intro c'
    by_cases h : c' = c
    · subst h
      rw [modify_self, Option.isSome_map]
    · rw [modify_of_ne h]

theorem SameTable.waitSendReply (m : MsgNet) (c : ℕ) : m.SameTable (m.waitSendReply c) :=
  ⟨rfl, fun _ => rfl⟩

theorem SameTable.delReply (m : MsgNet) (c : ℕ) : m.SameTable (m.delReply c) := ⟨rfl, fun _ => rfl⟩

theorem sameTable_sendCallback (m : MsgNet) (status : UInt8) :
    m.SameTable (m.sendCallback status) := by
  unfold sendCallback
  split
  case isTrue => exact .refl m
  case isFalse =>
    split
    case h_1 c _ => exact (SameTable.modify m c _).trans (.delReply _ c)
    case h_2 => exact ⟨rfl, fun _ => rfl⟩

theorem sameTable_recvCallback (recv : List UInt8 → NetDevice → NetDevice × List Fault)
    (msg : CurrMsg) (m : MsgNet) : m.SameTable (m.recvCallback recv msg).1 := by
  rw [recvCallback]
  split
  case isTrue => exact .refl m
  case isFalse =>
    split
    case h_1 => exact .refl m
    case h_2 => exact .modify m _ _

theorem sameTable_startXmit (send : Send) (o : XmitOutcome) (c : ℕ) (skb : Skb) (m : MsgNet) :
    m.SameTable (m.startXmit send o c skb).1 := by
  unfold startXmit
  split
  case h_1 => exact .refl m
  case h_2 d hd =>
    dsimp only
    split_ifs
    · exact .modify m c _
    · exact (SameTable.modify m c _).trans (.modify _ c _)
    · exact (SameTable.modify m c _).trans (.modify _ c _)
    · exact (((SameTable.modify m c _).trans (.modify _ c _)).trans (.waitSendReply _ c)).trans
        (.modify _ c _)

/-- Every channel is there. -/
def Full (m : MsgNet) : Prop := ∀ c < m.ifaceCount, (m.netdev c).isSome = true

theorem SameTable.full (h : m.SameTable m') (hm : m.Full) : m'.Full := by
  intro c hc
  rw [h.netdev]
  exact hm c (h.ifaceCount ▸ hc)

/-- A received frame meets a channel that is not there only if one is not there. -/
theorem recvCallback_faults {recv : List UInt8 → NetDevice → NetDevice × List Fault}
    (hrecv : ∀ data d, Fault.nullNetdev ∉ (recv data d).2) (h : m.Full) (msg : CurrMsg) :
    Fault.nullNetdev ∉ (m.recvCallback recv msg).2 := by
  rw [recvCallback]
  split
  case isTrue => exact List.not_mem_nil
  case isFalse hc =>
    split
    case h_1 hd =>
      have hsome := h _ (Nat.lt_of_not_le hc)
      rw [hd] at hsome
      cases hsome
    case h_2 d hd => exact hrecv (msg.data.getD []) d

end MsgNet

theorem canguruNetRecv_not_null (alloc : Bool) (data : List UInt8) (d : NetDevice) :
    Fault.nullNetdev ∉ (canguruNetRecv alloc data d).2 := by
  unfold canguruNetRecv
  split_ifs <;> simp

theorem linguruNetRecv_not_null (alloc : Bool) (data : List UInt8) (d : NetDevice) :
    Fault.nullNetdev ∉ (linguruNetRecv alloc data d).2 := by
  unfold linguruNetRecv
  split_ifs <;> simp

/-- The same channels are there, and a handler met a `NULL` net device only if one is
missing. -/
structure Drv.Kept (s t : Drv) : Prop where
  /-- The same channels are there. -/
  table : ∀ bus, (s.net bus).SameTable (t.net bus)
  /-- No new fault, if none is missing. -/
  faults : (∀ bus, (s.net bus).Full) → .nullNetdev ∉ s.faults → .nullNetdev ∉ t.faults

namespace Drv

variable {s t u : Drv}

theorem Kept.refl (s : Drv) : s.Kept s := ⟨fun _ => .refl _, fun _ h => h⟩

theorem Kept.trans (h : s.Kept t) (h' : t.Kept u) : s.Kept u :=
  ⟨fun bus => (h.table bus).trans (h'.table bus),
    fun hf hn => h'.faults (fun bus => (h.table bus).full (hf bus)) (h.faults hf hn)⟩

/-- A change of a message layer that keeps its table. -/
theorem Kept.modifyNet {f : MsgNet → MsgNet} (hf : ∀ m : MsgNet, m.SameTable (f m))
    (bus : Bus) (s : Drv) : s.Kept (s.modifyNet bus f) := by
  refine ⟨fun bus' => ?_, fun _ h => ?_⟩
  · cases bus <;> cases bus' <;> first | exact hf _ | exact .refl _
  · cases bus <;> exact h

theorem kept_runCallback (alloc : Bool) (callback : Callback) (msg : CurrMsg) (s : Drv) :
    s.Kept (runCallback alloc callback msg s) := by
  cases callback with
  | msgStdFwVersion =>
    refine ⟨fun bus => by cases bus <;> exact .refl _, fun _ h => ?_⟩
    rw [runCallback, msgStdFwVersion]
    dsimp only
    split_ifs <;> simpa using h
  | canguruStatus => exact .refl s
  | canguruSend => exact .modifyNet (fun m => m.sameTable_sendCallback _) .can s
  | canguruRecv =>
    refine ⟨fun bus => ?_, fun hf h => ?_⟩
    · cases bus with
      | can => exact s.can.sameTable_recvCallback ..
      | lin => exact .refl _
    · exact fun hm => (List.mem_append.mp hm).elim h
        (MsgNet.recvCallback_faults (canguruNetRecv_not_null alloc) (hf .can) msg)
  | linguruStatus => exact .refl s
  | linguruSend => exact .modifyNet (fun m => m.sameTable_sendCallback _) .lin s
  | linguruRecv =>
    refine ⟨fun bus => ?_, fun hf h => ?_⟩
    · cases bus with
      | can => exact .refl _
      | lin => exact s.lin.sameTable_recvCallback ..
    · exact fun hm => (List.mem_append.mp hm).elim h
        (MsgNet.recvCallback_faults (linguruNetRecv_not_null alloc) (hf .lin) msg)
  | linguruVolt => exact ⟨fun bus => by cases bus <;> exact .refl _, fun _ h => h⟩

theorem kept_processMsgList (alloc : Bool) (guru : Guru) (msg : GuruData) :
    guru.dev.Kept (canguruProcessMsgList (runCallback alloc) guru msg).dev := by
  rw [processMsgList_eq]
  have hfold : ∀ (ks : List Callback) (s : Drv),
      s.Kept (ks.foldl (fun s k => runCallback alloc k (.ofMsg msg) s) s) := by
    intro ks
    induction ks with
    | nil => exact fun s => .refl s
    | cons k ks ih => exact fun s => (kept_runCallback alloc k _ s).trans (ih _)
  exact hfold _ _

end Drv

/-! ### When a message is handled within bounds -/

/-- **What a message does is defined**, on a device in state `s`, where `alloc` says whether
a frame can be allocated. -/
structure Drv.Defined (k : DeviceKind) (alloc : Bool) (s : Drv) (msg : GuruData) : Prop where
  /-- A firmware version fits its buffer. -/
  version : msg.id = GURU_MSG_GET_VERSION → msg.dataCount.toNat ≤ MSG_STR_SIZE_MAX
  /-- A CAN frame has a channel and a buffer. -/
  can : k.hasCan = true → msg.id = CAN_MSG_RECV → ifaceOf msg < s.can.ifaceCount →
    (s.can.netdev (ifaceOf msg)).isSome = true ∧ alloc = true
  /-- So does a LIN frame, and it has at most 8 bytes. -/
  lin : k.hasLin = true → msg.id = LIN_MSG_RECV → ifaceOf msg < s.lin.ifaceCount →
    (s.lin.netdev (ifaceOf msg)).isSome = true ∧ alloc = true ∧ linDataLen msg ≤ LIN_MAX_DLEN

instance (k : DeviceKind) (alloc : Bool) (s : Drv) (msg : GuruData) :
    Decidable (s.Defined k alloc msg) :=
  decidable_of_iff ((msg.id = GURU_MSG_GET_VERSION → msg.dataCount.toNat ≤ MSG_STR_SIZE_MAX) ∧
      (k.hasCan = true → msg.id = CAN_MSG_RECV → ifaceOf msg < s.can.ifaceCount →
        (s.can.netdev (ifaceOf msg)).isSome = true ∧ alloc = true) ∧
      (k.hasLin = true → msg.id = LIN_MSG_RECV → ifaceOf msg < s.lin.ifaceCount →
        (s.lin.netdev (ifaceOf msg)).isSome = true ∧ alloc = true ∧ linDataLen msg ≤ LIN_MAX_DLEN))
    ⟨fun h => ⟨h.1, h.2.1, h.2.2⟩, fun h => ⟨h.version, h.can, h.lin⟩⟩

/-- What a callback leaves undefined. -/
def Callback.faults (alloc : Bool) (s : Drv) (msg : CurrMsg) : Callback → List Fault
  | .msgStdFwVersion =>
    if MSG_STR_SIZE_MAX < msg.dataSize.toNat then
      [.outOfBounds msg.dataSize.toNat MSG_STR_SIZE_MAX]
    else []
  | .canguruRecv => (s.can.recvCallback (canguruNetRecv alloc) msg).2
  | .linguruRecv => (s.lin.recvCallback (linguruNetRecv alloc) msg).2
  | _ => []

theorem runCallback_faults (alloc : Bool) (callback : Callback) (msg : CurrMsg) (s : Drv) :
    (runCallback alloc callback msg s).faults = s.faults ++ callback.faults alloc s msg := by
  cases callback <;> first | rfl | exact (List.append_nil _).symm

/-- A received frame is handled within bounds if there is no such channel, or it is there and
decodes the frame within bounds. -/
theorem MsgNet.recvCallback_faults_eq_nil {recv : List UInt8 → NetDevice → NetDevice × List Fault}
    {m : MsgNet} {msg : GuruData} {P : Prop} (hrecv : ∀ d, (recv msg.data d).2 = [] ↔ P) :
    (m.recvCallback recv (.ofMsg msg)).2 = [] ↔
      (ifaceOf msg < m.ifaceCount → (m.netdev (ifaceOf msg)).isSome = true ∧ P) := by
  have hbyte : ((CurrMsg.ofMsg msg).byte 0).toNat = ifaceOf msg := rfl
  rw [recvCallback, hbyte]
  by_cases hc : m.ifaceCount ≤ ifaceOf msg
  · rw [if_pos hc]
    exact iff_of_true rfl fun hlt => absurd hlt (Nat.not_lt.mpr hc)
  · rw [if_neg hc]
    have hlt : ifaceOf msg < m.ifaceCount := Nat.lt_of_not_le hc
    cases hd : m.netdev (ifaceOf msg) with
    | none => simp [hlt]
    | some d =>
      refine (hrecv d).trans ?_
      simp [hlt]

theorem canguruNetRecv_faults (alloc : Bool) (data : List UInt8) (d : NetDevice) :
    (canguruNetRecv alloc data d).2 = [] ↔ alloc = true := by
  cases alloc <;> simp [canguruNetRecv]

section Dispatch

variable {k : DeviceKind} {msg : GuruData}

/-- A callback that one handler of a device has, which takes every size, is run by the
messages with the id of that handler. -/
theorem mem_handlersOf_iff {id : UInt16} {callback : Callback}
    (hi : (⟨id, 0, .variable, some callback⟩ : GuruMsg Callback) ∈ k.msgList)
    (hid : ∀ item ∈ k.msgList, item.callback = some callback → item.msgId = id) :
    callback ∈ handlersOf k.msgList msg ↔ msg.id = id := by
  constructor
  · intro hmem
    obtain ⟨item, hitem, hcallback⟩ := List.mem_filterMap.mp hmem
    obtain ⟨hitem, hmatch⟩ := List.mem_filter.mp hitem
    exact (of_decide_eq_true hmatch).1.symm.trans (hid item hitem hcallback)
  · intro hm
    exact List.mem_filterMap.mpr ⟨_, List.mem_filter.mpr ⟨hi, decide_eq_true ⟨hm.symm, .inr rfl⟩⟩,
      rfl⟩

theorem mem_handlersOf_version :
    .msgStdFwVersion ∈ handlersOf k.msgList msg ↔ msg.id = GURU_MSG_GET_VERSION := by
  apply mem_handlersOf_iff <;> cases k <;> decide

theorem mem_handlersOf_can_recv (hk : k.hasCan = true) :
    .canguruRecv ∈ handlersOf k.msgList msg ↔ msg.id = CAN_MSG_RECV := by
  apply mem_handlersOf_iff <;> cases k <;> first | exact absurd hk (by decide) | decide

theorem mem_handlersOf_lin_recv (hk : k.hasLin = true) :
    .linguruRecv ∈ handlersOf k.msgList msg ↔ msg.id = LIN_MSG_RECV := by
  apply mem_handlersOf_iff <;> cases k <;> first | exact absurd hk (by decide) | decide

/-- A device without channels of a bus has no handler of received frames of it. -/
theorem hasBus_of_mem : (.canguruRecv ∈ handlersOf k.msgList msg → k.hasCan = true) ∧
    (.linguruRecv ∈ handlersOf k.msgList msg → k.hasLin = true) := by
  have hsub : ∀ callback ∈ handlersOf k.msgList msg,
      some callback ∈ k.msgList.map (·.callback) := by
    intro callback hmem
    obtain ⟨item, hitem, hcallback⟩ := List.mem_filterMap.mp hmem
    exact List.mem_map.mpr ⟨item, (List.mem_filter.mp hitem).1, hcallback⟩
  refine ⟨fun hmem => ?_, fun hmem => ?_⟩
  · have h := hsub _ hmem
    cases k <;> first | rfl | exact absurd h (by decide)
  · have h := hsub _ hmem
    cases k <;> first | rfl | exact absurd h (by decide)

/-- **The dispatch notes** what the callback leaves undefined that the message runs. -/
theorem processMsgList_faults (alloc : Bool) {self : Guru} (hl : self.msgList = k.msgList) :
    (canguruProcessMsgList (runCallback alloc) self msg).dev.faults =
      self.dev.faults ++
        (handlersOf k.msgList msg).flatMap (·.faults alloc self.dev (.ofMsg msg)) := by
  have hle := handlersOf_length_le k.msgList_nodup msg
  rw [processMsgList_eq, hl]
  match handlersOf k.msgList msg, hle with
  | [], _ => simp
  | [callback], _ => simp [runCallback_faults]

/-- **The dispatch of a message is defined** exactly when it fits. -/
theorem faults_iff (alloc : Bool) {self : Guru} (hl : self.msgList = k.msgList) :
    (canguruProcessMsgList (runCallback alloc) self msg).dev.faults = self.dev.faults ↔
      self.dev.Defined k alloc msg := by
  rw [processMsgList_faults alloc hl, List.append_right_eq_self, List.flatMap_eq_nil_iff]
  have hcan := @MsgNet.recvCallback_faults_eq_nil (canguruNetRecv alloc) self.dev.can msg _
    fun d => canguruNetRecv_faults alloc msg.data d
  have hlin := @MsgNet.recvCallback_faults_eq_nil (linguruNetRecv alloc) self.dev.lin msg _
    fun d => linguruNetRecv_faults alloc msg.data d
  have hversion : Callback.msgStdFwVersion.faults alloc self.dev (.ofMsg msg) = [] ↔
      msg.dataCount.toNat ≤ MSG_STR_SIZE_MAX := by
    rw [← Nat.not_lt]
    exact ite_eq_right_iff.trans (imp_congr_right fun _ => iff_of_false (List.cons_ne_nil _ _) id)
  constructor
  · intro h
    constructor
    case version => exact fun hid => hversion.mp (h _ (mem_handlersOf_version.mpr hid))
    case can => exact fun hk hid => hcan.mp (h _ ((mem_handlersOf_can_recv hk).mpr hid))
    case lin => exact fun hk hid => hlin.mp (h _ ((mem_handlersOf_lin_recv hk).mpr hid))
  · intro h callback hmem
    cases callback with
    | msgStdFwVersion => exact hversion.mpr (h.version (mem_handlersOf_version.mp hmem))
    | canguruRecv =>
      have hk := hasBus_of_mem.1 hmem
      exact hcan.mpr (h.can hk ((mem_handlersOf_can_recv hk).mp hmem))
    | linguruRecv =>
      have hk := hasBus_of_mem.2 hmem
      exact hlin.mpr (h.lin hk ((mem_handlersOf_lin_recv hk).mp hmem))
    | _ => rfl

end Dispatch

end CanGuru
