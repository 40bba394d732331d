import CanGuru.Driver

/-!
# Which messages reach a handler

`canguru_process_msg_list` offers a message to every handler that was registered. This
module says which of them run, for every message and every kind of device.

## The model

The callbacks are a parameter of the dispatch, so the handlers that run are found by
running it on callbacks that write down whose they are (`ran`); `processMsgList_ran` says
that what the dispatch does to the driver is what these handlers do, in this order.

## What is proved

`accepted_iff` — a handler runs exactly when the message has its id and, if it insists on
a size, its size. At most one handler runs, and if none does the driver is left as it was.
The preamble of a message and the bound on its data are looked at nowhere.
-/

namespace CanGuru

open Packed

namespace Acceptance

/-- A handler whose callback writes down whose it is. -/
def tag (item : GuruMsg Callback) : GuruMsg (GuruMsg Callback) where
  msgId := item.msgId
  dataCount := item.dataCount
  sizeRestriction := item.sizeRestriction
  callback := item.callback.map fun _ => item

/-- The handlers whose callback the dispatch of a message runs, in order. -/
def ran (msgList : List (GuruMsg Callback)) (msg : GuruData) : List (GuruMsg Callback) :=
  (canguruProcessMsgList (fun item _ log => log ++ [item]) ⟨msgList.map tag, .none, []⟩ msg).dev

/-- **A message a handler accepts.** -/
structure Accepts (item : GuruMsg Callback) (msg : GuruData) : Prop where
  /-- The handler is for this id. -/
  id : msg.id = item.msgId
  /-- A handler that insists on a size gets it. -/
  size : item.sizeRestriction = .static → msg.dataCount = item.dataCount

/-- A well-formed message for a handler: it starts with the preamble, its data fits, and
the handler accepts it. -/
structure WellFormed (item : GuruMsg Callback) (msg : GuruData) :
    Prop extends Accepts item msg where
  /-- The preamble `guru_send_data` writes. -/
  preamble : msg.preamble = GURU_CMD_PREAMBLE
  /-- The data fits a message. -/
  bounded : msg.dataCount.toNat ≤ GURU_MAX_DATA_SIZE

theorem matches_iff {item : GuruMsg Callback} {msg : GuruData} :
    item.Matches msg ↔ Accepts item msg := by
  constructor
  · rintro ⟨hid, hsize⟩
    refine ⟨hid.symm, fun hstatic => ?_⟩
    rcases hsize with hsize | hvariable
    · exact hsize.symm
    · rw [hstatic] at hvariable
      cases hvariable
  · rintro ⟨hid, hsize⟩
    refine ⟨hid.symm, ?_⟩
    by_cases hstatic : item.sizeRestriction = .static
    · exact .inl (hsize hstatic).symm
    · cases hr : item.sizeRestriction
      · exact absurd hr hstatic
      · exact .inr rfl

instance (item : GuruMsg Callback) (msg : GuruData) : Decidable (Accepts item msg) :=
  decidable_of_iff _ matches_iff

/-! ### The handlers that run -/

theorem handlersOf_tag_singleton (item : GuruMsg Callback) (msg : GuruData) :
    handlersOf [tag item] msg = [item].filter fun item =>
      Accepts item msg ∧ item.callback.isSome = true := by
  have hmatch : (tag item).Matches msg ↔ Accepts item msg := @matches_iff item msg
  by_cases h : Accepts item msg
  · have hfilter : [tag item].filter (fun item => item.Matches msg) = [tag item] := by
      simp [hmatch, h]
    rw [handlersOf, hfilter]
    cases hk : item.callback <;> simp [tag, h, hk]
  · have hfilter : [tag item].filter (fun item => item.Matches msg) = [] := by simp [hmatch, h]
    rw [handlersOf, hfilter]
    simp [h]

/-- What is written down is what the tagged handlers run. -/
theorem ran_eq_handlersOf (items : List (GuruMsg Callback)) (msg : GuruData) :
    ran items msg = handlersOf (items.map tag) msg := by
  rw [ran, processMsgList_eq]
  simp [← List.flatMap_def]

/-- The handlers that run are those that accept the message and have a callback. -/
theorem ran_eq (items : List (GuruMsg Callback)) (msg : GuruData) :
    ran items msg = items.filter fun item => Accepts item msg ∧ item.callback.isSome = true := by
  rw [ran_eq_handlersOf]
  induction items with
  | nil => rfl
  | cons item items ih =>
    rw [List.map_cons, handlersOf_cons, ih, handlersOf_tag_singleton, ← List.filter_append,
      List.singleton_append]

/-- The callbacks that run are those of the handlers that are written down. -/
theorem handlersOf_ran (items : List (GuruMsg Callback)) (msg : GuruData) :
    handlersOf items msg = (ran items msg).filterMap (·.callback) := by
  rw [ran_eq, handlersOf]
  induction items with
  | nil => rfl
  | cons item items ih =>
    by_cases h : Accepts item msg
    · cases hk : item.callback <;> simp [matches_iff, h, hk] at ih ⊢ <;> exact ih
    · simpa [matches_iff, h] using ih

/-- **What the dispatch does** to the driver is what the handlers that are written down do. -/
theorem processMsgList_ran (alloc : Bool) (self : Guru) (msg : GuruData) :
    (canguruProcessMsgList (runCallback alloc) self msg).dev =
      ((ran self.msgList msg).filterMap (·.callback)).foldl
        (fun s callback => runCallback alloc callback (.ofMsg msg) s) self.dev := by
  rw [processMsgList_eq, handlersOf_ran]

theorem callback_isSome (k : DeviceKind) : ∀ item ∈ k.msgList, item.callback.isSome = true := by
  cases k <;> decide

theorem ran_length_le (k : DeviceKind) (msg : GuruData) : (ran k.msgList msg).length ≤ 1 := by
  rw [ran_eq_handlersOf]
  refine handlersOf_length_le ?_ msg
  rw [List.map_map]
  exact k.msgList_nodup

/-- **A handler runs** exactly when the message has its id and, if it insists on a size,
its size; at most one does; and a message that no handler accepts leaves the driver as it
was. -/
theorem accepted_iff (alloc : Bool) {k : DeviceKind} {self : Guru} (hl : self.msgList = k.msgList)
    (msg : GuruData) : (∀ item ∈ self.msgList, item ∈ ran self.msgList msg ↔ Accepts item msg) ∧
      (ran self.msgList msg).length ≤ 1 ∧
      ((∀ item ∈ self.msgList, ¬ Accepts item msg) →
        (canguruProcessMsgList (runCallback alloc) self msg).dev = self.dev) := by
  have hran : ∀ item ∈ self.msgList, item ∈ ran self.msgList msg ↔ Accepts item msg := by
    intro item hi
    have hsome : item.callback.isSome = true := callback_isSome k item (hl ▸ hi)
    rw [ran_eq, List.mem_filter]
    simp [hi, hsome]
  refine ⟨hran, hl ▸ ran_length_le k msg, fun hnone => ?_⟩
  have hnil : ran self.msgList msg = [] := by
    rw [ran_eq, List.filter_eq_nil_iff]
    intro item hi haccepts
    exact hnone item hi (of_decide_eq_true haccepts).1
  rw [processMsgList_ran, hnil]
  rfl

/-- The handler of a send status. -/
def sendHandler : GuruMsg Callback := ⟨CAN_MSG_SEND, 1, .static, some .canguruSend⟩

/-- A send status of one byte reaches its handler, and one of two bytes reaches none. -/
theorem accepted_status :
    sendHandler ∈ ran DeviceKind.canguru.ready.msgList (.fill CAN_MSG_SEND [0]) ∧
      (canguruProcessMsgList (runCallback true) DeviceKind.canguru.ready (.fill CAN_MSG_SEND [0, 0])).dev =
        DeviceKind.canguru.ready.dev :=
  ⟨((@accepted_iff true .canguru DeviceKind.canguru.ready rfl (.fill CAN_MSG_SEND [0])).1 sendHandler (by decide)).mpr
      ⟨rfl, fun _ => rfl⟩,
    (@accepted_iff true .canguru DeviceKind.canguru.ready rfl (.fill CAN_MSG_SEND [0, 0])).2.2 (by decide)⟩

/-- The handler of the firmware version. -/
def versionHandler : GuruMsg Callback := ⟨GURU_MSG_GET_VERSION, 0, .variable, some .msgStdFwVersion⟩

/-- A block of a transfer with the id of a firmware version. -/
def versionMsg (preamble dataCount : UInt8) : GuruData :=
  .ofBytes ([preamble, 0, 1, 0, dataCount] ++ List.replicate 123 65)

/-- A message without the preamble reaches a handler, and so does one whose data does not
fit a message. -/
theorem ran_stray :
    (versionHandler ∈ ran DeviceKind.canguru.ready.msgList (versionMsg 0 3) ∧
        ¬ WellFormed versionHandler (versionMsg 0 3)) ∧
      versionHandler ∈ ran DeviceKind.canguru.ready.msgList (versionMsg GURU_CMD_PREAMBLE 200) ∧
        ¬ WellFormed versionHandler (versionMsg GURU_CMD_PREAMBLE 200) := by
  refine ⟨⟨?_, fun h => ?_⟩, ?_, fun h => ?_⟩
  · rw [ran_eq]
    decide
  · exact absurd h.preamble (by decide)
  · rw [ran_eq]
    decide
  · exact absurd h.bounded (by decide)

end Acceptance

end CanGuru
