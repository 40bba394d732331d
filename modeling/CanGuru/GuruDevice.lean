import CanGuru.Lib.Packed
import CanGuru.Kernel

/-!
# The Guru device

`guru-msg.h` and the message half of `guru-device.c`: the frame of a message on
the wire, the handlers registered for message ids, the dispatch of a received
message and the splitting of a bulk transfer into messages.

## The model

The handlers and the state they work on are parameters: `κ` names the callbacks
and `call` runs one, with the message that `guru_get_msg_id`,
`guru_get_msg_data_size` and `guru_get_msg_data` show it. A message is read out of
the bytes of the transfer buffer as the packed structures lay it out.

`guru_send_data` hands its message to the USB core and takes no part in its
delivery; where it fails is the kernel's to decide and is the argument
`SendOutcome`.

## What is proved

* `processMsgList_eq` — the dispatch runs the callbacks of the handlers that match
  the message, in the order of registration, and leaves the current-message fields
  cleared.
* `readBulkCallback_ok` — a successful transfer of one message is one dispatch.
* `readBulkCallback_eq` — a completed transfer is the dispatch of its messages in
  order.
-/

namespace CanGuru

open Packed

/-! ### Messages -/

/-- `GURU_CMD_PREAMBLE`. -/
def GURU_CMD_PREAMBLE : UInt8 := 0x58

/-- `GURU_MAX_DATA_SIZE`. -/
def GURU_MAX_DATA_SIZE : ℕ := 123

/-- `sizeof(struct guru_data)`. -/
def GURU_DATA_SIZE : ℕ := 128

/-- `GURU_MAX_URBS`. -/
def GURU_MAX_URBS : ℕ := 32

/-- `enum guru_status`, the values the driver compares with. -/
def GURU_STATUS_DONE : UInt8 := 0

/-- `GURU_STATUS_ERROR`. -/
def GURU_STATUS_ERROR : UInt8 := 2

/-- `struct guru_data`: the header and the data bytes of a message. -/
structure GuruData where
  /-- `header.preamble`. -/
  preamble : UInt8
  /-- `header.ctrl`. -/
  ctrl : UInt8
  /-- `header.id`. -/
  id : UInt16
  /-- `header.data_count`. -/
  dataCount : UInt8
  /-- The data bytes. -/
  data : List UInt8
  deriving DecidableEq

/-- The message that starts a block of bytes. -/
def GuruData.ofBytes (b : List UInt8) : GuruData where
  preamble := b.getD 0 0
  ctrl := b.getD 1 0
  id := UInt16.ofNat (readLE 2 2 b)
  dataCount := b.getD 4 0
  data := b.drop 5

/-- The bytes of a message. -/
def GuruData.toBytes (m : GuruData) : List UInt8 :=
  [m.preamble, m.ctrl] ++ toLE 2 m.id.toNat ++ [m.dataCount] ++ m.data

/-- Where a call of `guru_send_data` ends. -/
inductive SendOutcome where
  /-- `usb_alloc_urb` fails. -/
  | noUrb
  /-- `usb_alloc_coherent` fails. -/
  | noBuf
  /-- `usb_submit_urb` returns `err`, `0` if it takes the URB. -/
  | submit (err : ℤ)
  deriving DecidableEq

/-- What `guru_send_data` returns. -/
def SendOutcome.err : SendOutcome → ℤ
  | .noUrb => -ENOMEM
  | .noBuf => -ENOMEM
  | .submit err => err

/-- A call that succeeds. -/
abbrev SendOutcome.ok : SendOutcome := .submit 0

/-- The message `guru_send_data` fills its buffer with. -/
def GuruData.fill (id : UInt16) (data : List UInt8) : GuruData where
  preamble := GURU_CMD_PREAMBLE
  ctrl := 0
  id := id
  dataCount := UInt8.ofNat data.length
  data := data

/-- The `data_count` of a message that is not too long is the length of its data. -/
theorem GuruData.fill_dataCount {id : UInt16} {data : List UInt8}
    (h : data.length ≤ GURU_MAX_DATA_SIZE) :
    (GuruData.fill id data).dataCount.toNat = data.length :=
  UInt8.toNat_ofNat_of_lt' (lt_of_le_of_lt h (by decide))

/-- `guru_send_data`: what it returns, and the message if the USB core takes it. -/
def guruSendData (o : SendOutcome) (id : UInt16) (data : List UInt8) : ℤ × List GuruData :=
  (o.err, if o.err = 0 then [.fill id data] else [])

/-! ### Handlers -/

/-- `enum guru_msg_size`. -/
inductive GuruMsgSize where
  /-- `GURU_SIZE_STATIC`. -/
  | static
  /-- `GURU_SIZE_VARIABLE`. -/
  | variable
  deriving DecidableEq

/-- `struct guru_msg`: a handler. -/
structure GuruMsg (κ : Type) where
  /-- The message id it is for. -/
  msgId : UInt16
  /-- The size it expects. -/
  dataCount : UInt8
  /-- Whether it insists on that size. -/
  sizeRestriction : GuruMsgSize
  /-- Its callback, or `NULL`. -/
  callback : Option κ
  deriving DecidableEq

/-- What `guru_get_msg_data`, `guru_get_msg_data_size` and `guru_get_msg_id` return. -/
structure CurrMsg where
  /-- `curr_msg_data`. -/
  data : Option (List UInt8)
  /-- `curr_msg_data_size`. -/
  dataSize : UInt8
  /-- `curr_msg_id`. -/
  id : UInt16
  deriving DecidableEq

/-- The fields between two messages. -/
def CurrMsg.none : CurrMsg := ⟨.none, 0, 0⟩

/-- The fields while a message is dispatched. -/
def CurrMsg.ofMsg (msg : GuruData) : CurrMsg := ⟨some msg.data, msg.dataCount, msg.id⟩

/-- The byte `i` behind the pointer `guru_get_msg_data` returns. -/
def CurrMsg.byte (m : CurrMsg) (i : ℕ) : UInt8 := (m.data.getD []).getD i 0

/-- `struct guru_device`, as far as messages are concerned. -/
structure GuruDevice (κ σ : Type) where
  /-- `msg_list`. -/
  msgList : List (GuruMsg κ)
  /-- The current-message fields. -/
  curr : CurrMsg
  /-- What the callbacks work on. -/
  dev : σ

/-- `guru_add_msg`. -/
def guruAddMsg {κ σ : Type} (msg : GuruMsg κ) (self : GuruDevice κ σ) : GuruDevice κ σ :=
  { self with msgList := self.msgList ++ [msg] }

variable {κ σ : Type} (call : κ → CurrMsg → σ → σ)

/-- The body of the loop of `canguru_process_msg_list`. -/
def processMsg (msg : GuruData) (self : GuruDevice κ σ) (item : GuruMsg κ) : GuruDevice κ σ :=
  if item.msgId ≠ msg.id then self
  else if item.dataCount = msg.dataCount ∨ item.sizeRestriction = .variable then
    match item.callback with
    | some k => { self with dev := call k self.curr self.dev }
    | none => self
  else self

/-- `canguru_process_msg_list`. -/
def canguruProcessMsgList (self : GuruDevice κ σ) (msg : GuruData) : GuruDevice κ σ :=
  let self := { self with curr := CurrMsg.ofMsg msg }
  let self := self.msgList.foldl (processMsg call msg) self
  { self with curr := CurrMsg.none }

/-- A bulk URB. -/
structure BulkUrb where
  /-- `status`. -/
  status : ℤ
  /-- `transfer_buffer_length`. -/
  transferBufferLength : UInt32
  /-- `actual_length`: how many bytes the transfer brought. -/
  actualLength : UInt32
  /-- `transfer_buffer`. -/
  transferBuffer : List UInt8

/-- The loop of `canguru_read_bulk_callback` from position `pos`. -/
def bulkLoop (buf : List UInt8) (len pos : UInt32) (self : GuruDevice κ σ) : GuruDevice κ σ :=
  if GURU_DATA_SIZE ≤ (len - pos).toNat then
    bulkLoop buf len (pos + 128)
      (canguruProcessMsgList call self (.ofBytes ((buf.drop pos.toNat).take GURU_DATA_SIZE)))
  else self
termination_by (len - pos).toNat
decreasing_by
  rename_i h
  unfold GURU_DATA_SIZE at h
  have hle : (128 : UInt32) ≤ len - pos := UInt32.le_iff_toNat_le.mpr h
  rw [show len - (pos + 128) = len - pos - 128 by grind, UInt32.toNat_sub_of_le _ _ hle]
  have : (128 : UInt32).toNat = 128 := rfl
  omega

/-- `canguru_read_bulk_callback`: what it does with the messages, and whether it
goes on to resubmit the URB. -/
def canguruReadBulkCallback (urb : BulkUrb) (self : GuruDevice κ σ) : GuruDevice κ σ × Bool :=
  if urb.status = 0 then (bulkLoop call urb.transferBuffer urb.transferBufferLength 0 self, true)
  else if urb.status = -ENOENT ∨ urb.status = -EPIPE ∨ urb.status = -EPROTO ∨
    urb.status = -ESHUTDOWN then
    (self, false)
  else (self, true)

/-! ### What the dispatch does -/

/-- The handler is for the message. -/
def GuruMsg.Matches (item : GuruMsg κ) (msg : GuruData) : Prop :=
  item.msgId = msg.id ∧ (item.dataCount = msg.dataCount ∨ item.sizeRestriction = .variable)

instance (item : GuruMsg κ) (msg : GuruData) : Decidable (item.Matches msg) :=
  inferInstanceAs (Decidable (_ ∧ _))

/-- The callbacks that a message runs, in order. -/
def handlersOf (items : List (GuruMsg κ)) (msg : GuruData) : List κ :=
  (items.filter fun item => item.Matches msg).filterMap (·.callback)

variable {call}

/-- A turn of the loop runs the callback of a handler that matches. -/
theorem processMsg_eq (msg : GuruData) (self : GuruDevice κ σ) (item : GuruMsg κ) :
    processMsg call msg self item =
      { self with dev := (handlersOf [item] msg).foldl (fun s k => call k self.curr s) self.dev } := by
  by_cases hid : item.msgId = msg.id
  · by_cases hsz : item.dataCount = msg.dataCount ∨ item.sizeRestriction = .variable
    · cases hk : item.callback <;> simp [processMsg, handlersOf, GuruMsg.Matches, hid, hsz, hk]
    · simp [processMsg, handlersOf, GuruMsg.Matches, hid, hsz]
  · simp [processMsg, handlersOf, GuruMsg.Matches, hid]

theorem handlersOf_cons (item : GuruMsg κ) (items : List (GuruMsg κ)) (msg : GuruData) :
    handlersOf (item :: items) msg = handlersOf [item] msg ++ handlersOf items msg := by
  by_cases h : item.Matches msg
  · cases hk : item.callback <;> simp [handlersOf, h, hk]
  · simp [handlersOf, h]

/-- The loop runs the callbacks of the handlers that match. -/
theorem foldl_processMsg (msg : GuruData) (items : List (GuruMsg κ)) (self : GuruDevice κ σ) :
    items.foldl (processMsg call msg) self =
      { self with dev := (handlersOf items msg).foldl (fun s k => call k self.curr s) self.dev } := by
  induction items generalizing self with
  | nil => rfl
  | cons item items ih =>
    rw [List.foldl_cons, processMsg_eq, ih, handlersOf_cons item items, List.foldl_append]

/-- **The dispatch** runs the callbacks of the handlers that match the message, in
the order of registration, each seeing the message, and clears the fields. -/
theorem processMsgList_eq (self : GuruDevice κ σ) (msg : GuruData) :
    canguruProcessMsgList call self msg =
      { self with
        curr := CurrMsg.none
        dev := (handlersOf self.msgList msg).foldl (fun s k => call k (CurrMsg.ofMsg msg) s) self.dev } := by
  unfold canguruProcessMsgList
  simp only [foldl_processMsg]

/-- A successful transfer of the size of one message is one dispatch, whatever its
actual length. -/
theorem readBulkCallback_ok (urb : BulkUrb) (self : GuruDevice κ σ) (hs : urb.status = 0)
    (hl : urb.transferBufferLength = 128) :
    canguruReadBulkCallback call urb self =
      (canguruProcessMsgList call self (.ofBytes (urb.transferBuffer.take GURU_DATA_SIZE)),
        true) := by
  rw [canguruReadBulkCallback, if_pos hs, hl, bulkLoop, if_pos (by decide), bulkLoop,
    if_neg (by decide)]
  rfl

/-- The messages of a transfer, from position `pos`: its blocks of 128 bytes. -/
def messagesFrom (buf : List UInt8) (len pos : ℕ) : List GuruData :=
  (List.range ((len - pos) / GURU_DATA_SIZE)).map fun j =>
    .ofBytes ((buf.drop (pos + GURU_DATA_SIZE * j)).take GURU_DATA_SIZE)

/-- The messages of a bulk transfer that succeeds. -/
def BulkUrb.messages (urb : BulkUrb) : List GuruData :=
  if urb.status = 0 then messagesFrom urb.transferBuffer urb.transferBufferLength.toNat 0 else []

theorem messagesFrom_cons {buf : List UInt8} {len pos : ℕ} (h : GURU_DATA_SIZE ≤ len - pos) :
    messagesFrom buf len pos =
      .ofBytes ((buf.drop pos).take GURU_DATA_SIZE) ::
        messagesFrom buf len (pos + GURU_DATA_SIZE) := by
  have hcount :
      (len - pos) / GURU_DATA_SIZE = (len - (pos + GURU_DATA_SIZE)) / GURU_DATA_SIZE + 1 := by
    rw [Nat.div_eq_sub_div (by decide) h, Nat.sub_sub]
  rw [messagesFrom, hcount, List.range_succ_eq_map, List.map_cons, List.map_map, messagesFrom]
  refine congrArg₂ _ rfl (List.map_congr_left fun j _ => ?_)
  rw [Function.comp_apply, Nat.succ_eq_add_one, Nat.mul_add, Nat.mul_one,
    Nat.add_comm (GURU_DATA_SIZE * j), Nat.add_assoc]

/-- The difference the test of the loop looks at. -/
theorem toNat_len_sub {len pos : UInt32} (hle : pos.toNat ≤ len.toNat) :
    (len - pos).toNat = len.toNat - pos.toNat :=
  UInt32.toNat_sub_of_le _ _ (UInt32.le_iff_toNat_le.mpr hle)

theorem toNat_pos_add {len pos : UInt32} (h : pos.toNat + GURU_DATA_SIZE ≤ len.toNat) :
    (pos + 128).toNat = pos.toNat + GURU_DATA_SIZE := by
  have hlen := len.toNat_lt
  have h128 : (128 : UInt32).toNat = 128 := rfl
  rw [UInt32.toNat_add]
  unfold GURU_DATA_SIZE at h ⊢
  omega

/-- The loop dispatches the messages of the transfer in order. -/
theorem bulkLoop_eq (buf : List UInt8) (len pos : UInt32) (hle : pos.toNat ≤ len.toNat)
    (self : GuruDevice κ σ) : bulkLoop call buf len pos self =
      (messagesFrom buf len.toNat pos.toNat).foldl (canguruProcessMsgList call) self := by
  induction hn : len.toNat - pos.toNat using Nat.strong_induction_on generalizing pos self with
  | _ n ih =>
    have hpositive : 0 < GURU_DATA_SIZE := by decide
    rw [bulkLoop, toNat_len_sub hle]
    by_cases h : GURU_DATA_SIZE ≤ len.toNat - pos.toNat
    · have hnext : (pos + 128).toNat = pos.toNat + GURU_DATA_SIZE :=
        @toNat_pos_add len pos (by omega)
      rw [if_pos h, messagesFrom_cons h, List.foldl_cons, ← hnext]
      exact ih _ (by omega) (pos + 128) (by omega) _ rfl
    · rw [if_neg h, messagesFrom, Nat.div_eq_of_lt (Nat.lt_of_not_le h)]
      rfl

/-- **A completed transfer** is the dispatch of its messages in order. -/
theorem readBulkCallback_eq (urb : BulkUrb) (self : GuruDevice κ σ) :
    (canguruReadBulkCallback call urb self).1 = urb.messages.foldl
    (canguruProcessMsgList call) self := by
  rw [canguruReadBulkCallback, BulkUrb.messages]
  split
  case isTrue => exact bulkLoop_eq _ _ 0 (Nat.zero_le _) self
  case isFalse => split <;> rfl

end CanGuru
