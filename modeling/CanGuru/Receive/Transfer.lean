import CanGuru.Lib.Machine
import CanGuru.GuruDevice

/-!
# The messages of a transfer

`canguru_read_bulk_callback` goes through the buffer of a transfer block by block, with a
position of 32 bits and a test on the difference to the length, and shows each block to the
handlers through fields of the device that all of them share.

## The model

`turn` is one turn of the loop: a machine whose only event is that the test lets it go on.
`bulkLoop_of_run` says that the loop is this machine. What the handlers are shown is said
of the bytes of the transfer (`callsOf`), not of the messages the model reads out of them.

A device is `Reached` if it was allocated, which clears its fields, and then was worked on:
handlers were registered, transfers completed, callbacks and requests of the user changed
the rest of it. Every list of handlers is that of such a device.

## What is proved

* `run_turn` — the loop makes one turn for each whole block; before each turn the position
  is what it is without a bound, and so is the difference.
* `readBulkCallback_split` — a successful transfer is split into its blocks of 128 bytes,
  and each is shown to the handlers that match it, in order, and to no others.
-/

namespace CanGuru

namespace Transfer

open Machine Packed

variable {κ σ : Type} {call : κ → CurrMsg → σ → σ} {buf : List UInt8} {len : UInt32}

/-! ### The loop, turn by turn -/

/-- What a turn of the loop works on. -/
structure LoopSt (κ σ : Type) where
  /-- `pos`. -/
  pos : UInt32
  /-- `self`. -/
  self : GuruDevice κ σ

/-- A turn of the loop of `canguru_read_bulk_callback`, if its test lets it go on. -/
def turn (call : κ → CurrMsg → σ → σ) (buf : List UInt8) (len : UInt32) (s : LoopSt κ σ)
    (_ : Unit) : Option (LoopSt κ σ) :=
  if GURU_DATA_SIZE ≤ (len - s.pos).toNat then
    some
      { pos := s.pos + 128
        self := canguruProcessMsgList call s.self (.ofBytes ((buf.drop s.pos.toNat).take GURU_DATA_SIZE)) }
  else none

/-- A turn leaves to the loop what the loop would have done. -/
theorem bulkLoop_of_turn {s s' : LoopSt κ σ} {e : Unit} (hs : turn call buf len s e = some s') :
    bulkLoop call buf len s.pos s.self = bulkLoop call buf len s'.pos s'.self := by
  rw [turn] at hs
  split at hs
  case isTrue h =>
    obtain rfl := Option.some.inj hs
    rw [bulkLoop, if_pos h]
  case isFalse => cases hs

/-- **The loop** is its turns, until its test stops it. -/
theorem bulkLoop_of_run {s t : LoopSt κ σ} {es : List Unit}
    (hr : run (turn call buf len) s es = some t) (hstop : turn call buf len t () = none) :
    bulkLoop call buf len s.pos s.self = t.self := by
  induction es generalizing s with
  | nil =>
    rw [run_nil, Option.some.injEq] at hr
    subst hr
    rw [turn] at hstop
    split at hstop
    case isTrue => cases hstop
    case isFalse h => rw [bulkLoop, if_neg h]
  | cons e es ih =>
    obtain ⟨s', hs, hr⟩ := run_cons_eq_some.mp hr
    rw [bulkLoop_of_turn hs]
    exact ih hr

/-! ### The position -/

/-- A turn at a position with a whole block behind it: the block is dispatched, and the new
position is what it is without a bound. -/
theorem turn_eq {s : LoopSt κ σ} (hpos : s.pos.toNat + GURU_DATA_SIZE ≤ len.toNat) :
    ∃ s', turn call buf len s () = some s' ∧ s'.pos.toNat = s.pos.toNat + GURU_DATA_SIZE ∧
      s'.self =
        canguruProcessMsgList call s.self (.ofBytes ((buf.drop s.pos.toNat).take GURU_DATA_SIZE)) := by
  refine ⟨_, if_pos ?_, toNat_pos_add hpos, rfl⟩
  rw [toNat_len_sub (by omega)]
  omega

/-- At a position without a whole block behind it the loop stops. -/
theorem turn_eq_none {s : LoopSt κ σ} (hle : s.pos.toNat ≤ len.toNat)
    (hpos : len.toNat < s.pos.toNat + GURU_DATA_SIZE) : turn call buf len s () = none := by
  refine if_neg ?_
  rw [toNat_len_sub hle]
  omega

/-- **The turns of the loop**: as long as there are whole blocks, each turn dispatches the next
one and leaves the position behind it. -/
theorem run_turn {i : ℕ} {s : LoopSt κ σ} (hpos : s.pos.toNat + GURU_DATA_SIZE * i ≤ len.toNat) :
    ∃ t, run (turn call buf len) s (List.replicate i ()) = some t ∧
      t.pos.toNat = s.pos.toNat + GURU_DATA_SIZE * i ∧
      t.self = ((messagesFrom buf len.toNat s.pos.toNat).take i).foldl (canguruProcessMsgList call)
        s.self := by
  induction i generalizing s with
  | zero => exact ⟨s, rfl, rfl, rfl⟩
  | succ i ih =>
    rw [Nat.mul_succ] at hpos
    obtain ⟨s', hturn, hpos', hself⟩ := @turn_eq _ _ call buf len s (by omega)
    obtain ⟨t, hrun, htpos, htself⟩ := @ih s' (by omega)
    refine ⟨t, ?_, ?_, ?_⟩
    · rw [List.replicate_succ, run_cons_eq_some]
      exact ⟨s', hturn, hrun⟩
    · rw [htpos, hpos', Nat.mul_succ]
      omega
    · have hcons := @messagesFrom_cons buf len.toNat s.pos.toNat (by omega)
      rw [htself, hself, hpos', hcons, List.take_succ_cons, List.foldl_cons]

/-! ### The blocks -/

/-- The first `n` blocks of a buffer. -/
def blocks (buf : List UInt8) (n : ℕ) : List (List UInt8) :=
  (List.range n).map fun j => (buf.drop (GURU_DATA_SIZE * j)).take GURU_DATA_SIZE

theorem blocks_flatten (n : ℕ) : (blocks buf n).flatten = buf.take (GURU_DATA_SIZE * n) := by
  induction n with
  | zero => simp [blocks]
  | succ n ih =>
    rw [blocks, List.range_succ, List.map_append, List.flatten_append, ← blocks, ih, Nat.mul_succ,
      List.take_add]
    simp

/-- The blocks that are in the buffer are whole. -/
theorem length_of_mem_blocks {n : ℕ} (hn : GURU_DATA_SIZE * n ≤ buf.length) {block : List UInt8}
    (hb : block ∈ blocks buf n) : block.length = GURU_DATA_SIZE := by
  obtain ⟨j, hj, rfl⟩ := List.mem_map.mp hb
  have hmul : GURU_DATA_SIZE * (j + 1) ≤ GURU_DATA_SIZE * n :=
    Nat.mul_le_mul_left _ (List.mem_range.mp hj)
  rw [List.length_take, List.length_drop]
  rw [Nat.mul_succ] at hmul
  omega

theorem take_messagesFrom {i : ℕ} (hi : i ≤ len.toNat / GURU_DATA_SIZE) :
    (messagesFrom buf len.toNat 0).take i = (blocks buf i).map .ofBytes := by
  rw [messagesFrom, blocks, ← List.map_take, List.map_map, List.take_range, Nat.sub_zero,
    min_eq_left hi]
  exact List.map_congr_left fun j _ => by rw [Nat.zero_add]; rfl

/-! ### The calls -/

/-- A call of a callback, with what `guru_get_msg_id`, `guru_get_msg_data_size` and
`guru_get_msg_data` return in it. -/
structure Call (κ : Type) where
  /-- The callback. -/
  callback : κ
  /-- The id. -/
  id : UInt16
  /-- The size. -/
  dataSize : UInt8
  /-- The data. -/
  data : Option (List UInt8)

/-- What a call does. -/
def Call.exec (call : κ → CurrMsg → σ → σ) (dev : σ) (c : Call κ) : σ :=
  call c.callback ⟨c.data, c.dataSize, c.id⟩ dev

/-- **The calls a block is for**: the callbacks of the handlers for its id that expect its size
or any, in the order of registration, each seeing its id, its size and its data. -/
def callsOf (items : List (GuruMsg κ)) (block : List UInt8) : List (Call κ) :=
  let id := UInt16.ofNat (readLE 2 2 block)
  let size := block.getD 4 0
  (items.filter fun item => item.msgId = id ∧
    (item.dataCount = size ∨ item.sizeRestriction = .variable)).filterMap
    fun item => item.callback.map fun callback => ⟨callback, id, size, some (block.drop 5)⟩

theorem processMsgList_block (self : GuruDevice κ σ) (block : List UInt8) :
    canguruProcessMsgList call self (.ofBytes block) =
      { self with
        curr := CurrMsg.none
        dev := (callsOf self.msgList block).foldl (Call.exec call) self.dev } := by
  have hcalls : callsOf self.msgList block =
      (handlersOf self.msgList (.ofBytes block)).map fun callback =>
        ⟨callback, (GuruData.ofBytes block).id, (GuruData.ofBytes block).dataCount,
          some (GuruData.ofBytes block).data⟩ := by
    rw [handlersOf, List.map_filterMap]
    rfl
  rw [processMsgList_eq, hcalls, List.foldl_map]
  rfl

/-- The dispatch of blocks, one after the other, makes their calls. -/
theorem foldl_processMsgList {self : GuruDevice κ σ} (hcurr : self.curr = .none)
    (bs : List (List UInt8)) : (bs.map .ofBytes).foldl (canguruProcessMsgList call) self =
      { self with dev := (bs.flatMap (callsOf self.msgList)).foldl (Call.exec call) self.dev } := by
  induction bs generalizing self with
  | nil => rfl
  | cons block bs ih =>
    rw [List.map_cons, List.foldl_cons, processMsgList_block, ih rfl, List.flatMap_cons,
      List.foldl_append, hcurr]

/-! ### The device -/

/-- A device the driver can have: what `devm_kzalloc` and `guru_dev_init` leave, with
handlers registered, transfers completed and the rest of it changed by others. -/
inductive Reached (call : κ → CurrMsg → σ → σ) : GuruDevice κ σ → Prop where
  /-- The device is allocated. -/
  | alloc (dev : σ) : Reached call ⟨[], .none, dev⟩
  /-- A handler is registered. -/
  | addMsg {self : GuruDevice κ σ} (msg : GuruMsg κ) : Reached call self →
    Reached call (guruAddMsg msg self)
  /-- The rest of the device changes. -/
  | change {self : GuruDevice κ σ} (dev : σ) : Reached call self →
    Reached call { self with dev := dev }
  /-- A transfer completes. -/
  | complete {self : GuruDevice κ σ} (urb : BulkUrb) :
      Reached call self → Reached call (canguruReadBulkCallback call urb self).1

theorem curr_foldl_processMsgList {self : GuruDevice κ σ} (hcurr : self.curr = .none)
    (msgs : List GuruData) : (msgs.foldl (canguruProcessMsgList call) self).curr = .none := by
  induction msgs generalizing self with
  | nil => exact hcurr
  | cons msg msgs ih => exact ih rfl

theorem Reached.curr_eq {self : GuruDevice κ σ} (h : Reached call self) : self.curr = .none := by
  induction h with
  | alloc => rfl
  | addMsg _ _ ih => exact ih
  | change _ _ ih => exact ih
  | complete urb _ ih =>
    rw [readBulkCallback_eq]
    exact curr_foldl_processMsgList ih _

/-- Every list of handlers is that of a device. -/
theorem reached_of_handlers (items : List (GuruMsg κ)) (dev : σ) :
    Reached call ⟨items, .none, dev⟩ := by
  induction items using List.reverseRecOn with
  | nil => exact .alloc dev
  | append_singleton items item ih => exact .addMsg item ih

/-! ### The transfer -/

/-- The whole blocks of a transfer. -/
def wholeBlocks (urb : BulkUrb) : List (List UInt8) :=
  blocks urb.transferBuffer (urb.transferBufferLength.toNat / GURU_DATA_SIZE)

/-- A callback that writes down that it is called, and what the device shows it. -/
def record (callback : κ) (curr : CurrMsg) (log : List (Call κ)) : List (Call κ) :=
  log ++ [⟨callback, curr.id, curr.dataSize, curr.data⟩]

theorem foldl_record (calls log : List (Call κ)) :
    calls.foldl (Call.exec record) log = log ++ calls := by
  induction calls generalizing log with
  | nil => exact (List.append_nil log).symm
  | cons c calls ih =>
    rw [List.foldl_cons, ih, Call.exec, record, List.append_assoc, List.singleton_append]

/-- The loop after `i` turns, before its test. -/
structure After (call : κ → CurrMsg → σ → σ) (urb : BulkUrb) (guru : GuruDevice κ σ) (i : ℕ)
    (s : LoopSt κ σ) : Prop where
  /-- The test let these turns go on. -/
  turns : run (turn call urb.transferBuffer urb.transferBufferLength) ⟨0,
    guru⟩ (List.replicate i ()) = some s
  /-- The position has not wrapped. -/
  pos : s.pos.toNat = GURU_DATA_SIZE * i
  /-- The difference does not underflow. -/
  rest : (urb.transferBufferLength - s.pos).toNat + s.pos.toNat = urb.transferBufferLength.toNat
  /-- The calls made are those of the first `i` blocks. -/
  calls : s.self = { guru with
    dev := ((blocks urb.transferBuffer i).flatMap (callsOf guru.msgList)).foldl (Call.exec call) guru.dev }

/-- **A transfer is split and dispatched.** -/
structure SplitAndDispatched (call : κ → CurrMsg → σ → σ) (urb : BulkUrb) (guru : GuruDevice κ σ) :
    Prop where
  /-- There is a turn for each whole block. -/
  turns : ∀ i ≤ urb.transferBufferLength.toNat / GURU_DATA_SIZE, ∃ s, After call urb guru i s
  /-- After the last one the loop stops, and the URB is submitted again. -/
  stops : ∃ s, After call urb guru (urb.transferBufferLength.toNat / GURU_DATA_SIZE) s ∧
    turn call urb.transferBuffer urb.transferBufferLength s () = none ∧
    canguruReadBulkCallback call urb guru = (s.self, true)
  /-- The blocks are whole. -/
  whole : ∀ block ∈ wholeBlocks urb, block.length = GURU_DATA_SIZE
  /-- They are consecutive, from the start of the buffer. -/
  consecutive : (wholeBlocks urb).flatten =
    urb.transferBuffer.take (GURU_DATA_SIZE * (urb.transferBufferLength.toNat / GURU_DATA_SIZE))
  /-- Callbacks that write down that they are called write down the calls of the blocks. -/
  recorded : (canguruReadBulkCallback record urb { guru with dev := [] }).1.dev =
    (wholeBlocks urb).flatMap (callsOf guru.msgList)
  /-- What is done to the device is what these calls do, and the fields are cleared. -/
  result : (canguruReadBulkCallback call urb guru).1 =
    { guru with
      curr := .none
      dev := ((wholeBlocks urb).flatMap (callsOf guru.msgList)).foldl (Call.exec call) guru.dev }

section Split

variable {self : GuruDevice κ σ} {urb : BulkUrb}

/-- The loop makes a turn for each whole block. -/
theorem exists_after (hcurr : self.curr = .none) {i : ℕ}
    (hi : i ≤ urb.transferBufferLength.toNat / GURU_DATA_SIZE) : ∃ s, After call urb self i s := by
  have hmul : GURU_DATA_SIZE * i ≤ urb.transferBufferLength.toNat :=
    (Nat.mul_le_mul_left _ hi).trans (Nat.mul_div_le _ _)
  obtain ⟨s, hrun, hpos, hself⟩ :=
    @run_turn _ _ call urb.transferBuffer urb.transferBufferLength i ⟨0, self⟩ (by simpa using hmul)
  have hpos : s.pos.toNat = GURU_DATA_SIZE * i := by simpa using hpos
  refine ⟨s, hrun, hpos, ?_, ?_⟩
  · rw [toNat_len_sub (by omega)]
    omega
  · rw [hself, ← foldl_processMsgList hcurr, ← take_messagesFrom hi]
    rfl

theorem After.stops {s : LoopSt κ σ}
    (h : After call urb self (urb.transferBufferLength.toNat / GURU_DATA_SIZE) s) :
    turn call urb.transferBuffer urb.transferBufferLength s () = none := by
  have hmod := Nat.mod_lt urb.transferBufferLength.toNat (show 0 < GURU_DATA_SIZE by decide)
  have hdiv := Nat.div_add_mod urb.transferBufferLength.toNat GURU_DATA_SIZE
  have hpos := h.pos
  exact turn_eq_none (by omega) (by omega)

/-- A successful transfer is the turns of its loop. -/
theorem After.readBulkCallback {s : LoopSt κ σ}
    (h : After call urb self (urb.transferBufferLength.toNat / GURU_DATA_SIZE) s)
    (hstatus : urb.status = 0) : canguruReadBulkCallback call urb self = (s.self, true) := by
  rw [canguruReadBulkCallback, if_pos hstatus, bulkLoop_of_run h.turns h.stops]

theorem readBulkCallback_calls (hcurr : self.curr = .none) (hstatus : urb.status = 0) :
    (canguruReadBulkCallback call urb self).1 =
      { self with
        curr := .none
        dev := ((wholeBlocks urb).flatMap (callsOf self.msgList)).foldl (Call.exec call) self.dev } := by
  obtain ⟨s, h⟩ := @exists_after _ _ call self urb hcurr _ le_rfl
  rw [h.readBulkCallback hstatus, h.calls, ← hcurr]
  rfl

end Split

/-- **A successful transfer**, of any length and to any handlers, is split into its whole
blocks, and each is shown to the handlers that match it. -/
theorem readBulkCallback_split {self : GuruDevice κ σ} (hreached : Reached call self)
    {urb : BulkUrb} (hstatus : urb.status = 0)
    (hlen : urb.transferBuffer.length = urb.transferBufferLength.toNat) :
    SplitAndDispatched call urb self := by
  have hcurr := hreached.curr_eq
  constructor
  case turns => exact fun i hi => exists_after hcurr hi
  case stops =>
    obtain ⟨s, h⟩ := @exists_after _ _ call self urb hcurr _ le_rfl
    exact ⟨s, h, h.stops, h.readBulkCallback hstatus⟩
  case whole =>
    intro block hblock
    exact length_of_mem_blocks (hlen ▸ Nat.mul_div_le _ _) hblock
  case consecutive => exact blocks_flatten _
  case recorded =>
    rw [@readBulkCallback_calls _ _ record { self with dev := [] } urb hcurr hstatus]
    exact foldl_record _ []
  case result => exact readBulkCallback_calls hcurr hstatus

/-- A transfer of two firmware versions and 44 bytes. -/
def twoVersions : BulkUrb where
  status := 0
  transferBufferLength := 300
  actualLength := 300
  transferBuffer :=
    ([0x58, 1, 1, 0, 3, 49] ++ List.replicate 122 0) ++
    ([0x58, 1, 1, 0, 2, 50] ++ List.replicate 166 0)

/-- It is split into two blocks. -/
theorem split_twoVersions :
    SplitAndDispatched record twoVersions ⟨[⟨1, 0, .variable, some ()⟩, ⟨1, 2, .static, some ()⟩],
      .none, []⟩ :=
  readBulkCallback_split (reached_of_handlers _ []) rfl (by decide +kernel)

end Transfer

end CanGuru
