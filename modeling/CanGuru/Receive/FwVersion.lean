import CanGuru.Lib.Memory
import CanGuru.Driver

/-!
# The copy of a firmware version

`msg_std_fw_version` copies the data of an answer into a cleared buffer of 32 bytes on its
stack and logs the string in it. The size of the copy is the `data_count` of the message,
and nothing looks at it: the handler is registered as `GURU_SIZE_VARIABLE`, so the dispatch
passes every size to it, and the handler compares it neither with the 32 bytes of its
buffer nor with the 123 data bytes of a message.

## The model

`msgStdFwVersion` keeps what is left in the buffer and notes a copy that leaves it. Here the
copy itself is run, byte by byte, from the memory the pointer leads to (the data bytes and
`behind` them whatever is there) to the memory of the stack (the buffer and whatever is
there in `stack`). `dispatch` is the dispatch of a message that keeps the copies it makes.

## What is proved

* `dispatch_fst`, `msgStdFwVersion_eq` — it is the dispatch of the driver, and the copies
  are what the driver logs and notes.
* `copiedSafely_iff` — a firmware version is copied safely exactly when it has fewer than 32
  bytes, or 32 with a zero among them.
-/

namespace CanGuru

namespace FwVersion

open Memory

/-! ### The copy -/

/-- The memory behind the pointer `guru_get_msg_data` returns. -/
def msgMem (behind : ℕ → UInt8) (msg : CurrMsg) (i : ℕ) : UInt8 :=
  (msg.data.getD []).getD i (behind i)

/-- The memory from `fw_ver_buf` on, before the copy. -/
def fwVerBuf (stack : ℕ → UInt8) (i : ℕ) : UInt8 := if i < MSG_STR_SIZE_MAX then 0 else stack i

/-- The copy `msg_std_fw_version` makes. -/
def fwVersionCopy (behind stack : ℕ → UInt8) (msg : CurrMsg) : Copy UInt8 :=
  memcpy (msgMem behind msg) (fwVerBuf stack) msg.dataSize.toNat

/-- A callback, with the copies of firmware versions so far. -/
def observe (alloc : Bool) (behind stack : ℕ → UInt8) (callback : Callback) (msg : CurrMsg)
    (s : Drv × List (Copy UInt8)) : Drv × List (Copy UInt8) :=
  (runCallback alloc callback msg s.1,
    if callback = .msgStdFwVersion then s.2 ++ [fwVersionCopy behind stack msg] else s.2)

/-- The dispatch of a message, with the copies of firmware versions it makes. -/
def dispatch (alloc : Bool) (behind stack : ℕ → UInt8) (self : Guru) (msg : GuruData) :
    Drv × List (Copy UInt8) :=
  (canguruProcessMsgList (observe alloc behind stack) ⟨self.msgList, self.curr, (self.dev, [])⟩ msg).dev

/-- **A firmware version is copied safely.** -/
structure CopiedSafely (msg : GuruData) (c : Copy UInt8) : Prop where
  /-- It is read out of the data of the message. -/
  reads : ∀ i ∈ c.reads, i < GURU_MAX_DATA_SIZE
  /-- It is written into the buffer. -/
  writes : ∀ i ∈ c.writes, i < MSG_STR_SIZE_MAX
  /-- A zero within the buffer ends the string, and the string is made of bytes the message
  declares. -/
  string : ∃ len ≤ msg.dataCount.toNat, IsString 0 c.mem MSG_STR_SIZE_MAX len ∧
    ∀ i < len, c.mem i = msg.data.getD i 0

/-- Every firmware version that the dispatch of a message copies is copied safely. -/
def CopiesSafely (alloc : Bool) (behind stack : ℕ → UInt8) (self : Guru) (msg : GuruData) : Prop :=
  ∀ c ∈ (dispatch alloc behind stack self msg).2, CopiedSafely msg c

variable {alloc : Bool} {behind stack : ℕ → UInt8} {self : Guru} {msg : GuruData}

/-! ### The dispatch -/

theorem foldl_observe (m : CurrMsg) (callbacks : List Callback) (s : Drv × List (Copy UInt8)) :
    callbacks.foldl (fun s callback => observe alloc behind stack callback m s) s =
      (callbacks.foldl (fun s callback => runCallback alloc callback m s) s.1,
        s.2 ++ (callbacks.filter (· = .msgStdFwVersion)).map fun _ => fwVersionCopy behind stack m) := by
  induction callbacks generalizing s with
  | nil => simp
  | cons callback callbacks ih =>
    rw [List.foldl_cons, ih, List.foldl_cons]
    by_cases h : callback = .msgStdFwVersion
    · simp [observe, h]
    · simp [observe, h]

/-- **The dispatch that keeps the copies** is the dispatch of the driver. -/
theorem dispatch_fst :
    (dispatch alloc behind stack self msg).1 =
    (canguruProcessMsgList (runCallback alloc) self msg).dev := by
  rw [dispatch, processMsgList_eq, processMsgList_eq, foldl_observe]

theorem dispatch_snd :
    (dispatch alloc behind stack self msg).2 =
      ((handlersOf self.msgList msg).filter (· = .msgStdFwVersion)).map
        fun _ => fwVersionCopy behind stack (.ofMsg msg) := by
  rw [dispatch, processMsgList_eq, foldl_observe]
  exact List.nil_append _

theorem registered (k : DeviceKind) : guruMsgStdHandlers ⊆ k.ready.msgList := by
  cases k <;> decide

/-- With the handler registered, a firmware version is copied. -/
theorem mem_dispatch_snd (hreg : guruMsgStdHandlers ⊆ self.msgList)
    (hid : msg.id = GURU_MSG_GET_VERSION) {c : Copy UInt8} :
    c ∈ (dispatch alloc behind stack self msg).2 ↔ c = fwVersionCopy behind stack (.ofMsg msg) := by
  have hitem := hreg (List.mem_singleton.mpr rfl)
  have hrun : Callback.msgStdFwVersion ∈ handlersOf self.msgList msg := by
    refine List.mem_filterMap.mpr ⟨_, List.mem_filter.mpr ⟨hitem, ?_⟩, rfl⟩
    exact decide_eq_true ⟨hid.symm, .inr rfl⟩
  rw [dispatch_snd, List.mem_map]
  constructor
  · rintro ⟨_, -, rfl⟩
    rfl
  · rintro rfl
    exact ⟨_, List.mem_filter.mpr ⟨hrun, rfl⟩, rfl⟩

/-! ### When the copy is safe -/

section Safe

variable (hd : msg.data.length = GURU_MAX_DATA_SIZE)
include hd

/-- The memory the pointer leads to starts with the data of the message. -/
theorem msgMem_eq {i : ℕ} (hi : i < GURU_MAX_DATA_SIZE) :
    msgMem behind (.ofMsg msg) i = msg.data.getD i 0 := by
  have hlen : i < msg.data.length := hd ▸ hi
  simp [msgMem, CurrMsg.ofMsg, hlen]

/-- A zero among the first bytes of the data. -/
theorem exists_msgMem_eq_zero : (∃ i < MSG_STR_SIZE_MAX, msgMem behind (.ofMsg msg) i = 0) ↔
    0 ∈ msg.data.take MSG_STR_SIZE_MAX := by
  have hroom : MSG_STR_SIZE_MAX ≤ GURU_MAX_DATA_SIZE := by decide
  rw [List.mem_take_iff_getElem]
  constructor
  · rintro ⟨i, hi, hz⟩
    have hlen : i < msg.data.length := hd ▸ lt_of_lt_of_le hi hroom
    refine ⟨i, lt_min hi hlen, ?_⟩
    rwa [msgMem_eq hd (lt_of_lt_of_le hi hroom), List.getD_eq_getElem _ _ hlen] at hz
  · rintro ⟨i, hi, hz⟩
    obtain ⟨hi, hlen⟩ := lt_min_iff.mp hi
    refine ⟨i, hi, ?_⟩
    rw [msgMem_eq hd (lt_of_lt_of_le hi hroom), List.getD_eq_getElem _ _ hlen, hz]

/-- The copy is safe exactly when it stays in the buffer and leaves a string there. -/
theorem copiedSafely_iff_isString :
    CopiedSafely msg (fwVersionCopy behind stack (.ofMsg msg)) ↔
      msg.dataCount.toNat ≤ MSG_STR_SIZE_MAX ∧
        ∃ len ≤ msg.dataCount.toNat,
          IsString 0 (fwVersionCopy behind stack (.ofMsg msg)).mem MSG_STR_SIZE_MAX len := by
  have hroom : MSG_STR_SIZE_MAX ≤ GURU_MAX_DATA_SIZE := by decide
  have hsize : (CurrMsg.ofMsg msg).dataSize.toNat = msg.dataCount.toNat := rfl
  constructor
  · rintro ⟨-, hwrites, len, hle, hs, -⟩
    exact ⟨forall_writes_lt_iff.mp hwrites, len, hle, hs⟩
  · rintro ⟨hn, len, hle, hs⟩
    refine ⟨forall_reads_lt_iff.mpr (hn.trans hroom), forall_writes_lt_iff.mpr hn, len, hle, hs,
      fun i hi => ?_⟩
    have hlt : i < msg.dataCount.toNat := lt_of_lt_of_le hi hle
    rw [fwVersionCopy, memcpy_mem, hsize, if_pos hlt]
    exact msgMem_eq hd (lt_of_lt_of_le hlt (hn.trans hroom))

theorem copiedSafely_fwVersionCopy_iff :
    CopiedSafely msg (fwVersionCopy behind stack (.ofMsg msg)) ↔
      msg.dataCount.toNat < MSG_STR_SIZE_MAX ∨
        msg.dataCount.toNat = MSG_STR_SIZE_MAX ∧ 0 ∈ msg.data.take MSG_STR_SIZE_MAX := by
  have hclear : ∀ i < MSG_STR_SIZE_MAX, fwVerBuf stack i = 0 := fun i hi => if_pos hi
  rw [copiedSafely_iff_isString hd, ← @exists_msgMem_eq_zero behind msg hd]
  constructor
  · rintro ⟨hn, hstring⟩
    rcases (exists_isString_memcpy_iff hclear hn).mp hstring with hlt | hzero
    · exact .inl hlt
    · rcases Nat.lt_or_eq_of_le hn with hlt | heq
      · exact .inl hlt
      · exact .inr ⟨heq, heq ▸ hzero⟩
  · rintro (hlt | ⟨heq, hzero⟩)
    · exact ⟨hlt.le, (exists_isString_memcpy_iff hclear hlt.le).mpr (.inl hlt)⟩
    · exact ⟨heq.le, (exists_isString_memcpy_iff hclear heq.le).mpr (.inr (heq ▸ hzero))⟩

theorem map_fwVersionCopy_mem :
    (List.range MSG_STR_SIZE_MAX).map (fwVersionCopy behind stack (.ofMsg msg)).mem =
      msg.data.take (min msg.dataCount.toNat MSG_STR_SIZE_MAX) ++
        List.replicate (MSG_STR_SIZE_MAX - msg.dataCount.toNat) 0 := by
  have hroom : MSG_STR_SIZE_MAX ≤ GURU_MAX_DATA_SIZE := by decide
  have hsize : (CurrMsg.ofMsg msg).dataSize.toNat = msg.dataCount.toNat := rfl
  have hcount : (msg.data.take (min msg.dataCount.toNat MSG_STR_SIZE_MAX)).length =
      min msg.dataCount.toNat MSG_STR_SIZE_MAX := by
    rw [List.length_take]
    omega
  refine List.ext_getElem ?_ fun i hi hi' => ?_
  · rw [List.length_map, List.length_range, List.length_append, hcount, List.length_replicate]
    omega
  · rw [List.length_map, List.length_range] at hi
    rw [List.getElem_map, List.getElem_range, fwVersionCopy, memcpy_mem, hsize]
    by_cases hlt : i < msg.dataCount.toNat
    · have hlen : i < msg.data.length := hd ▸ lt_of_lt_of_le hi hroom
      rw [if_pos hlt, msgMem_eq hd (lt_of_lt_of_le hi hroom), List.getD_eq_getElem _ _ hlen,
        List.getElem_append_left (by omega), List.getElem_take]
    · rw [if_neg hlt, List.getElem_append_right (by omega), List.getElem_replicate]
      exact if_pos hi

/-- **What the driver logs** is the buffer after the copy, and what it notes is a copy that
leaves the buffer. -/
theorem msgStdFwVersion_eq (s : Drv) :
    msgStdFwVersion (.ofMsg msg) s =
      { s with
        fwVersions := s.fwVersions ++
          [(List.range MSG_STR_SIZE_MAX).map (fwVersionCopy behind stack (.ofMsg msg)).mem]
        faults := s.faults ++
          if ∃ i ∈ (fwVersionCopy behind stack (.ofMsg msg)).writes, MSG_STR_SIZE_MAX ≤ i then
            [.outOfBounds msg.dataCount.toNat MSG_STR_SIZE_MAX]
          else [] } := by
  have hleaves : (∃ i ∈ (fwVersionCopy behind stack (.ofMsg msg)).writes, MSG_STR_SIZE_MAX ≤ i) ↔
      MSG_STR_SIZE_MAX < msg.dataCount.toNat := by
    simp only [fwVersionCopy, memcpy_writes, List.mem_range]
    constructor
    · rintro ⟨i, hi, hle⟩
      exact lt_of_le_of_lt hle hi
    · exact fun hlt => ⟨MSG_STR_SIZE_MAX, hlt, le_rfl⟩
  rw [map_fwVersionCopy_mem hd]
  simp only [hleaves]
  rfl

end Safe

/-- **A firmware version is copied safely** exactly when it has fewer bytes than the buffer,
or as many and a zero among them. -/
theorem copiedSafely_iff (alloc : Bool) (behind stack : ℕ → UInt8) {self : Guru}
    (hreg : guruMsgStdHandlers ⊆ self.msgList) {msg : GuruData}
    (hid : msg.id = GURU_MSG_GET_VERSION) (hd : msg.data.length = GURU_MAX_DATA_SIZE) :
    CopiesSafely alloc behind stack self msg ↔
      msg.dataCount.toNat < MSG_STR_SIZE_MAX ∨
        msg.dataCount.toNat = MSG_STR_SIZE_MAX ∧ 0 ∈ msg.data.take MSG_STR_SIZE_MAX := by
  simp only [CopiesSafely, mem_dispatch_snd hreg hid, forall_eq]
  exact copiedSafely_fwVersionCopy_iff hd

/-- An answer that declares `n` bytes, without a zero. -/
def versionAnswer (n : UInt8) : GuruData where
  preamble := GURU_CMD_PREAMBLE
  ctrl := 1
  id := GURU_MSG_GET_VERSION
  dataCount := n
  data := List.replicate GURU_MAX_DATA_SIZE 65

/-- A version of three bytes is copied safely. -/
theorem copiedSafely_three :
    CopiesSafely true (fun _ => 0) (fun _ => 0) DeviceKind.linguru.ready (versionAnswer 3) :=
  (copiedSafely_iff true _ _ (registered .linguru) rfl List.length_replicate).mpr (.inl (by decide))

/-- The copies such an answer makes, with zeros behind the message and on the stack. -/
def versionCopies (n : UInt8) : List (Copy UInt8) :=
  (dispatch true (fun _ => 0) (fun _ => 0) DeviceKind.linguru.ready (versionAnswer n)).2

/-- A version that fills the buffer is not ended by a zero, one of 33 bytes is written past
the buffer, and one of 124 bytes is read past the data of the message too. -/
theorem not_copiedSafely :
    ¬ CopiesSafely true (fun _ => 0) (fun _ => 0) DeviceKind.linguru.ready (versionAnswer 32) ∧
      (∃ c ∈ versionCopies 33, MSG_STR_SIZE_MAX ∈ c.writes) ∧
      ∃ c ∈ versionCopies 124, GURU_MAX_DATA_SIZE ∈ c.reads := by
  have hcopy : ∀ n, fwVersionCopy (fun _ => 0) (fun _ => 0) (.ofMsg (versionAnswer n)) ∈
      versionCopies n :=
    fun n => (mem_dispatch_snd (registered .linguru) rfl).mpr rfl
  refine ⟨fun h => ?_, ⟨_, hcopy 33, ?_⟩, ⟨_, hcopy 124, ?_⟩⟩
  · have hfits := (copiedSafely_fwVersionCopy_iff List.length_replicate).mp (h _ (hcopy 32))
    exact absurd hfits (by decide)
  · rw [fwVersionCopy, memcpy_writes]
    exact List.mem_range.mpr (by decide)
  · rw [fwVersionCopy, memcpy_reads]
    exact List.mem_range.mpr (by decide)

end FwVersion

end CanGuru
