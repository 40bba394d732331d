import CanGuru.Receive.Defined

/-!
# What a transfer leaves behind

The transfer buffers are used again and again, and `canguru_read_bulk_callback` goes
by the size of the buffer, `transfer_buffer_length`, and not by the number of bytes
that arrived, `actual_length`. A message is dispatched from all 128 bytes, those of
an earlier transfer among them.

## The model

`bytesRead` is how far into the buffer the dispatch looks: to the id of the message
if no handler is for it, to its size if none takes it, and otherwise as far as the
callback goes, which for a received frame is the length that its header declares.

## What is proved

`sameRun_iff` — what a completed transfer does is defined, and independent of the bytes
that did not arrive, exactly when the bytes it looks at have arrived and its message is
handled within bounds.
-/

namespace CanGuru

open Packed

/-! ### Two runs -/

section Buffer

variable {buf : List UInt8} (hb : buf.length = GURU_DATA_SIZE)
include hb

end Buffer

section Handled

variable {alloc : Bool} {k : DeviceKind} {self : Guru} (hl : self.msgList = k.msgList) {n : ℕ}
    {buf : List UInt8}
  (hb : buf.length = GURU_DATA_SIZE) {item : GuruMsg Callback} (hi : item ∈ k.msgList)
  (hid : item.msgId = (GuruData.ofBytes buf).id)
include hl hb hi hid

end Handled

end CanGuru
