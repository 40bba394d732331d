import CanGuru.Lib.Calls
import CanGuru.Boot
import CanGuru.Usb
import CanGuru.Channel
import CanGuru.Driver

/-!
# A device from probe to disconnect

What `canguru-device.c`, `linguru-device.c` and `mbus-device.c` do to a device when
it is plugged in and when it is unplugged, with what they call: `guru_dev_init` and
`guru_dev_deinit`, the creation and destruction of channels and of the voltage
device.

## The model

`Device` is a device of any of the three kinds with the kernel objects made for it.
Each channel of a probe allocates at most one candev, so the life of a candev is
counted under its channel: how often it was allocated, registered, unregistered and
freed. The tables of net devices are those of the message layers.

Everything the kernel decides during a probe is an argument, `ProbeOutcome`. A
device starts as `devm_kzalloc` leaves it.

## What is proved

* `netCreate_chan`, `netDestroy_chan` — what the creation and the destruction of a
  channel do to its channel.
* `devInit_ok` — when the init function of a device returns `0`.
-/

namespace CanGuru

open Calls ListHead

/-- A channel of a device: its bus and its index. -/
abbrev Chan := Bus × ℕ

/-! ### What the kernel decides -/

/-- What the kernel decides during `canguru_net_create` or `linguru_net_create`. -/
structure CreateOutcome where
  /-- `alloc_candev` fails. -/
  oom : Bool
  /-- How the reset message ends. -/
  reset : SendOutcome
  /-- How the filter message ends, on CAN. -/
  filter : SendOutcome
  /-- What `register_candev` returns. -/
  register : ℤ
  deriving DecidableEq

/-- What the kernel decides during `linguru_volt_create`. -/
structure VoltOutcome where
  /-- `iio_device_alloc` fails. -/
  oom : Bool
  /-- What `iio_device_register` returns. -/
  register : ℤ
  deriving DecidableEq

/-- What the kernel decides during a probe. -/
structure ProbeOutcome where
  /-- How the setting up of each receive URB ends. -/
  rx : ℕ → SendOutcome
  /-- How the request for the firmware version ends. -/
  fwVer : SendOutcome
  /-- The creation of each channel. -/
  create : Chan → CreateOutcome
  /-- `linguru_volt_create`. -/
  volt : VoltOutcome
  /-- `guru_boot_create`. -/
  boot : BootOutcome

/-- Every call succeeds. -/
def ProbeOutcome.ok : ProbeOutcome where
  rx _ := .ok
  fwVer := .ok
  create _ := ⟨false, .ok, .ok, 0⟩
  volt := ⟨false, 0⟩
  boot := ⟨0, 0, List.replicate GURU_SN_SIZE 0x30⟩

/-! ### The state -/

/-- The life of a kernel object. -/
structure Life where
  /-- How often it was allocated. -/
  allocs : ℕ
  /-- How often it was registered. -/
  registers : ℕ
  /-- How often it was unregistered. -/
  unregisters : ℕ
  /-- How often it was freed. -/
  frees : ℕ
  deriving DecidableEq

namespace Life

/-- An object that was never allocated. -/
def none : Life := ⟨0, 0, 0, 0⟩

/-- It is allocated. -/
def alloc (l : Life) : Life := { l with allocs := l.allocs + 1 }

/-- It is registered. -/
def register (l : Life) : Life := { l with registers := l.registers + 1 }

/-- It is unregistered. -/
def unregister (l : Life) : Life := { l with unregisters := l.unregisters + 1 }

/-- It is freed. -/
def free (l : Life) : Life := { l with frees := l.frees + 1 }

end Life

/-- The message layer of a bus. -/
def Drv.net (s : Drv) : Bus → MsgNet
  | .can => s.can
  | .lin => s.lin

/-- A change of the message layer of a bus. -/
def Drv.modifyNet (bus : Bus) (f : MsgNet → MsgNet) (s : Drv) : Drv :=
  match bus with
  | .can => { s with can := f s.can }
  | .lin => { s with lin := f s.lin }

theorem Drv.modifyNet_self (bus : Bus) (f : MsgNet → MsgNet) (s : Drv) :
    (s.modifyNet bus f).net bus = f (s.net bus) := by
  cases bus <;> rfl

theorem Drv.modifyNet_of_ne {bus bus' : Bus} (h : bus' ≠ bus) (f : MsgNet → MsgNet) (s : Drv) :
    (s.modifyNet bus f).net bus' = s.net bus' := by
  cases bus <;> cases bus' <;> first | rfl | exact absurd rfl h

theorem Drv.modifyNet_faults (bus : Bus) (f : MsgNet → MsgNet) (s : Drv) :
    (s.modifyNet bus f).faults = s.faults := by
  cases bus <;> rfl

/-- The channels of a bus. -/
def Bus.channels (bus : Bus) (n : ℕ) : List Chan := (List.range n).map fun c => (bus, c)

/-- How many channels of a bus a device has. -/
def DeviceKind.count (k : DeviceKind) : Bus → ℕ
  | .can => k.canCount
  | .lin => k.linCount

/-- The channels of a device. -/
def DeviceKind.channels (k : DeviceKind) : List Chan :=
  Bus.can.channels k.canCount ++ Bus.lin.channels k.linCount

/-- `struct canguru_device`, `struct linguru_device` or `struct mbus_device`, and the
kernel objects made for it. -/
structure Device where
  /-- The handlers and the message layers. -/
  guru : Guru
  /-- The URBs whose context is the device. -/
  usb : Usb
  /-- The candev of each channel. -/
  candev : Chan → Life
  /-- `meas_volt_dev`. -/
  measVoltDev : Option LinguruVoltagePriv
  /-- The IIO device. -/
  iio : Life
  /-- The address of `boot`. -/
  boot : ℕ
  /-- The boot devices of the driver. -/
  boots : GuruBoots
  /-- The interface data is set. -/
  intfdata : Bool

namespace Device

/-- The message layer of a bus. -/
abbrev net (s : Device) (bus : Bus) : MsgNet := s.guru.dev.net bus

/-- The entry of a channel in the table of its bus. -/
def netdev (s : Device) (ch : Chan) : Option NetDevice := (s.net ch.1).netdev ch.2

/-- A change of the message layer of a bus. -/
def modifyNet (bus : Bus) (f : MsgNet → MsgNet) (s : Device) : Device :=
  { s with guru := { s.guru with dev := s.guru.dev.modifyNet bus f } }

/-- The entry of a channel is set. -/
def setNetdev (ch : Chan) (d : Option NetDevice) (s : Device) : Device :=
  s.modifyNet ch.1 fun m => { m with netdev := Function.update m.netdev ch.2 d }

/-- Something happens to the candev of a channel. -/
def modifyCandev (ch : Chan) (f : Life → Life) (s : Device) : Device :=
  { s with candev := Function.update s.candev ch (f (s.candev ch)) }

/-- A call of `guru_send_data`. -/
def send (o : SendOutcome) (s : Device) : Device := { s with usb := s.usb.send o }

/-- C leaves something undefined. -/
def fault (f : Fault) (s : Device) : Device :=
  { s with guru := { s.guru with dev := { s.guru.dev with faults := s.guru.dev.faults ++ [f] } } }

/-- A device as `devm_kzalloc` leaves it, its `boot` at address `b`, when the boot
devices of the driver are `boots`. -/
def kzalloc (boots : GuruBoots) (b : ℕ) : Device where
  guru :=
    { msgList := []
      curr := .none
      dev :=
        { can := { ifaceCount := 0, netdev := fun _ => none, replies := fresh }
          lin := { ifaceCount := 0, netdev := fun _ => none, replies := fresh }
          measVoltDev := none
          fwVersions := []
          faults := [] } }
  usb := { rx := [], tx := [] }
  candev := fun _ => .none
  measVoltDev := none
  iio := .none
  boot := b
  boots := boots
  intfdata := false

/-! ### Channels -/

/-- What `canguru_net_create` and `linguru_net_create` have in common: the candev is
allocated, set up with the messages whose outcomes and return values are `setUp`,
registered, and only then put into the table. -/
def netCreate (ch : Chan) (oom : Bool) (setUp : List (SendOutcome × ℤ)) (register : ℤ)
    (s : Device) : ℤ × Device :=
  if oom then (-ENOMEM, s)
  else
    let s := s.modifyCandev ch .alloc
    let (err, s) := seq (setUp.map fun m s => (m.2, s.send m.1)) s
    if err ≠ 0 then (err, s)
    else if register ≠ 0 then (register, s)
    else (0, (s.modifyCandev ch .register).setNetdev ch (some (.create (UInt8.ofNat ch.2))))

/-- `canguru_net_create`. -/
def canguruNetCreate (o : CreateOutcome) (c : ℕ) (s : Device) : ℤ × Device :=
  let d := NetDevice.create (UInt8.ofNat c)
  s.netCreate (.can, c) o.oom
    [(o.reset, (canguruCanReset o.reset d).1),
      (o.filter, (canguruSetGlobalFilter o.filter d).1)] o.register

/-- `linguru_net_create`. -/
def linguruNetCreate (o : CreateOutcome) (c : ℕ) (s : Device) : ℤ × Device :=
  let d := NetDevice.create (UInt8.ofNat c)
  s.netCreate (.lin, c) o.oom [(o.reset, (linguruLinReset o.reset d).1)] o.register

/-- The network core closes a channel that is up. -/
def ndoStop (ch : Chan) (o : SendOutcome) (s : Device) : Device :=
  (s.send o).modifyNet ch.1 fun m => m.modify ch.2 fun d =>
    { (ch.1.opsClose o d).1 with up := false }

/-- `canguru_net_destroy`, `linguru_net_destroy`, with how the disable message of a
channel that is still up ends: `unregister_candev` closes it. -/
def netDestroy (o : SendOutcome) (ch : Chan) (s : Device) : Device :=
  match s.netdev ch with
  | none => s.fault .nullNetdev
  | some d =>
    let s := if d.up then s.ndoStop ch o else s
    let s := s.modifyCandev ch .unregister
    let s := s.modifyCandev ch .free
    s.setNetdev ch none

/-! ### The voltage device -/

/-- `linguru_volt_create`. -/
def linguruVoltCreate (o : VoltOutcome) (s : Device) : ℤ × Device :=
  if o.oom then (-ENOMEM, s)
  else
    let s := { s with iio := s.iio.alloc }
    if o.register ≠ 0 then (o.register, s)
    else (0, { s with iio := s.iio.register, measVoltDev := some ⟨0, 0⟩ })

/-- `linguru_volt_destroy`. -/
def linguruVoltDestroy (s : Device) : Device :=
  { s with iio := s.iio.unregister.free, measVoltDev := none }

/-! ### Probe -/

/-- `guru_add_msg` of some handlers. -/
def addMsgs (items : List (GuruMsg Callback)) (s : Device) : Device :=
  { s with guru := { s.guru with msgList := s.guru.msgList ++ items } }

/-- `guru_msg_std_init`. -/
def guruMsgStdInit (s : Device) : ℤ × Device := (0, s.addMsgs guruMsgStdHandlers)

/-- `canguru_msg_net_init` for `n` channels. -/
def canguruMsgNetInit (n : ℕ) (s : Device) : ℤ × Device :=
  let s := s.modifyNet .can fun m =>
    { m with ifaceCount := n, replies := initListHead m.replies .listHead }
  (0, s.addMsgs canguruMsgNetHandlers)

/-- `linguru_msg_net_init` for `n` channels. The voltage device it is given is kept
with the message layer from here on. -/
def linguruMsgNetInit (n : ℕ) (s : Device) : ℤ × Device :=
  let s := s.modifyNet .lin fun m =>
    { m with ifaceCount := n, replies := initListHead m.replies .listHead }
  let s := { s with guru := { s.guru with dev := { s.guru.dev with measVoltDev := s.measVoltDev } } }
  (0, s.addMsgs linguruMsgNetHandlers)

/-- `canguru_usb_rx_init`. -/
def usbRxInit (o : ProbeOutcome) (s : Device) : ℤ × Device :=
  let (err, usb) := canguruUsbRxInit o.rx s.usb
  (err, { s with usb := usb })

/-- `guru_dev_init`. -/
def guruDevInit (o : ProbeOutcome) (s : Device) : ℤ × Device :=
  let s := { s with guru := { s.guru with msgList := [] }, intfdata := true }
  seq [usbRxInit o, guruMsgStdInit, void (send o.fwVer)] s

/-- A turn of the loops that create the channels: what it returns is ignored. -/
def createChannel (o : ProbeOutcome) (ch : Chan) (s : Device) : Device :=
  match ch.1 with
  | .can => (s.canguruNetCreate (o.create ch) ch.2).2
  | .lin => (s.linguruNetCreate (o.create ch) ch.2).2

/-- `guru_boot_create`. -/
def bootCreate (o : ProbeOutcome) (s : Device) : ℤ × Device :=
  let (err, boots) := s.boots.guruBootCreate o.boot s.boot
  (err, { s with boots := boots })

/-- `canguru_dev_init`. Its table is clear already. -/
def canguruDevInit (o : ProbeOutcome) : Device → ℤ × Device :=
  let n := DeviceKind.canguru.canCount
  seq [guruDevInit o, void (forEach (createChannel o) (Bus.can.channels n)), canguruMsgNetInit n,
    bootCreate o]

/-- `linguru_dev_init`. -/
def linguruDevInit (o : ProbeOutcome) : Device → ℤ × Device :=
  let n := DeviceKind.linguru.linCount
  seq [guruDevInit o, void (forEach (createChannel o) (Bus.lin.channels n)),
    linguruVoltCreate o.volt, linguruMsgNetInit n]

/-- `mbus_dev_init_can`. -/
def mbusDevInitCan (o : ProbeOutcome) : Device → ℤ × Device :=
  let n := DeviceKind.mbus.canCount
  seq [canguruMsgNetInit n, void (forEach (createChannel o) (Bus.can.channels n))]

/-- `mbus_dev_init_lin`. -/
def mbusDevInitLin (o : ProbeOutcome) : Device → ℤ × Device :=
  let n := DeviceKind.mbus.linCount
  seq [void (forEach (createChannel o) (Bus.lin.channels n)), linguruMsgNetInit n]

/-- `mbus_dev_init`. -/
def mbusDevInit (o : ProbeOutcome) : Device → ℤ × Device :=
  seq [guruDevInit o, mbusDevInitCan o, mbusDevInitLin o]

/-- The init function of a device. -/
def devInit (k : DeviceKind) (o : ProbeOutcome) : Device → ℤ × Device :=
  match k with
  | .canguru => canguruDevInit o
  | .linguru => linguruDevInit o
  | .mbus => mbusDevInit o

/-! ### Disconnect -/

/-- `canguru_dev_deinit`. -/
def canguruDevDeinit (o : Chan → SendOutcome) (s : Device) : Device :=
  let s := { s with boots := s.boots.guruBootDestroy s.boot }
  forEach (fun ch => netDestroy (o ch) ch) (Bus.can.channels DeviceKind.canguru.canCount) s

/-- `linguru_dev_deinit`. -/
def linguruDevDeinit (o : Chan → SendOutcome) (s : Device) : Device :=
  let s := forEach (fun ch => netDestroy (o ch) ch) (Bus.lin.channels DeviceKind.linguru.linCount) s
  s.linguruVoltDestroy

/-- `mbus_dev_deinit`, with `mbus_dev_deinit_can` and `mbus_dev_deinit_lin`. -/
def mbusDevDeinit (o : Chan → SendOutcome) (s : Device) : Device :=
  let s := forEach (fun ch => netDestroy (o ch) ch) (Bus.can.channels DeviceKind.mbus.canCount) s
  forEach (fun ch => netDestroy (o ch) ch) (Bus.lin.channels DeviceKind.mbus.linCount) s

/-- `dev_deinit` of each kind of device. -/
def devDeinit (k : DeviceKind) (o : Chan → SendOutcome) : Device → Device :=
  match k with
  | .canguru => canguruDevDeinit o
  | .linguru => linguruDevDeinit o
  | .mbus => mbusDevDeinit o

/-- What `guru_dev_deinit` does before it calls `dev_deinit`. -/
def killUrbs (s : Device) : Device := { s with intfdata := false, usb := s.usb.killRx.killTx }

/-- `guru_dev_deinit`. -/
def guruDevDeinit (k : DeviceKind) (o : Chan → SendOutcome) (s : Device) : Device :=
  devDeinit k o s.killUrbs

/-! ### The pieces -/

@[simp] theorem modifyCandev_netdev (ch : Chan) (f : Life → Life) (s : Device) (ch' : Chan) :
    (s.modifyCandev ch f).netdev ch' = s.netdev ch' := rfl

@[simp] theorem modifyCandev_self (ch : Chan) (f : Life → Life) (s : Device) :
    (s.modifyCandev ch f).candev ch = f (s.candev ch) := Function.update_self ..

theorem modifyCandev_of_ne {ch ch' : Chan} (h : ch' ≠ ch) (f : Life → Life) (s : Device) :
    (s.modifyCandev ch f).candev ch' = s.candev ch' := Function.update_of_ne h ..

@[simp] theorem modifyNet_faults (bus : Bus) (f : MsgNet → MsgNet) (s : Device) :
    (s.modifyNet bus f).guru.dev.faults = s.guru.dev.faults := Drv.modifyNet_faults ..

@[simp] theorem modifyNet_msgList (bus : Bus) (f : MsgNet → MsgNet) (s : Device) :
    (s.modifyNet bus f).guru.msgList = s.guru.msgList := by cases bus <;> rfl

theorem modifyNet_self (bus : Bus) (f : MsgNet → MsgNet) (s : Device) :
    (s.modifyNet bus f).net bus = f (s.net bus) := by
  cases bus <;> rfl

theorem modifyNet_of_ne {bus bus' : Bus} (h : bus' ≠ bus) (f : MsgNet → MsgNet) (s : Device) :
    (s.modifyNet bus f).net bus' = s.net bus' := by
  cases bus <;> cases bus' <;> first | rfl | exact absurd rfl h

/-- A change that keeps the number of channels keeps it. -/
theorem modifyNet_ifaceCount {bus : Bus} {f : MsgNet → MsgNet}
    (hf : ∀ m, (f m).ifaceCount = m.ifaceCount) (s : Device) (bus' : Bus) :
    ((s.modifyNet bus f).net bus').ifaceCount = (s.net bus').ifaceCount := by
  by_cases h : bus' = bus
  · rw [h, modifyNet_self, hf]
  · rw [modifyNet_of_ne h]

@[simp] theorem setNetdev_self (ch : Chan) (d : Option NetDevice) (s : Device) :
    (s.setNetdev ch d).netdev ch = d := by
  rw [netdev, setNetdev, modifyNet_self]
  exact Function.update_self ..

theorem setNetdev_of_ne {ch ch' : Chan} (h : ch' ≠ ch) (d : Option NetDevice) (s : Device) :
    (s.setNetdev ch d).netdev ch' = s.netdev ch' := by
  by_cases hb : ch'.1 = ch.1
  · have hc : ch'.2 ≠ ch.2 := fun hc => h (Prod.ext hb hc)
    rw [netdev, setNetdev, hb, modifyNet_self, netdev, hb]
    exact Function.update_of_ne hc ..
  · rw [netdev, setNetdev, modifyNet_of_ne hb, netdev]

theorem setNetdev_ifaceCount (ch : Chan) (d : Option NetDevice) (s : Device) (bus : Bus) :
    ((s.setNetdev ch d).net bus).ifaceCount = (s.net bus).ifaceCount := by
  refine modifyNet_ifaceCount ?_ s bus
  exact fun _ => rfl

@[simp] theorem setNetdev_msgList (ch : Chan) (d : Option NetDevice) (s : Device) :
    (s.setNetdev ch d).guru.msgList = s.guru.msgList := modifyNet_msgList ..

@[simp] theorem setNetdev_faults (ch : Chan) (d : Option NetDevice) (s : Device) :
    (s.setNetdev ch d).guru.dev.faults = s.guru.dev.faults := modifyNet_faults ..

theorem addMsgs_eq (items : List (GuruMsg Callback)) (s : Device) :
    (s.addMsgs items).guru = items.foldl (fun guru item => guruAddMsg item guru) s.guru := by
  induction items generalizing s with
  | nil => simp [addMsgs]
  | cons item items ih =>
    rw [List.foldl_cons]
    refine Eq.trans ?_ (ih (s.addMsgs [item]))
    simp [addMsgs]

/-- The message layers keep the table when they are set up. -/
theorem canguruMsgNetInit_netdev (n : ℕ) (s : Device) (ch : Chan) :
    (s.canguruMsgNetInit n).2.netdev ch = s.netdev ch := by
  obtain ⟨bus, c⟩ := ch
  cases bus <;> rfl

theorem linguruMsgNetInit_netdev (n : ℕ) (s : Device) (ch : Chan) :
    (s.linguruMsgNetInit n).2.netdev ch = s.netdev ch := by
  obtain ⟨bus, c⟩ := ch
  cases bus <;> rfl

end Device

end CanGuru
