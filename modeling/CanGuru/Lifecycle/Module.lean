import CanGuru.Lifecycle.Freed
import CanGuru.Boot.Minors

/-!
# The module

`guru-drv.c` from the insertion of the module to its removal, with any number of devices:
`guru_drv_init`, `guru_drv_exit`, the probe that picks the kind of a device by its product
string, and between them every step of every device.

## The model

The kernel has the class, the region of device numbers, the boot devices and the list of the
bound devices; the class outlives the module. A device is known by its address, which is that
of its `boot` too, and no two bound devices have the same one.

A step is the insertion of the module, the probe of one device, a step of one bound device
(`Lifecycle.step`, which ends with the two halves of `guru_dev_deinit`), or one of the two
halves of `guru_drv_exit`: `usb_deregister` returns when the last device is unbound. Everything
the kernel decides is an argument. The devices share nothing but the boot devices.

`class_create` fails for want of memory or if there is a class of that name. A device is freed
when its probe has failed or its disconnect has returned. If it is at work then, or a handler
goes out of bounds, C says nothing of what comes after; the model notes that.

## What is proved

* `sound_iff` — **the devices are independent, and the boot devices are accounted for**, in every
  state of a run: every bound device is one that its own probe and its own steps lead to, the
  table and the nodes are those of the bound CAN Gurus, and nothing of it is left when the
  module is out. It is so exactly if every step of a device is within bounds, and every
  probe that fails is unwound.
* `clean_iff` — **the class** is never left behind and never destroyed twice exactly if no
  insertion fails after it has made it, and once it is left behind every insertion fails.
-/

namespace CanGuru

open Machine

namespace Module

/-! ### The product strings -/

/-- `CANGURU_PRODUCT_NAME`. -/
def CANGURU_PRODUCT_NAME : String := "CAN Guru Lite"

/-- `LINGURU_PRUDUCT_NAME`. -/
def LINGURU_PRUDUCT_NAME : String := "LIN Guru"

/-- `BUSKIT_MUTLIBUS_PRODUCT_NAME`. -/
def BUSKIT_MUTLIBUS_PRODUCT_NAME : String := "BusKit MultiBus"

/-- What comes from outside during a probe. -/
structure Plug where
  /-- What `usb_string` returns, or the string it writes. -/
  usbString : Except ℤ String
  /-- `devm_kzalloc` fails. -/
  oom : Bool
  /-- The init function of the device. -/
  init : ProbeOutcome

/-- The `strcmp` calls of `guru_usb_device_alloc`. -/
def kindOf (buf : String) : Option DeviceKind :=
  if buf = CANGURU_PRODUCT_NAME then some .canguru
  else if buf = LINGURU_PRUDUCT_NAME then some .linguru
  else if buf = BUSKIT_MUTLIBUS_PRODUCT_NAME then some .mbus
  else none

/-- The kind of the device whose init function is called, if one is. -/
def Plug.kind (p : Plug) : Option DeviceKind :=
  match p.usbString with
  | .error _ => none
  | .ok buf => if buf.utf8ByteSize = 0 ∨ p.oom = true then none else kindOf buf

/-- `guru_usb_device_alloc`, with the device at address `b`. -/
def guruUsbDeviceAlloc (p : Plug) (b : ℕ) (boots : GuruBoots) : ℤ × Option (DeviceKind × Device) :=
  match p.usbString with
  | .error _ => (-ENODEV, none)
  | .ok buf =>
    if buf.utf8ByteSize = 0 then (-ENODEV, none)
    else
      match kindOf buf with
      | none => (-ENODEV, none)
      | some k =>
        if p.oom then (-ENOMEM, none)
        else
          let (err, dev) := (Device.kzalloc boots b).devInit k p.init
          (err, some (k, dev))

/-! ### The state -/

/-- Where the module is. -/
inductive Phase where
  /-- It is not loaded. -/
  | out
  /-- It is loaded. -/
  | live
  /-- `guru_drv_exit` is in `usb_deregister`. -/
  | leaving
  deriving DecidableEq

/-- The module, and what the kernel has of it. -/
structure St where
  /-- The module. -/
  phase : Phase
  /-- There is a class of the name `GURU_MODULE_NAME`. -/
  klass : Bool
  /-- How often it was destroyed though there was none. -/
  dangling : ℕ
  /-- The region of device numbers is allocated. -/
  region : Bool
  /-- The boot devices. -/
  boots : GuruBoots
  /-- The devices that are bound, by their addresses. -/
  devices : List ℕ
  /-- What is at an address. -/
  bound : ℕ → Option (DeviceKind × Device)
  /-- A handler went out of bounds, or a device was freed that was at work. -/
  undefined : Bool

/-- What the kernel decides during `guru_drv_init`. -/
structure LoadOutcome where
  /-- The error of `class_create` before it looks at the name, `0` if there is none. -/
  classCreate : ℤ
  /-- What `alloc_chrdev_region` returns. -/
  allocRegion : ℤ
  /-- What `usb_register` returns. -/
  usbRegister : ℤ

/-- The steps. -/
inductive Event where
  /-- `guru_drv_init`. -/
  | load (o : LoadOutcome)
  /-- `guru_usb_probe`, of a device at address `b`. -/
  | probe (b : ℕ) (p : Plug)
  /-- A step of the device at address `b`. -/
  | dev (b : ℕ) (e : Lifecycle.Event)
  /-- `guru_drv_exit` begins with `usb_deregister`. -/
  | deregister
  /-- It goes on when the last device is unbound. -/
  | exit

namespace St

/-! ### Insertion and removal -/

/-- `class_create`. -/
def classCreate (err : ℤ) (s : St) : ℤ × St :=
  if err ≠ 0 then (err, s) else if s.klass then (-EEXIST, s) else (0, { s with klass := true })

/-- `class_unregister`, which is what `class_destroy` does. -/
def classDestroy (s : St) : St :=
  if s.klass then { s with klass := false } else { s with dangling := s.dangling + 1 }

/-- `guru_boot_init`. -/
def guruBootInit (err : ℤ) (s : St) : ℤ × St :=
  if err ≠ 0 then (err, s) else (0, { s with region := true })

/-- `guru_boot_exit`. -/
def guruBootExit (s : St) : St := { s with region := false }

/-- The static data of a module that is inserted. -/
def statics (s : St) : St := { s with boots := { s.boots with table := fun _ => none } }

/-- `guru_drv_init`. The code of `err_boot` goes on into that of `err_usb`. -/
def guruDrvInit (o : LoadOutcome) (s : St) : ℤ × St :=
  let (err, s) := s.statics.classCreate o.classCreate
  if err ≠ 0 then (err, s)
  else
    let (err, s) := s.guruBootInit o.allocRegion
    if err ≠ 0 then (err, s.classDestroy.classDestroy.guruBootExit)
    else if o.usbRegister ≠ 0 then (o.usbRegister, s.guruBootExit)
    else (0, { s with phase := .live })

/-- `guru_drv_exit` after `usb_deregister`. -/
def guruDrvExit (s : St) : St := { s.guruBootExit.classDestroy with phase := .out }

/-! ### Devices -/

/-- The memory of a device is freed. -/
def freed (k : DeviceKind) (dev : Device) (s : St) : St :=
  { s with undefined := s.undefined || dev.active k }

/-- `guru_usb_probe`: a device is bound if it returns `0`, and freed if it does not. -/
def guruUsbProbe (b : ℕ) (p : Plug) (s : St) : ℤ × St :=
  match guruUsbDeviceAlloc p b s.boots with
  | (err, none) => (err, s)
  | (err, some (k, dev)) =>
    let s := { s with boots := dev.boots }
    if err ≠ 0 then (err, s.freed k dev)
    else (0, { s with devices := s.devices ++ [b], bound := Function.update s.bound b (some (k, dev)) })

/-- What a step of a device leaves. -/
def settle (b : ℕ) (k : DeviceKind) (t : Lifecycle.St) (s : St) : St :=
  let s := { s with boots := t.dev.boots, undefined := s.undefined ||
      !t.dev.guru.dev.faults.isEmpty }
  if t.gone then
    { s.freed k t.dev with devices := s.devices.erase b, bound := Function.update s.bound b none }
  else { s with bound := Function.update s.bound b (some (k, t.dev)) }

end St

/-- What a step does, where it can happen. -/
def step (s : St) : Event → Option St
  | .load o => if s.phase = .out then some (s.guruDrvInit o).2 else none
  | .probe b p => if s.phase = .live ∧ b ∉ s.devices then some (s.guruUsbProbe b p).2 else none
  | .dev b e =>
    match s.bound b with
    | none => none
    | some (k, dev) => (Lifecycle.step k ⟨{ dev with boots := s.boots }, false⟩ e).map fun t =>
      s.settle b k t
  | .deregister => if s.phase = .live then some { s with phase := .leaving } else none
  | .exit => if s.phase = .leaving ∧ s.devices = [] then some s.guruDrvExit else none

/-- The module was never inserted. -/
def start : St := ⟨.out, false, 0, false, .empty, [], fun _ => none, false⟩

/-! ### A device and the boot devices -/

section Boots

open Calls Device

variable {k : DeviceKind} {o : ProbeOutcome}

/-- The same device among other boot devices. -/
def withBoots (boots : GuruBoots) (dev : Device) : Device := { dev with boots := boots }

/-- What a step of a device at address `b` does to the boot devices. -/
def bootsAfter (k : DeviceKind) (b : ℕ) (boots : GuruBoots) : Lifecycle.Event → GuruBoots
  | .deinit _ => if k = .canguru then boots.guruBootDestroy b else boots
  | _ => boots

theorem withBoots_netdev (boots : GuruBoots) (s : Device) (ch : Chan) :
    (withBoots boots s).netdev ch = s.netdev ch := rfl

theorem netDestroy_withBoots (boots : GuruBoots) (o : SendOutcome) (ch : Chan) (s : Device) :
    netDestroy o ch (withBoots boots s) = withBoots boots (netDestroy o ch s) := by
  unfold netDestroy
  rw [withBoots_netdev]
  cases s.netdev ch with
  | none => rfl
  | some d => cases hup : d.up <;> simp only [hup] <;> rfl

theorem forEach_netDestroy_withBoots (boots : GuruBoots) (o : Chan → SendOutcome) (l : List Chan)
    (s : Device) : forEach (fun ch => netDestroy (o ch) ch) l (withBoots boots s) =
      withBoots boots (forEach (fun ch => netDestroy (o ch) ch) l s) :=
  List.foldl_hom (withBoots boots) fun s ch => netDestroy_withBoots boots (o ch) ch s

theorem devDeinit_withBoots (k : DeviceKind) (boots : GuruBoots) (o : Chan → SendOutcome)
    (s : Device) :
    devDeinit k o (withBoots boots s) =
      withBoots (bootsAfter k s.boot boots (.deinit o)) (devDeinit k o s) := by
  have hbefore : deinitBefore k (withBoots boots s) =
      withBoots (bootsAfter k s.boot boots (.deinit o)) (deinitBefore k s) := by cases k <;> rfl
  rw [devDeinit_eq, devDeinit_eq, hbefore, forEach_netDestroy_withBoots]
  cases k <;> rfl

/-- **The boot devices play no part in what a device does**, up to the end. -/
theorem stepDev_withBoots (k : DeviceKind) (boots : GuruBoots) (s : Device) (e : Lifecycle.Event) :
    Lifecycle.stepDev k (withBoots boots s) e =
      (Lifecycle.stepDev k s e).map (withBoots (bootsAfter k s.boot boots e)) := by
  cases e with
  | rxComplete i status actualLength buf alloc err =>
    rw [Lifecycle.stepDev, Lifecycle.stepDev]
    change (if Lifecycle.inFlight s.usb.rx i then _ else _) = _
    split <;> rfl
  | txComplete i status =>
    rw [Lifecycle.stepDev, Lifecycle.stepDev]
    change (if Lifecycle.inFlight s.usb.tx i then _ else _) = _
    split <;> rfl
  | send o => rfl
  | opened ch openErr conf o =>
    rw [Lifecycle.stepDev, Lifecycle.stepDev, withBoots_netdev]
    cases s.netdev ch with
    | none => rfl
    | some d => cases hup : d.up <;> simp only [hup] <;> rfl
  | stop ch o =>
    rw [Lifecycle.stepDev, Lifecycle.stepDev, withBoots_netdev]
    cases s.netdev ch with
    | none => rfl
    | some d => cases hup : d.up <;> simp only [hup] <;> rfl
  | xmit ch skb o =>
    rw [Lifecycle.stepDev, Lifecycle.stepDev, withBoots_netdev]
    cases s.netdev ch with
    | none => rfl
    | some d => cases hup : (!d.up || d.queueStopped) <;> simp only [hup] <;> rfl
  | kill =>
    rw [Lifecycle.stepDev, Lifecycle.stepDev]
    change (if s.intfdata then _ else _) = _
    split <;> rfl
  | deinit o =>
    rw [Lifecycle.stepDev, Lifecycle.stepDev]
    change (if s.intfdata then _ else _) = _
    split
    case isTrue => rfl
    case isFalse => exact congrArg some (devDeinit_withBoots k boots o s)

/-- A step of a device leaves it where it is. -/
theorem stepDev_boot {s t : Device} {e : Lifecycle.Event} (h : Lifecycle.stepDev k s e = some t) :
    t.boot = s.boot := by
  cases e with
  | rxComplete => rw [(Lifecycle.stepDev_rxComplete h).2]
  | txComplete => rw [Lifecycle.stepDev_txComplete h]
  | send => cases h; rfl
  | opened =>
    obtain ⟨d, d', -, rfl⟩ := Lifecycle.stepDev_opened h
    rfl
  | stop => rw [Lifecycle.stepDev_stop h]; rfl
  | xmit => rw [Lifecycle.stepDev_xmit h]; rfl
  | kill => rw [(Lifecycle.stepDev_kill h).2]; rfl
  | deinit o =>
    have hdestroy : ∀ s :
        Device, (forEach (fun ch => netDestroy (o ch) ch) k.channels s).boot = s.boot :=
      frame_forEach Device.boot fun ch _ t =>
        inv_netDestroy (P := fun t' => t'.boot = t.boot) (fun _ h => h) (fun _ _ h => h)
          (fun _ _ h => h)
          (fun _ _ h => h) (o ch) rfl
    rw [(Lifecycle.stepDev_deinit h).2, devDeinit_eq]
    cases k <;> exact hdestroy _

/-- The boot devices that a device sees, and where it is. -/
def place (s : Device) : GuruBoots × ℕ := (s.boots, s.boot)

theorem createChannels_place (o : ProbeOutcome) (l : List Chan) (s : Device) :
    place (forEach (createChannel o) l s) = place s :=
  frame_forEach place (fun _ _ t =>
    inv_createChannel (P := fun t' => place t' = place t) (fun _ _ h => h) (fun _ _ h => h) (fun _ _ h => h) o rfl) s

/-- The probes of the other kinds leave the boot devices alone. -/
theorem laterCalls_place (hk : k ≠ .canguru) (o : ProbeOutcome) :
    ∀ f ∈ laterCalls k o, ∀ s, place (f s).2 = place s := by
  cases k with
  | canguru => exact absurd rfl hk
  | linguru =>
    have hvolt : ∀ s, place (linguruVoltCreate o.volt s).2 = place s := by
      intro s
      rw [linguruVoltCreate]
      split_ifs <;> rfl
    simpa only [laterCalls, List.forall_mem_cons] using
      ⟨createChannels_place o _, hvolt, fun _ => rfl, by simp⟩
  | mbus =>
    have hcan : ∀ s, place (mbusDevInitCan o s).2 = place s := fun s =>
      frame_seq place (by
        simpa only [List.forall_mem_cons] using ⟨fun _ => rfl, createChannels_place o _, by simp⟩) s
    have hlin : ∀ s, place (mbusDevInitLin o s).2 = place s := fun s =>
      frame_seq place (by
        simpa only [List.forall_mem_cons] using ⟨createChannels_place o _, fun _ => rfl, by simp⟩) s
    simpa only [laterCalls, List.forall_mem_cons] using ⟨hcan, hlin, by simp⟩

/-- **What a probe does to the boot devices**: that of a CAN Guru makes one, as the last thing
that can fail. -/
theorem devInit_boots (k : DeviceKind) (o : ProbeOutcome) (s : Device) :
    (s.devInit k o).2.boot = s.boot ∧
      ((s.devInit k o).2.boots = s.boots ∧ ((s.devInit k o).1 = 0 → k ≠ .canguru) ∨
        k = .canguru ∧ (s.devInit k o).1 = (s.boots.guruBootCreate o.boot s.boot).1 ∧
          (s.devInit k o).2.boots = (s.boots.guruBootCreate o.boot s.boot).2) := by
  rcases rx_cases o.rx with hok | ⟨m, hm, hok, herr⟩
  · have hring : (canguruUsbRxInit o.rx s.usb).1 = 0 := by rw [canguruUsbRxInit_ok hok]
    have hdev := guruDevInit_of_ok hring
    have hplace : place (s.guruDevInit o).2 = place s := by rw [hdev]; rfl
    rw [devInit_eq, seq_of_ok (congrArg Prod.fst hdev)]
    by_cases hk : k = .canguru
    · subst hk
      have hloop :=
        (createChannels_place o (Bus.can.channels DeviceKind.canguru.canCount) (s.guruDevInit o).2).trans
        hplace
      obtain ⟨hboots, hboot⟩ := Prod.mk.inj hloop
      rw [laterCalls, seq_void, seq_of_ok rfl, seq_singleton, ← hboots, ← hboot]
      exact ⟨rfl, .inr ⟨rfl, rfl, rfl⟩⟩
    · obtain ⟨hboots, hboot⟩ :=
        Prod.mk.inj ((frame_seq place (laterCalls_place hk o) (s.guruDevInit o).2).trans hplace)
      exact ⟨hboot, .inl ⟨hboots, fun _ => hk⟩⟩
  · rw [devInit_of_err hok hm herr]
    exact ⟨rfl, .inl ⟨rfl, fun h => absurd (SendOutcome.rxErr_eq_zero.mp h) herr⟩⟩

end Boots

/-! ### The table of the boot devices -/

section Table

variable {t t' : Minors.St}

/-- What can happen to a boot device that is not live: it is created or not. -/
theorem minors_create {b : ℕ} (hb : b ∉ t.live) (o : BootOutcome) :
    ∃ t', Minors.step t (.create b o) = some t' ∧ t'.boots = (t.boots.guruBootCreate o b).2 ∧
      ∀ b', b' ∈ t'.live ↔ b' ∈ t.live ∨ b' = b ∧ (t.boots.guruBootCreate o b).1 = 0 := by
  rw [Minors.step, if_neg hb]
  by_cases hok : (t.boots.guruBootCreate o b).1 = 0
  · refine ⟨_, if_pos hok, rfl, fun b' => ?_⟩
    rw [List.mem_append, List.mem_singleton, and_iff_left hok]
  · refine ⟨_, if_neg hok, rfl, fun b' => ?_⟩
    rw [iff_false_intro hok, and_false, or_false]

/-- Every live boot device has its node. -/
structure Whole (t : Minors.St) : Prop where
  /-- The table. -/
  inv : Minors.Inv t
  /-- The nodes are those of the table. -/
  nodes : ∀ e, e ∈ t.boots.nodes ↔ t.boots.table e.1 = some e.2

theorem whole_start : Whole Minors.start where
  inv := Minors.inv_start
  nodes _ := iff_of_false List.not_mem_nil nofun

theorem Whole.registered (h : Whole t) {b idx : ℕ} (hb : b ∉ t.live)
    (hf : t.boots.freeMinor = some idx) (serial : List UInt8) :
    Whole
      { boots := t.boots.registered idx b serial
        live := t.live ++ [b]
        serial := Function.update t.serial b serial } := by
  obtain ⟨-, hfree, -⟩ := GuruBoots.freeMinor_eq_some hf
  refine ⟨h.inv.registered hb hf serial, fun e => ?_⟩
  show e ∈ t.boots.nodes ++ [(idx, b)] ↔ Function.update t.boots.table idx (some b) e.1 = some e.2
  rw [List.mem_append, List.mem_singleton, h.nodes]
  by_cases he : e.1 = idx
  · rw [he, Function.update_self, hfree, Option.some.injEq, Prod.ext_iff]
    exact ⟨fun h => h.elim nofun fun h => h.2.symm, fun h => .inr ⟨he, h.symm⟩⟩
  · rw [Function.update_of_ne he]
    exact or_iff_left fun h => he (congrArg Prod.fst h)

theorem Whole.destroy (h : Whole t) {b : ℕ} (hb : b ∈ t.live) :
    Whole { t with boots := t.boots.guruBootDestroy b, live := t.live.erase b } := by
  refine ⟨h.inv.destroy hb, fun e => ?_⟩
  show e ∈ t.boots.nodes.filter (fun e => e.1 ≠ t.boots.minorNum b) ↔
    Function.update t.boots.table (t.boots.minorNum b) none e.1 = some e.2
  rw [List.mem_filter, h.nodes, decide_eq_true_iff]
  by_cases he : e.1 = t.boots.minorNum b
  · rw [he, Function.update_self]
    exact ⟨fun h => absurd rfl h.2, nofun⟩
  · rw [Function.update_of_ne he]
    exact and_iff_left he

/-- **One step** of the boot devices. -/
theorem whole_step (t : Minors.St) (e : Minors.Event) (t' : Minors.St) (h : Whole t)
    (hs : Minors.step t e = some t') : Whole t' := by
  cases e with
  | create b o =>
    obtain ⟨hb, ⟨-, minorNum, hother, rfl⟩ | ⟨-, idx, hf, rfl⟩⟩ := Minors.step_create h.inv hs
    · exact ⟨h.inv.failed hb hother, h.nodes⟩
    · exact h.registered hb hf o.serial
  | destroy b =>
    obtain ⟨hb, rfl⟩ := Minors.step_destroy hs
    exact h.destroy hb

end Table

/-! ### The property -/

/-- The device at `b` is what its own probe and its own steps lead to. -/
def Lives (b : ℕ) (k : DeviceKind) (dev : Device) : Prop :=
  ∃ o boots es t, ((Device.kzalloc boots b).devInit k o).1 = 0 ∧
    run (Lifecycle.step k) (Lifecycle.start k o boots b) es = some t ∧ t.gone = false ∧
      dev = withBoots dev.boots t.dev

/-- A CAN Guru is bound at `b`. -/
def St.Can (s : St) (b : ℕ) : Prop := ∃ dev, s.bound b = some (.canguru, dev)

/-- **The devices are independent, and the boot devices are accounted for.** -/
structure Sound (s : St) : Prop where
  /-- A device does what it would do on its own. -/
  lives : ∀ b k dev, s.bound b = some (k, dev) → Lives b k dev
  /-- The boot devices are what creations and destructions lead to. -/
  minors : ∃ es t, run Minors.step Minors.start es = some t ∧ t.boots = s.boots
  /-- The table has the bound CAN Gurus under their minor numbers. -/
  table : ∀ m b, s.boots.table m = some b ↔ s.Can b ∧ s.boots.minorNum b = m
  /-- Each of them has its node. -/
  nodes : ∀ m b, (m, b) ∈ s.boots.nodes ↔ s.Can b ∧ s.boots.minorNum b = m
  /-- Nothing is bound when the module is out, and the numbers are given back. -/
  out : s.phase = .out → (∀ b, s.bound b = none) ∧ s.region = false
  /-- A bound device has its class and the numbers. -/
  loaded : s.phase ≠ .out → s.klass = true ∧ s.region = true
  /-- Nothing undefined has happened, and no freed device is at work. -/
  defined : s.undefined = false

/-- Every step of a device is within bounds, and a probe that fails is unwound. -/
def Guarded (s : St) : Event → Prop
  | .probe _ p => ∀ k, p.kind = some k → FailedProbe.Unwound k p.init s.boots
  | .dev b e => ∀ k dev, s.bound b = some (k, dev) → Lifecycle.Within k dev e
  | _ => True

/-- The invariant. -/
structure Inv (s : St) : Prop where
  /-- The devices. -/
  lives : ∀ b k dev, s.bound b = some (k, dev) → Lives b k dev ∧ dev.boot = b
  /-- The list of the devices. -/
  devices : s.devices.Nodup ∧ ∀ b, b ∈ s.devices ↔ s.bound b ≠ none
  /-- The boot devices. -/
  minors : ∃ es t, run Minors.step Minors.start es = some t ∧ t.boots = s.boots ∧
    ∀ b, b ∈ t.live ↔ s.Can b
  /-- The module is out. -/
  out : s.phase = .out → s.devices = [] ∧ s.region = false
  /-- The module is in. -/
  loaded : s.phase ≠ .out → s.klass = true ∧ s.region = true

theorem inv_start : Inv start where
  lives _ _ _ := nofun
  devices := ⟨List.nodup_nil, fun _ => iff_of_false List.not_mem_nil fun h => h rfl⟩
  minors := ⟨[], Minors.start, rfl, rfl, fun _ => iff_of_false List.not_mem_nil nofun⟩
  out _ := ⟨rfl, rfl⟩
  loaded h := absurd rfl h

section Steps

variable {s s' : St}

theorem Inv.bound_eq_none (h : Inv s) (hs : s.devices = []) (b : ℕ) : s.bound b = none := by
  by_contra hb
  have hmem := (h.devices.2 b).mpr hb
  rw [hs] at hmem
  exact List.not_mem_nil hmem

/-- **The invariant gives the property**, as long as nothing undefined has happened. -/
theorem Inv.sound (h : Inv s) (hdef : s.undefined = false) : Sound s := by
  obtain ⟨es, t, hr, hboots, hlive⟩ := h.minors
  have hwhole := inv_of_run whole_step whole_start hr
  refine ⟨fun b k dev hb => (h.lives b k dev hb).1, ⟨es, t, hr, hboots⟩, ?_, ?_, ?_, h.loaded, hdef⟩
  · intro m b
    rw [← hboots, ← hlive]
    exact hwhole.inv.table m b
  · intro m b
    rw [← hboots, ← hlive, hwhole.nodes]
    exact hwhole.inv.table m b
  · intro hout
    obtain ⟨hdevices, hregion⟩ := h.out hout
    exact ⟨h.bound_eq_none hdevices, hregion⟩

/-! ### Insertion and removal -/

/-- An insertion finds the class of an earlier one. -/
theorem guruDrvInit_refused (hk : s.klass = true) (o : LoadOutcome) :
    (s.guruDrvInit o).2 = s.statics ∧ (s.guruDrvInit o).1 ≠ 0 ∧
    (o.classCreate = 0 → (s.guruDrvInit o).1 = -EEXIST) := by
  have hk' : s.statics.klass = true := hk
  rw [St.guruDrvInit, St.classCreate]
  by_cases hc : o.classCreate = 0
  · rw [if_neg (not_not.mpr hc), if_pos hk']
    exact ⟨rfl, show -EEXIST ≠ 0 by decide, fun _ => rfl⟩
  · rw [if_pos hc]
    dsimp only
    rw [if_pos hc]
    exact ⟨rfl, hc, fun h => absurd h hc⟩

theorem guruDrvInit_cases (o : LoadOutcome) (hregion : s.region = false) :
    (s.klass = true ∨ o.classCreate ≠ 0) ∧ (s.guruDrvInit o).2 = s.statics ∨
    s.klass = false ∧ o.classCreate = 0 ∧ o.allocRegion ≠ 0 ∧
      (s.guruDrvInit o).2 = { s.statics with dangling := s.dangling + 1 } ∨
    s.klass = false ∧ o.classCreate = 0 ∧ o.allocRegion = 0 ∧ o.usbRegister ≠ 0 ∧
      (s.guruDrvInit o).2 = { s.statics with klass := true } ∨
    s.klass = false ∧ o.classCreate = 0 ∧ o.allocRegion = 0 ∧ o.usbRegister = 0 ∧
      (s.guruDrvInit o).2 = { s.statics with klass := true, region := true, phase := .live } := by
  cases hk : s.klass with
  | true => exact .inl ⟨.inl rfl, (guruDrvInit_refused hk o).1⟩
  | false =>
    obtain ⟨phase, klass, dangling, region, boots, devices, bound, undefined⟩ := s
    obtain rfl : region = false := hregion
    obtain rfl : klass = false := hk
    unfold St.guruDrvInit St.classCreate St.guruBootInit
    by_cases hc : o.classCreate = 0
    · by_cases ha : o.allocRegion = 0
      · by_cases hu : o.usbRegister = 0
        · refine .inr (.inr (.inr ⟨rfl, hc, ha, hu, ?_⟩))
          simp [St.statics, hc, ha, hu]
        · refine .inr (.inr (.inl ⟨rfl, hc, ha, hu, ?_⟩))
          simp [St.statics, St.guruBootExit, hc, ha, hu]
      · refine .inr (.inl ⟨rfl, hc, ha, ?_⟩)
        simp [St.statics, St.guruBootExit, St.classDestroy, hc, ha]
    · refine .inl ⟨.inr hc, ?_⟩
      simp [St.statics, hc]

/-- A module that is inserted finds an empty table. -/
theorem Inv.statics_eq (h : Inv s) (hout : s.phase = .out) : s.statics = s := by
  obtain ⟨es, t, hr, hboots, hlive⟩ := h.minors
  have hwhole := inv_of_run whole_step whole_start hr
  have htable : s.boots.table = fun _ => none := by
    funext m
    by_contra hm
    obtain ⟨b, hb⟩ := Option.ne_none_iff_exists'.mp hm
    rw [← hboots] at hb
    obtain ⟨dev, hdev⟩ := (hlive b).mp ((hwhole.inv.table m b).mp hb).1
    rw [h.bound_eq_none (h.out hout).1 b] at hdev
    cases hdev
  rw [St.statics, ← htable]

theorem Inv.load (h : Inv s) {o : LoadOutcome} (hs : step s (.load o) = some s') : Inv s' := by
  rw [step] at hs
  split at hs
  case isFalse => cases hs
  case isTrue hout =>
    obtain rfl := Option.some.inj hs
    have hempty := h.out hout
    rcases guruDrvInit_cases o hempty.2 with ⟨-, ho⟩ | ⟨-, -, -, ho⟩ | ⟨-, -, -, -, ho⟩ | ⟨-, -,
      -, -, ho⟩ <;>
      rw [ho, h.statics_eq hout]
    · exact h
    · exact ⟨h.lives, h.devices, h.minors, h.out, h.loaded⟩
    · exact ⟨h.lives, h.devices, h.minors, h.out, fun hne => absurd hout hne⟩
    · exact ⟨h.lives, h.devices, h.minors, nofun, fun _ => ⟨rfl, rfl⟩⟩

theorem Inv.exit (h : Inv s) (hs : step s .exit = some s') : Inv s' := by
  rw [step] at hs
  split at hs
  case isFalse => cases hs
  case isTrue hleaving =>
    obtain rfl := Option.some.inj hs
    have hklass : s.guruBootExit.klass = true := (h.loaded (by rw [hleaving.1]; nofun)).1
    rw [St.guruDrvExit, St.classDestroy, if_pos hklass]
    exact ⟨h.lives, h.devices, h.minors, fun _ => ⟨hleaving.2, rfl⟩, fun hne => absurd rfl hne⟩

/-! ### Devices -/

theorem guruUsbProbe_cases (b : ℕ) (p : Plug) (s : St) :
    p.kind = none ∧ (s.guruUsbProbe b p).2 = s ∨
      ∃ k r, p.kind = some k ∧ (Device.kzalloc s.boots b).devInit k p.init = r ∧
        (r.1 ≠ 0 ∧ (s.guruUsbProbe b p).2 = { s with boots := r.2.boots, undefined := s.undefined || r.2.active k } ∨
          r.1 = 0 ∧ (s.guruUsbProbe b p).2 =
            { s with
              boots := r.2.boots
              devices := s.devices ++ [b]
              bound := Function.update s.bound b (some (k, r.2)) }) := by
  unfold St.guruUsbProbe guruUsbDeviceAlloc Plug.kind
  cases p.usbString with
  | error err => exact .inl ⟨rfl, rfl⟩
  | ok buf =>
    by_cases hempty : buf.utf8ByteSize = 0
    · simp [hempty]
    · cases p.oom with
      | true => cases hk : kindOf buf <;> simp [hempty, hk]
      | false =>
        cases hk : kindOf buf with
        | none => simp [hempty, hk]
        | some k =>
          refine .inr ⟨k, _, by simp [hempty, hk], rfl, ?_⟩
          by_cases herr : ((Device.kzalloc s.boots b).devInit k p.init).1 = 0
          · exact .inr ⟨herr, by simp [hempty, hk, herr]⟩
          · exact .inl ⟨herr, by simp [hempty, hk, herr, St.freed]⟩

theorem can_bind {b : ℕ} (hb : s.bound b = none) (k : DeviceKind) (dev : Device) (b' : ℕ) :
    (∃ dev', Function.update s.bound b (some (k, dev)) b' = some (.canguru, dev')) ↔
      s.Can b' ∨ b' = b ∧ k = .canguru := by
  by_cases hb' : b' = b
  · subst hb'
    rw [Function.update_self, St.Can, hb]
    simp
  · rw [Function.update_of_ne hb', or_iff_left fun h => hb' h.1]
    rfl

theorem can_rebind {b : ℕ} {k : DeviceKind} {dev : Device} (hb : s.bound b = some (k, dev))
    (dev' : Device) (b' : ℕ) :
    (∃ dev'', Function.update s.bound b (some (k, dev')) b' = some (.canguru, dev'')) ↔
    s.Can b' := by
  by_cases hb' : b' = b
  · subst hb'
    rw [Function.update_self, St.Can, hb]
    simp
  · rw [Function.update_of_ne hb']
    rfl

/-- What is bound when one device is taken away. -/
theorem can_unbind (b b' : ℕ) :
    (∃ dev, Function.update s.bound b none b' = some (.canguru, dev)) ↔ b' ≠ b ∧ s.Can b' := by
  by_cases hb' : b' = b
  · subst hb'
    rw [Function.update_self]
    simp
  · rw [Function.update_of_ne hb', and_iff_right hb']
    rfl

/-- A probe is a creation of its boot device at most. -/
theorem Inv.minors_probe (h : Inv s) {b : ℕ} (hb : s.bound b = none) (k : DeviceKind)
    (o : ProbeOutcome) :
    ∃ es t, run Minors.step Minors.start es = some t ∧
      t.boots = ((Device.kzalloc s.boots b).devInit k o).2.boots ∧
      ∀ b', b' ∈ t.live ↔ s.Can b' ∨ b' = b ∧ k = .canguru ∧
        ((Device.kzalloc s.boots b).devInit k o).1 = 0 := by
  obtain ⟨es, t, hr, hboots, hlive⟩ := h.minors
  rcases (devInit_boots k o (Device.kzalloc s.boots b)).2 with ⟨hkept, hother⟩ | ⟨rfl,
    herr, hcreate⟩
  · refine ⟨es, t, hr, hboots.trans hkept.symm, fun b' => ?_⟩
    rw [hlive]
    exact (or_iff_left fun hnew => hother hnew.2.2 hnew.2.1).symm
  · have hnot : b ∉ t.live := by
      rw [hlive]
      rintro ⟨dev, hdev⟩
      rw [hb] at hdev
      cases hdev
    obtain ⟨t', hs, hboots', hlive'⟩ := minors_create hnot o.boot
    refine ⟨es ++ [.create b o.boot], t', run_concat hr hs, ?_, fun b' => ?_⟩
    · rw [hboots', hcreate, hboots]
      rfl
    · rw [hlive', hlive, herr, hboots, and_iff_right rfl]
      rfl

theorem Inv.probe (h : Inv s) {b : ℕ} {p : Plug} (hs : step s (.probe b p) = some s') : Inv s' := by
  rw [step] at hs
  split at hs
  case isFalse => cases hs
  case isTrue hnew =>
    obtain rfl := Option.some.inj hs
    have hloaded := h.loaded (by rw [hnew.1]; nofun)
    have hne : s.phase ≠ .out := by rw [hnew.1]; nofun
    have hb : s.bound b = none := not_not.mp fun hb => hnew.2 ((h.devices.2 b).mpr hb)
    rcases guruUsbProbe_cases b p s with ⟨-, hsame⟩ | ⟨k, r, -, hr, hcase⟩
    · rw [hsame]
      exact h
    · obtain ⟨es, t, hrun, hboots, hlive⟩ := h.minors_probe hb k p.init
      rw [hr] at hboots hlive
      rcases hcase with ⟨herr, hs'⟩ | ⟨hok, hs'⟩
      · rw [hs']
        refine ⟨h.lives, h.devices, ⟨es, t, hrun, hboots, fun b' => ?_⟩, h.out, h.loaded⟩
        rw [hlive]
        exact or_iff_left fun hcan => herr hcan.2.2
      · rw [hs']
        refine ⟨fun b' k' dev hdev => ?_, ⟨?_, fun b' => ?_⟩, ⟨es, t, hrun, hboots, fun b' => ?_⟩,
          fun hout => absurd hout hne, fun _ => hloaded⟩
        · change Function.update s.bound b (some (k, r.2)) b' = some (k', dev) at hdev
          by_cases hb' : b' = b
          · rw [hb', Function.update_self, Option.some.injEq, Prod.mk.injEq] at hdev
            obtain ⟨rfl, rfl⟩ := hdev
            subst hr hb'
            exact ⟨⟨p.init, s.boots, [], _, hok, rfl, rfl, rfl⟩,
              (devInit_boots k p.init (Device.kzalloc s.boots b')).1⟩
          · rw [Function.update_of_ne hb'] at hdev
            exact h.lives b' k' dev hdev
        · exact h.devices.1.append (List.nodup_singleton b) (by simpa using hnew.2)
        · show b' ∈ s.devices ++ [b] ↔ Function.update s.bound b (some (k, r.2)) b' ≠ none
          rw [List.mem_append, List.mem_singleton]
          by_cases hb' : b' = b
          · simp [hb']
          · rw [Function.update_of_ne hb', or_iff_left hb']
            exact h.devices.2 b'
        · rw [hlive, and_iff_left hok]
          exact (can_bind hb k r.2 b').symm

/-- A step of a device among the others is a step of its own. -/
theorem Lives.step {b : ℕ} {k : DeviceKind} {dev : Device} (h : Lives b k dev) (hb : dev.boot = b)
    {boots : GuruBoots} {e : Lifecycle.Event} {t : Lifecycle.St}
    (hs : Lifecycle.step k ⟨withBoots boots dev, false⟩ e = some t) :
    t.gone = e.isDeinit ∧ t.dev.boots = bootsAfter k b boots e ∧
    (t.gone = false → Lives b k t.dev ∧ t.dev.boot = b) := by
  obtain ⟨o, boots₀, es, u, hinit, hr, hgone, hdev⟩ := h
  obtain ⟨-, hstep, ht⟩ := Lifecycle.step_eq_some.mp hs
  have hplace : u.dev.boot = b := by rw [← hb, hdev]; rfl
  have hsame : withBoots boots dev = withBoots boots u.dev := by rw [hdev]; rfl
  rw [hsame, stepDev_withBoots, hplace] at hstep
  obtain ⟨d, hd, htd⟩ := Option.map_eq_some_iff.mp hstep
  refine ⟨ht, by rw [← htd]; rfl, fun hlives => ⟨⟨o, boots₀, es ++ [e], ⟨d, false⟩, hinit, run_concat hr ?_, rfl, ?_⟩, ?_⟩⟩
  · rw [Lifecycle.step_eq_some]
    exact ⟨hgone, hd, (ht ▸ hlives).symm⟩
  · rw [← htd]
    rfl
  · rw [← htd]
    exact (stepDev_boot hd).trans hplace

/-- A device is bound only while the module is in. -/
theorem Inv.phase_ne (h : Inv s) {b : ℕ} {v : DeviceKind × Device} (hb : s.bound b = some v) :
    s.phase ≠ .out := by
  intro hout
  rw [h.bound_eq_none (h.out hout).1 b] at hb
  cases hb

theorem Inv.stays (h : Inv s) {b : ℕ} {k : DeviceKind} {dev dev' : Device}
    (hb : s.bound b = some (k, dev)) (hnew : Lives b k dev' ∧ dev'.boot = b) (undefined : Bool) :
    Inv { s with bound := Function.update s.bound b (some (k, dev')), undefined := undefined } := by
  obtain ⟨es, t, hr, hboots, hlive⟩ := h.minors
  have hne := h.phase_ne hb
  refine ⟨fun b' k' d hd => ?_, ⟨h.devices.1, fun b' => ?_⟩, ⟨es, t, hr, hboots, fun b' => ?_⟩,
    fun hout => absurd hout hne, fun _ => h.loaded hne⟩
  · change Function.update s.bound b (some (k, dev')) b' = some (k', d) at hd
    by_cases hb' : b' = b
    · rw [hb', Function.update_self, Option.some.injEq, Prod.mk.injEq] at hd
      obtain ⟨rfl, rfl⟩ := hd
      exact hb' ▸ hnew
    · rw [Function.update_of_ne hb'] at hd
      exact h.lives b' k' d hd
  · show b' ∈ s.devices ↔ Function.update s.bound b (some (k, dev')) b' ≠ none
    rw [h.devices.2]
    by_cases hb' : b' = b
    · subst hb'
      rw [Function.update_self, hb]
      exact iff_of_true nofun nofun
    · rw [Function.update_of_ne hb']
  · rw [hlive]
    exact (can_rebind hb dev' b').symm

theorem Inv.leaves (h : Inv s) {b : ℕ} {k : DeviceKind} {dev : Device}
    (hb : s.bound b = some (k, dev)) (undefined : Bool) :
    Inv { s with
      boots := if k = .canguru then s.boots.guruBootDestroy b else s.boots
      devices := s.devices.erase b
      bound := Function.update s.bound b none
      undefined := undefined } := by
  obtain ⟨es, t, hr, hboots, hlive⟩ := h.minors
  have hne := h.phase_ne hb
  refine ⟨fun b' k' d hd => ?_, ⟨h.devices.1.erase b, fun b' => ?_⟩, ?_,
    fun hout => absurd hout hne, fun _ => h.loaded hne⟩
  · change Function.update s.bound b none b' = some (k', d) at hd
    by_cases hb' : b' = b
    · rw [hb', Function.update_self] at hd
      cases hd
    · rw [Function.update_of_ne hb'] at hd
      exact h.lives b' k' d hd
  · show b' ∈ s.devices.erase b ↔ Function.update s.bound b none b' ≠ none
    rw [h.devices.1.mem_erase_iff, h.devices.2]
    by_cases hb' : b' = b
    · rw [hb', Function.update_self]
      exact iff_of_false (fun h => h.1 rfl) fun h => h rfl
    · rw [Function.update_of_ne hb']
      exact and_iff_right hb'
  · by_cases hk : k = .canguru
    · subst hk
      have hmem : b ∈ t.live := (hlive b).mpr ⟨dev, hb⟩
      have hstep : Minors.step t (.destroy b) =
          some { t with boots := t.boots.guruBootDestroy b, live := t.live.erase b } := if_pos hmem
      refine ⟨es ++ [.destroy b], _, run_concat hr hstep, ?_, fun b' => ?_⟩
      · rw [hboots]
        rfl
      · have hwhole := inv_of_run whole_step whole_start hr
        rw [hwhole.inv.nodup.mem_erase_iff, hlive]
        exact (can_unbind b b').symm
    · refine ⟨es, t, hr, hboots.trans (if_neg hk).symm, fun b' => ?_⟩
      have hnot : ¬ s.Can b := by
        rintro ⟨d, hd⟩
        rw [hb, Option.some.injEq, Prod.mk.injEq] at hd
        exact hk hd.1
      refine (hlive b').trans (Iff.trans ?_ (can_unbind b b').symm)
      exact (and_iff_right_of_imp fun hcan (he : b' = b) => hnot (he ▸ hcan)).symm

/-- What a step of a device leaves, of a device that stays and of one that goes. -/
theorem settle_stays {b : ℕ} {k : DeviceKind} {t : Lifecycle.St} (hg : t.gone = false) (s : St) :
    s.settle b k t =
      { s with
        boots := t.dev.boots
        bound := Function.update s.bound b (some (k, t.dev))
        undefined := s.undefined || !t.dev.guru.dev.faults.isEmpty } := by
  rw [St.settle, hg]
  rfl

theorem settle_gone {b : ℕ} {k : DeviceKind} {t : Lifecycle.St} (hg : t.gone = true) (s : St) :
    s.settle b k t =
      { s with
        boots := t.dev.boots
        devices := s.devices.erase b
        bound := Function.update s.bound b none
        undefined := (s.undefined || !t.dev.guru.dev.faults.isEmpty) || t.dev.active k } := by
  rw [St.settle, hg]
  rfl

theorem Inv.dev (h : Inv s) {b : ℕ} {e : Lifecycle.Event} (hs : step s (.dev b e) = some s') :
    Inv s' := by
  rw [Module.step] at hs
  split at hs
  case h_1 => cases hs
  case h_2 k dev hb =>
    obtain ⟨t, ht, rfl⟩ := Option.map_eq_some_iff.mp hs
    obtain ⟨hlives, hboot⟩ := h.lives b k dev hb
    obtain ⟨hgone, hboots, hstill⟩ := hlives.step hboot ht
    cases hg : t.gone with
    | false =>
      have hkept : t.dev.boots = s.boots := by
        rw [hboots]
        cases e <;> first | rfl | exact absurd (hgone.symm.trans hg) nofun
      rw [settle_stays hg, hkept]
      exact h.stays hb (hstill hg) _
    | true =>
      have hleft : t.dev.boots = if k = .canguru then s.boots.guruBootDestroy b else s.boots := by
        rw [hboots]
        cases e <;> first | rfl | exact absurd (hgone.symm.trans hg) nofun
      rw [settle_gone hg, hleft]
      exact h.leaves hb _

/-- **One step** keeps the invariant. -/
theorem inv_step (s : St) (e : Event) (s' : St) (h : Inv s) (hs : step s e = some s') : Inv s' := by
  cases e with
  | load o => exact h.load hs
  | probe b p => exact h.probe hs
  | dev b e => exact h.dev hs
  | deregister =>
    rw [step] at hs
    split at hs
    case isTrue hlive =>
      obtain rfl := Option.some.inj hs
      have hloaded := h.loaded (by rw [hlive]; nofun)
      exact ⟨h.lives, h.devices, h.minors, nofun, fun _ => hloaded⟩
    case isFalse => cases hs
  | exit => exact h.exit hs

/-! ### What is undefined -/

/-- Nothing undefined has happened, to no device. -/
structure Defined (s : St) : Prop where
  /-- The module. -/
  undefined : s.undefined = false
  /-- The devices that are bound. -/
  faults : ∀ b k dev, s.bound b = some (k, dev) → dev.guru.dev.faults = []

theorem Lives.msgList {b : ℕ} {k : DeviceKind} {dev : Device} (h : Lives b k dev) :
    dev.guru.msgList = k.msgList := by
  obtain ⟨o, boots, es, t, hinit, hr, -, hdev⟩ := h
  have ht : t.dev.guru.msgList = k.msgList :=
    inv_of_run (fun _ _ _ hl hs => (Lifecycle.stepDev_msgList (Lifecycle.step_eq_some.mp hs).2.1).trans hl)
      (Lifecycle.start_guru hinit).1 hr
  rw [hdev]
  exact ht

/-- A probe is harmless exactly if it is unwound when it fails. -/
theorem Defined.probe (hd : Defined s) {b : ℕ} {p : Plug} (hs : step s (.probe b p) = some s') :
    (s'.undefined = false → Defined s') ∧ (s'.undefined = false ↔ Guarded s (.probe b p)) := by
  rw [step] at hs
  split at hs
  case isFalse => cases hs
  case isTrue hnew =>
    obtain rfl := Option.some.inj hs
    rcases guruUsbProbe_cases b p s with ⟨hkind, hsame⟩ | ⟨k, r, hkind, hr, hcase⟩
    · rw [hsame]
      exact ⟨fun _ => hd, iff_of_true hd.undefined fun k hk => absurd (hkind.symm.trans hk) nofun⟩
    · have hguard : Guarded s (.probe b p) ↔ (r.1 ≠ 0 → r.2.active k = false) := by
        rw [← hr, Lifecycle.probe_active_iff]
        refine ⟨fun h => h k hkind, fun h k' hk' => ?_⟩
        rw [hkind, Option.some.injEq] at hk'
        exact hk' ▸ h
      rw [hguard]
      rcases hcase with ⟨herr, hs'⟩ | ⟨hok, hs'⟩
      · rw [hs']
        refine ⟨fun h => ⟨h, hd.faults⟩, ?_⟩
        simp only [hd.undefined, Bool.false_or, forall_prop_of_true herr]
      · rw [hs']
        refine ⟨fun _ => ⟨hd.undefined, fun b' k' dev hdev => ?_⟩,
          iff_of_true hd.undefined fun h => absurd hok h⟩
        change Function.update s.bound b (some (k, r.2)) b' = some (k', dev) at hdev
        by_cases hb : b' = b
        · rw [hb, Function.update_self, Option.some.injEq, Prod.mk.injEq] at hdev
          obtain ⟨-, rfl⟩ := hdev
          subst hr
          exact (Lifecycle.start_guru hok).2
        · rw [Function.update_of_ne hb] at hdev
          exact hd.faults b' k' dev hdev

/-- A step of a device is harmless exactly if it is within bounds. -/
theorem Defined.dev (hd : Defined s) (h : Inv s) {b : ℕ} {e : Lifecycle.Event}
    (hs : step s (.dev b e) = some s') :
    (s'.undefined = false → Defined s') ∧ (s'.undefined = false ↔ Guarded s (.dev b e)) := by
  rw [Module.step] at hs
  split at hs
  case h_1 => cases hs
  case h_2 k dev hb =>
    obtain ⟨t, ht, rfl⟩ := Option.map_eq_some_iff.mp hs
    obtain ⟨-, hstep, hgone⟩ := Lifecycle.step_eq_some.mp ht
    have hguard : Guarded s (.dev b e) ↔ Lifecycle.Within k dev e := by
      refine ⟨fun hw => hw k dev hb, fun hw k' dev' hb' => ?_⟩
      rw [hb, Option.some.injEq, Prod.mk.injEq] at hb'
      obtain ⟨rfl, rfl⟩ := hb'
      exact hw
    have hwithin : t.dev.guru.dev.faults = [] ∧ (e.isDeinit = true → t.dev.active k = false) ↔
        Lifecycle.Within k dev e :=
      Lifecycle.within_iff (s := withBoots s.boots dev) (h.lives b k dev hb).1.msgList
        (hd.faults b k dev hb) hstep
    rw [hguard, ← hwithin, ← hgone]
    cases hg : t.gone with
    | false =>
      rw [settle_stays hg]
      simp only [hd.undefined, Bool.false_or, Bool.not_eq_false', List.isEmpty_iff]
      refine ⟨fun hf => ⟨by simp [hf], fun b' k' dev' hb' => ?_⟩, (and_iff_left nofun).symm⟩
      change Function.update s.bound b (some (k, t.dev)) b' = some (k', dev') at hb'
      by_cases hbb : b' = b
      · rw [hbb, Function.update_self, Option.some.injEq, Prod.mk.injEq] at hb'
        rw [← hb'.2, hf]
      · rw [Function.update_of_ne hbb] at hb'
        exact hd.faults b' k' dev' hb'
    | true =>
      rw [settle_gone hg]
      simp only [hd.undefined, Bool.false_or, Bool.or_eq_false_iff, Bool.not_eq_false',
        List.isEmpty_iff, forall_prop_of_true]
      refine ⟨fun hf => ⟨by simp [hf], fun b' k' dev' hb' => ?_⟩, trivial⟩
      change Function.update s.bound b none b' = some (k', dev') at hb'
      by_cases hbb : b' = b
      · rw [hbb, Function.update_self] at hb'
        cases hb'
      · rw [Function.update_of_ne hbb] at hb'
        exact hd.faults b' k' dev' hb'

end Steps

/-! ### The class -/

/-- Nothing of the class is left behind, and none was destroyed twice. -/
structure Clean (s : St) : Prop where
  /-- It is destroyed when the module is out. -/
  klass : s.phase = .out → s.klass = false
  /-- It was there whenever it was destroyed. -/
  dangling : s.dangling = 0

/-- An insertion does not fail after it has made the class. -/
def Holds (_ : St) : Event → Prop
  | .load o => o.classCreate = 0 → o.allocRegion = 0 ∧ o.usbRegister = 0
  | _ => True

section Class

variable {s s' : St}

/-- The steps of the devices leave the module and its class alone. -/
theorem probe_class (b : ℕ) (p : Plug) (s : St) : (s.guruUsbProbe b p).2.phase = s.phase ∧
    (s.guruUsbProbe b p).2.klass = s.klass ∧ (s.guruUsbProbe b p).2.dangling = s.dangling := by
  rcases guruUsbProbe_cases b p s with ⟨-, hs⟩ | ⟨k, r, -, -, ⟨-, hs⟩ | ⟨-, hs⟩⟩ <;>
    · rw [hs]
      exact ⟨rfl, rfl, rfl⟩

theorem dev_class {b : ℕ} {e : Lifecycle.Event} (hs : step s (.dev b e) = some s') :
    s'.phase = s.phase ∧ s'.klass = s.klass ∧ s'.dangling = s.dangling := by
  rw [step] at hs
  split at hs
  case h_1 => cases hs
  case h_2 k dev hb =>
    obtain ⟨t, -, rfl⟩ := Option.map_eq_some_iff.mp hs
    rw [St.settle]
    cases t.gone <;> exact ⟨rfl, rfl, rfl⟩

/-- An insertion that does not fail after it has made the class keeps it clean. -/
theorem Clean.load (hc : Clean s) (h : Inv s) {o : LoadOutcome} (hholds : Holds s (.load o))
    (hs : step s (.load o) = some s') : Clean s' := by
  rw [step] at hs
  split at hs
  case isFalse => cases hs
  case isTrue hout =>
    obtain rfl := Option.some.inj hs
    rcases guruDrvInit_cases o (h.out hout).2 with ⟨-, ho⟩ | ⟨-, hclass, ha, -⟩ | ⟨-,
      hclass, -, hu, -⟩ |
      ⟨-, -, -, -, ho⟩
    · rw [ho]
      exact ⟨hc.klass, hc.dangling⟩
    · exact absurd (hholds hclass).1 ha
    · exact absurd (hholds hclass).2 hu
    · rw [ho]
      exact ⟨nofun, hc.dangling⟩

/-- One that does fail leaves the class behind or destroys it twice. -/
theorem not_clean_load (hc : Clean s) (h : Inv s) {o : LoadOutcome} (hholds : ¬ Holds s (.load o))
    (hs : step s (.load o) = some s') : ¬ Clean s' := by
  rw [step] at hs
  split at hs
  case isFalse => cases hs
  case isTrue hout =>
    obtain rfl := Option.some.inj hs
    obtain ⟨hclass, hfail⟩ := Classical.not_imp.mp hholds
    intro hc'
    rcases guruDrvInit_cases o (h.out hout).2 with ⟨hk | hne, -⟩ | ⟨-, -, -, ho⟩ | ⟨-, -, -, -,
      ho⟩ | ⟨-, -, ha, hu, -⟩
    · exact absurd ((hc.klass hout).symm.trans hk) nofun
    · exact hne hclass
    · rw [ho] at hc'
      exact absurd hc'.dangling (Nat.succ_ne_zero _)
    · rw [ho] at hc'
      exact absurd (hc'.klass hout) nofun
    · exact hfail ⟨ha, hu⟩

/-- **One step** keeps the class clean if it is no insertion that fails after it has made it. -/
theorem clean_step (s : St) (e : Event) (s' : St) (h : Inv s ∧ Clean s) (hholds : Holds s e)
    (hs : step s e = some s') : Inv s' ∧ Clean s' := by
  obtain ⟨hi, hc⟩ := h
  refine ⟨inv_step s e s' hi hs, ?_⟩
  cases e with
  | load o => exact hc.load hi hholds hs
  | probe b p =>
    rw [step] at hs
    split at hs
    case isTrue =>
      obtain rfl := Option.some.inj hs
      obtain ⟨hphase, hklass, hdangling⟩ := probe_class b p s
      exact ⟨by rw [hphase, hklass]; exact hc.klass, by rw [hdangling]; exact hc.dangling⟩
    case isFalse => cases hs
  | dev b e =>
    obtain ⟨hphase, hklass, hdangling⟩ := dev_class hs
    exact ⟨by rw [hphase, hklass]; exact hc.klass, by rw [hdangling]; exact hc.dangling⟩
  | deregister =>
    rw [step] at hs
    split at hs
    case isTrue =>
      obtain rfl := Option.some.inj hs
      exact ⟨nofun, hc.dangling⟩
    case isFalse => cases hs
  | exit =>
    rw [step] at hs
    split at hs
    case isTrue hleaving =>
      obtain rfl := Option.some.inj hs
      have hklass : s.guruBootExit.klass = true := (hi.loaded (by rw [hleaving.1]; nofun)).1
      rw [St.guruDrvExit, St.classDestroy, if_pos hklass]
      exact ⟨fun _ => rfl, hc.dangling⟩
    case isFalse => cases hs

theorem stuck_step (s : St) (e : Event) (s' : St) (h : Inv s ∧ s.phase = .out ∧ s.klass = true)
    (hs : step s e = some s') : Inv s' ∧ s'.phase = .out ∧ s'.klass = true := by
  obtain ⟨hi, hout, hk⟩ := h
  refine ⟨inv_step s e s' hi hs, ?_⟩
  cases e with
  | load o =>
    rw [step, if_pos hout, Option.some.injEq] at hs
    subst hs
    rw [(guruDrvInit_refused hk o).1]
    exact ⟨hout, hk⟩
  | probe b p =>
    rw [step, hout, if_neg (fun h => nomatch h.1)] at hs
    cases hs
  | dev b e =>
    obtain ⟨hphase, hklass, -⟩ := dev_class hs
    exact ⟨hphase.trans hout, hklass.trans hk⟩
  | deregister =>
    rw [step, hout, if_neg nofun] at hs
    cases hs
  | exit =>
    rw [step, hout, if_neg (fun h => nomatch h.1)] at hs
    cases hs

/-- **The class** is never left behind and never destroyed twice exactly if no insertion fails
after it has made it; and from a state in which it is left behind every insertion fails, for
ever. -/
theorem clean_iff {es : List Event} {t : St} (hr : run step start es = some t) :
    (Always step Clean start es ↔ Meets step Holds start es) ∧
      (t.phase = .out → t.klass = true → ∀ es' u, run step t es' = some u →
        u.phase = .out ∧ u.klass = true ∧
          ∀ o, (u.guruDrvInit o).1 ≠ 0 ∧ (o.classCreate = 0 → (u.guruDrvInit o).1 = -EEXIST)) := by
  constructor
  · refine always_iff_meets clean_step (fun s h => h.2) ?_ ⟨inv_start, fun _ => rfl, rfl⟩ hr
    intro s e s' ⟨hi, hc⟩ hholds hs
    cases e with
    | load o => exact not_clean_load hc hi hholds hs
    | _ => exact absurd trivial hholds
  · intro hout hk es' u hr'
    obtain ⟨-, hout', hk'⟩ := inv_of_run stuck_step ⟨inv_of_run inv_step inv_start hr, hout, hk⟩ hr'
    exact ⟨hout', hk', fun o => (guruDrvInit_refused hk' o).2⟩

end Class

/-! ### A run -/

/-- The module is inserted, a CAN Guru is plugged in and out again, and the module is removed. -/
def session : List Event :=
  [.load ⟨0, 0, 0⟩, .probe 7 ⟨.ok "CAN Guru Lite", false, .ok⟩, .dev 7 .kill, .dev 7 (.deinit fun _ => .ok), .deregister,
    .exit]

/-- Two insertions, the first of which fails when it registers the driver. -/
def refused : List Event := [.load ⟨0, 0, -ENOMEM⟩, .load ⟨0, 0, 0⟩]

/-- The class is left behind. -/
theorem clean_refused : ∃ t, run step start refused = some t ∧ ¬ Always step Clean start refused ∧
    t.klass = true := by
  obtain ⟨t, ht, hk⟩ : ∃ t, run step start refused = some t ∧ t.klass = true := ⟨_, rfl, rfl⟩
  refine ⟨t, ht, fun h => ?_, hk⟩
  have hmeets := (clean_iff ht).1.mp h
  exact absurd (hmeets.1 rfl).2 (by decide)

end Module

end CanGuru
