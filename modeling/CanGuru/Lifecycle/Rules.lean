import CanGuru.Device

/-!
# Probe and disconnect as a whole

What the init function of a device and `guru_dev_deinit` do to the channels, to the
URBs and to the boot devices, for all three kinds.

## What is proved

* `inv_netCreate`, `inv_netDestroy` — what the pieces keep, the creation and the
  destruction of a channel keep.
* `createChannel_chan`, `netDestroy_chan` — what they do to their channel.
* `devInit_eq_zero` — **when a probe succeeds**, if every receive URB can be set up.
* `devInit_ok`, `devDeinit_eq` — a probe that succeeds is one loop that creates the
  channels of the device, and `dev_deinit` is one loop that destroys them, with what
  comes before and after.
* `devDeinit_chan`, `devDeinit_tx`, `devDeinit_faults` — what `dev_deinit` does.
-/

namespace CanGuru

open Calls ListHead

/-! ### The creation of a channel -/

/-- The channel is created. -/
def CreateOutcome.Created (o : CreateOutcome) (bus : Bus) : Prop :=
  o.oom = false ∧ o.reset.err = 0 ∧ (bus = .can → o.filter.err = 0) ∧ o.register = 0

instance (o : CreateOutcome) (bus : Bus) : Decidable (o.Created bus) :=
  inferInstanceAs (Decidable (_ ∧ _))

namespace Device

/-- The entry of a channel, and the life of its candev. -/
def chan (ch : Chan) (s : Device) : Option NetDevice × Life := (s.netdev ch, s.candev ch)

theorem modifyCandev_chan_of_ne {ch ch' : Chan} (h : ch' ≠ ch) (f : Life → Life) (s : Device) :
    (s.modifyCandev ch f).chan ch' = s.chan ch' := by
  rw [chan, modifyCandev_netdev, modifyCandev_of_ne h, chan]

theorem setNetdev_chan_of_ne {ch ch' : Chan} (h : ch' ≠ ch) (d : Option NetDevice) (s : Device) :
    (s.setNetdev ch d).chan ch' = s.chan ch' := by
  rw [chan, setNetdev_of_ne h]
  rfl

/-- What the pieces keep, the creation of a channel keeps. -/
theorem inv_netCreate {P : Device → Prop} {ch : Chan} (hsend : ∀ o s, P s → P (send o s))
    (hcandev : ∀ f s, P s → P (modifyCandev ch f s)) (hset : ∀ d s, P s → P (setNetdev ch d s))
    (oom : Bool) (setUp : List (SendOutcome × ℤ)) (register : ℤ) {s : Device} (hs : P s) :
    P (s.netCreate ch oom setUp register).2 := by
  have hseq : ∀ s, P s → P (seq (setUp.map fun m s => (m.2, send m.1 s)) s).2 := by
    refine fun s hs => inv_seq (fun f hf s hs => ?_) hs
    obtain ⟨m, -, rfl⟩ := List.mem_map.mp hf
    exact hsend m.1 s hs
  unfold netCreate
  split
  case isTrue => exact hs
  case isFalse =>
    have h := hseq _ (hcandev .alloc s hs)
    dsimp only
    split_ifs
    · exact h
    · exact h
    · exact hset _ _ (hcandev .register _ h)

/-- The messages that set a channel up all succeed exactly if the row does. -/
theorem seq_setUp {setUp : List (SendOutcome × ℤ)} {s : Device} :
    (seq (setUp.map fun m s => (m.2, send m.1 s)) s).1 = 0 ↔ ∀ m ∈ setUp, m.2 = 0 := by
  induction setUp generalizing s with
  | nil => simp
  | cons m setUp ih =>
    rw [List.map_cons, List.forall_mem_cons]
    by_cases hm : m.2 = 0
    · rw [seq_of_ok hm, ih, and_iff_right hm]
    · rw [seq_of_err hm]
      exact ⟨fun h => absurd h hm, fun h => absurd h.1 hm⟩

theorem netCreate_chan (ch : Chan) (oom : Bool) (setUp : List (SendOutcome × ℤ)) (register : ℤ)
    (s : Device) : (s.netCreate ch oom setUp register).2.chan ch =
      if oom then s.chan ch
      else if (∀ m ∈ setUp, m.2 = 0) ∧ register = 0 then
        (some (.create (UInt8.ofNat ch.2)), (s.candev ch).alloc.register)
      else (s.netdev ch, (s.candev ch).alloc) := by
  unfold netCreate
  cases oom with
  | true => rfl
  | false =>
    have hchan : ∀ s, (seq (setUp.map fun m s => (m.2, send m.1 s)) s).2.chan ch = s.chan ch := by
      refine frame_seq (chan ch) fun f hf s => ?_
      obtain ⟨m, -, rfl⟩ := List.mem_map.mp hf
      rfl
    have hs := hchan (s.modifyCandev ch .alloc)
    have herr := @seq_setUp setUp (s.modifyCandev ch .alloc)
    simp only [Bool.false_eq_true, if_false]
    generalize seq (setUp.map fun m s => (m.2, send m.1 s)) (s.modifyCandev ch .alloc) =
      r at hs herr ⊢
    obtain ⟨err, t⟩ := r
    have hnet : t.netdev ch = s.netdev ch := congrArg Prod.fst hs
    have hlife : t.candev ch = (s.candev ch).alloc :=
      (congrArg Prod.snd hs).trans (modifyCandev_self ..)
    have hkept : t.chan ch = (s.netdev ch, (s.candev ch).alloc) := by rw [chan, hnet, hlife]
    by_cases he : err = 0
    · by_cases hr : register = 0
      · simp only [he, hr, ne_eq, not_true_eq_false, if_false]
        rw [if_pos (And.intro (herr.mp he) trivial), chan, setNetdev_self, ← hlife]
        exact Prod.ext rfl (modifyCandev_self ..)
      · simp [he, hr, hkept]
    · have hn : ¬ ((∀ m ∈ setUp, m.2 = 0) ∧ register = 0) := fun h => he (herr.mpr h.1)
      simp only [he, ne_eq, not_false_eq_true, if_true]
      rw [if_neg hn, hkept]

/-- The creation of a channel does nothing to another. -/
theorem netCreate_chan_of_ne {ch ch' : Chan} (h : ch' ≠ ch) (oom : Bool)
    (setUp : List (SendOutcome × ℤ)) (register : ℤ) (s : Device) :
    (s.netCreate ch oom setUp register).2.chan ch' = s.chan ch' :=
  inv_netCreate (P := fun t => t.chan ch' = s.chan ch') (fun _ _ ht => ht)
    (fun f _ ht => (modifyCandev_chan_of_ne h f _).trans ht)
      (fun d _ ht => (setNetdev_chan_of_ne h d _).trans ht)
    oom setUp register rfl

/-- What the creation of a channel makes of its entry and its candev. -/
def born (o : CreateOutcome) (ch : Chan) (v : Option NetDevice × Life) : Option NetDevice × Life :=
  if o.oom then v
  else if o.Created ch.1 then (some (.create (UInt8.ofNat ch.2)), v.2.alloc.register)
  else (v.1, v.2.alloc)

/-- What the pieces keep, a turn of the loops that create the channels keeps. -/
theorem inv_createChannel {P : Device → Prop} {ch : Chan} (hsend : ∀ o s, P s → P (send o s))
    (hcandev : ∀ f s, P s → P (modifyCandev ch f s)) (hset : ∀ d s, P s → P (setNetdev ch d s))
    (o : ProbeOutcome) {s : Device} (hs : P s) : P (createChannel o ch s) := by
  obtain ⟨bus, c⟩ := ch
  cases bus <;> exact inv_netCreate hsend hcandev hset _ _ _ hs

/-- **What the creation of a channel does** to it. -/
theorem createChannel_chan (o : ProbeOutcome) (ch : Chan) (s : Device) :
    (createChannel o ch s).chan ch = born (o.create ch) ch (s.chan ch) := by
  obtain ⟨bus, c⟩ := ch
  cases bus with
  | can =>
    refine (netCreate_chan ..).trans ?_
    by_cases hoom : (o.create (.can, c)).oom
    · simp only [born, hoom, if_true]
    · simp [born, hoom, CreateOutcome.Created, canguruCanReset, canguruSetGlobalFilter,
        guruSendData, chan, and_assoc]
  | lin =>
    refine (netCreate_chan ..).trans ?_
    by_cases hoom : (o.create (.lin, c)).oom
    · simp only [born, hoom, if_true]
    · simp [born, hoom, CreateOutcome.Created, linguruLinReset, guruSendData, chan]

theorem createChannel_chan_of_ne (o : ProbeOutcome) {ch ch' : Chan} (h : ch' ≠ ch) (s : Device) :
    (createChannel o ch s).chan ch' = s.chan ch' := by
  obtain ⟨bus, c⟩ := ch
  cases bus <;> exact netCreate_chan_of_ne h ..

/-! ### The destruction of a channel -/

/-- What the pieces keep, the destruction of a channel keeps. -/
theorem inv_netDestroy {P : Device → Prop} {ch : Chan} (hfault : ∀ s, P s → P (fault .nullNetdev s))
    (hstop : ∀ o s, P s → P (ndoStop ch o s)) (hcandev : ∀ f s, P s → P (modifyCandev ch f s))
    (hset : ∀ d s, P s → P (setNetdev ch d s)) (o : SendOutcome) {s : Device} (hs : P s) :
    P (netDestroy o ch s) := by
  unfold netDestroy
  cases s.netdev ch with
  | none => exact hfault s hs
  | some d =>
    dsimp only
    split
    case isTrue => exact hset _ _ (hcandev _ _ (hcandev _ _ (hstop o s hs)))
    case isFalse => exact hset _ _ (hcandev _ _ (hcandev _ _ hs))

/-- What the destruction of a channel makes of its entry and its candev. -/
def dead (v : Option NetDevice × Life) : Option NetDevice × Life :=
  match v.1 with
  | none => v
  | some _ => (none, v.2.unregister.free)

/-- The URB of the disable message that the destruction of a channel sends. -/
def stopUrb (o : SendOutcome) (v : Option NetDevice × Life) : List Urb :=
  match v.1 with
  | none => []
  | some d => if d.up then o.urb else []

/-- The fault of the destruction of a channel that is not there. -/
def nullFault (v : Option NetDevice × Life) : List Fault :=
  match v.1 with
  | none => [.nullNetdev]
  | some _ => []

section Destroy

variable {ch : Chan} {s : Device}

theorem netDestroy_of_none (h : s.netdev ch = none) (o : SendOutcome) :
    s.netDestroy o ch = s.fault .nullNetdev := by
  rw [netDestroy, h]

theorem netDestroy_of_some {d : NetDevice} (h : s.netdev ch = some d) (o : SendOutcome) :
    s.netDestroy o ch =
      (((if d.up then s.ndoStop ch o else s).modifyCandev ch .unregister).modifyCandev ch
        .free).setNetdev ch none := by
  rw [netDestroy, h]

end Destroy

theorem ndoStop_candev (ch : Chan) (o : SendOutcome) (s : Device) :
    (s.ndoStop ch o).candev = s.candev := rfl

theorem ndoStop_chan_of_ne {ch ch' : Chan} (h : ch' ≠ ch) (o : SendOutcome) (s : Device) :
    (s.ndoStop ch o).chan ch' = s.chan ch' := by
  rw [chan, chan, ndoStop_candev, ndoStop]
  by_cases hb : ch'.1 = ch.1
  · have hc : ch'.2 ≠ ch.2 := fun hc => h (Prod.ext hb hc)
    rw [netdev, hb, modifyNet_self, MsgNet.modify_of_ne hc, ← hb]
    rfl
  · rw [netdev, modifyNet_of_ne hb]
    rfl

/-- **What the destruction of a channel does** to it. -/
theorem netDestroy_chan (o : SendOutcome) (ch : Chan) (s : Device) :
    (s.netDestroy o ch).chan ch = dead (s.chan ch) := by
  cases hd : s.netdev ch with
  | none =>
    rw [netDestroy_of_none hd]
    simp only [dead, chan, hd]
    exact Prod.ext hd rfl
  | some d =>
    have hlife : (if d.up then s.ndoStop ch o else s).candev = s.candev := by split_ifs <;> rfl
    rw [netDestroy_of_some hd, chan, setNetdev_self]
    simp only [dead, chan, hd]
    refine Prod.ext rfl ((modifyCandev_self ..).trans ?_)
    rw [modifyCandev_self, hlife]

/-- The destruction of a channel does nothing to another. -/
theorem netDestroy_chan_of_ne (o : SendOutcome) {ch ch' : Chan} (h : ch' ≠ ch) (s : Device) :
    (s.netDestroy o ch).chan ch' = s.chan ch' :=
  inv_netDestroy (P := fun t => t.chan ch' = s.chan ch') (fun _ ht => ht)
    (fun o _ ht => (ndoStop_chan_of_ne h o _).trans ht) (fun f _ ht => (modifyCandev_chan_of_ne h f _).trans ht)
    (fun d _ ht => (setNetdev_chan_of_ne h d _).trans ht) o rfl

/-- The destruction of a channel sends at most its disable message. -/
theorem netDestroy_tx (o : SendOutcome) (ch : Chan) (s : Device) :
    (s.netDestroy o ch).usb.tx = s.usb.tx ++ stopUrb o (s.chan ch) := by
  cases hd : s.netdev ch with
  | none =>
    rw [netDestroy_of_none hd]
    simp only [stopUrb, chan, hd]
    exact (List.append_nil _).symm
  | some d =>
    rw [netDestroy_of_some hd]
    simp only [stopUrb, chan, hd]
    cases d.up with
    | true => rfl
    | false => exact (List.append_nil _).symm

/-- The destruction of a channel is faulty if the channel is not there. -/
theorem netDestroy_faults (o : SendOutcome) (ch : Chan) (s : Device) :
    (s.netDestroy o ch).guru.dev.faults = s.guru.dev.faults ++ nullFault (s.chan ch) := by
  cases hd : s.netdev ch with
  | none =>
    rw [netDestroy_of_none hd]
    simp only [nullFault, chan, hd]
    rfl
  | some d =>
    rw [netDestroy_of_some hd, setNetdev, modifyNet_faults]
    simp only [nullFault, chan, hd, List.append_nil]
    cases d.up with
    | true => exact modifyNet_faults ..
    | false => rfl

/-! ### Probe -/

/-- What the init function of a device does before it creates the channels. -/
def initBefore (k : DeviceKind) (o : ProbeOutcome) (s : Device) : Device :=
  let s := (s.guruDevInit o).2
  match k with
  | .mbus => (s.canguruMsgNetInit k.canCount).2
  | _ => s

/-- What it does after that. -/
def initAfter (k : DeviceKind) (o : ProbeOutcome) (s : Device) : Device :=
  match k with
  | .canguru => ((s.canguruMsgNetInit k.canCount).2.bootCreate o).2
  | .linguru => ((s.linguruVoltCreate o.volt).2.linguruMsgNetInit k.linCount).2
  | .mbus => (s.linguruMsgNetInit k.linCount).2

/-- **A probe that succeeds** is one loop that creates the channels of the device. -/
theorem devInit_ok {k : DeviceKind} {o : ProbeOutcome} {s : Device} (h : (s.devInit k o).1 = 0) :
    (s.devInit k o).2 = initAfter k o
    (forEach (createChannel o) k.channels (initBefore k o s)) := by
  cases k with
  | canguru =>
    rw [devInit, canguruDevInit, seq_ok h]
    rfl
  | linguru =>
    rw [devInit, linguruDevInit, seq_ok h]
    rfl
  | mbus =>
    rw [devInit, mbusDevInit, seq_ok h]
    rfl

/-- The calls of the init function of a device after `guru_dev_init`. -/
def laterCalls (k : DeviceKind) (o : ProbeOutcome) : List (Device → ℤ × Device) :=
  match k with
  | .canguru =>
    [void (forEach (createChannel o) (Bus.can.channels k.canCount)), canguruMsgNetInit k.canCount,
      bootCreate o]
  | .linguru =>
    [void (forEach (createChannel o) (Bus.lin.channels k.linCount)), linguruVoltCreate o.volt,
      linguruMsgNetInit k.linCount]
  | .mbus => [mbusDevInitCan o, mbusDevInitLin o]

theorem devInit_eq (k : DeviceKind) (o : ProbeOutcome) :
    devInit k o = seq (guruDevInit o :: laterCalls k o) := by
  cases k <;> rfl

theorem guruDevInit_of_ok {o : ProbeOutcome} {s : Device}
    (h : (canguruUsbRxInit o.rx s.usb).1 = 0) : s.guruDevInit o =
      (0, { s with
        guru := { s.guru with msgList := guruMsgStdHandlers }
        intfdata := true
        usb := (canguruUsbRxInit o.rx s.usb).2.send o.fwVer }) := by
  let t : Device := { s with guru := { s.guru with msgList := [] }, intfdata := true }
  have hrow := @seq_of_ok _ _ _ _ (usbRxInit o) [guruMsgStdInit, void (send o.fwVer)] t h
  exact hrow.trans rfl

theorem guruDevInit_of_err {o : ProbeOutcome} {s : Device}
    (h : (canguruUsbRxInit o.rx s.usb).1 ≠ 0) : s.guruDevInit o =
      ((canguruUsbRxInit o.rx s.usb).1, { s with
        guru := { s.guru with msgList := [] }
        intfdata := true
        usb := (canguruUsbRxInit o.rx s.usb).2 }) := by
  unfold guruDevInit
  exact seq_of_err (f := usbRxInit o) h

theorem guruDevInit_dev (o : ProbeOutcome) (s : Device) :
    (s.guruDevInit o).2.guru.dev = s.guru.dev ∧ (s.guruDevInit o).2.candev = s.candev := by
  by_cases h : (canguruUsbRxInit o.rx s.usb).1 = 0
  · rw [guruDevInit_of_ok h]
    exact ⟨rfl, rfl⟩
  · rw [guruDevInit_of_err h]
    exact ⟨rfl, rfl⟩

theorem guruDevInit_chan (o : ProbeOutcome) (s : Device) (ch : Chan) :
    (s.guruDevInit o).2.chan ch = s.chan ch := by
  obtain ⟨hdev, hcandev⟩ := guruDevInit_dev o s
  rw [chan, netdev, net, hdev, hcandev]
  rfl

theorem canguruMsgNetInit_chan (n : ℕ) (s : Device) (ch : Chan) :
    (s.canguruMsgNetInit n).2.chan ch = s.chan ch :=
  Prod.ext (canguruMsgNetInit_netdev n s ch) rfl

theorem linguruMsgNetInit_chan (n : ℕ) (s : Device) (ch : Chan) :
    (s.linguruMsgNetInit n).2.chan ch = s.chan ch :=
  Prod.ext (linguruMsgNetInit_netdev n s ch) rfl

theorem linguruVoltCreate_guru (o : VoltOutcome) (s : Device) :
    (s.linguruVoltCreate o).2.guru = s.guru ∧ (s.linguruVoltCreate o).2.candev = s.candev := by
  unfold linguruVoltCreate
  split_ifs <;> exact ⟨rfl, rfl⟩

theorem linguruVoltCreate_chan (o : VoltOutcome) (s : Device) (ch : Chan) :
    (s.linguruVoltCreate o).2.chan ch = s.chan ch := by
  obtain ⟨hguru, hcandev⟩ := linguruVoltCreate_guru o s
  rw [chan, netdev, net, hguru, hcandev]
  rfl

/-- **What `guru_send_data` keeps, the calls after `guru_dev_init` keep**, if it is
about the URBs and the interface data. -/
theorem inv_laterCalls {P : Device → Prop}
    (hP : ∀ s t : Device, t.usb = s.usb → t.intfdata = s.intfdata → P s → P t)
    (hsend : ∀ o s, P s → P (send o s)) (k : DeviceKind) (o : ProbeOutcome) :
    ∀ f ∈ laterCalls k o, ∀ s, P s → P (f s).2 := by
  have hloop : ∀ (l : List Chan) (s : Device), P s →
      P (forEach (createChannel o) l s) := fun l s hs =>
    inv_forEach (fun ch _ s hs =>
      inv_createChannel hsend (fun _ s => hP s _ rfl rfl) (fun _ s => hP s _ rfl rfl) o hs) hs
  have hcan : ∀ n s, P s → P (canguruMsgNetInit n s).2 := fun n s => hP s _ rfl rfl
  have hlin : ∀ n s, P s → P (linguruMsgNetInit n s).2 := fun n s => hP s _ rfl rfl
  have hboot : ∀ s, P s → P (bootCreate o s).2 := fun s => hP s _ rfl rfl
  have hvolt : ∀ s, P s → P (linguruVoltCreate o.volt s).2 := by
    intro s
    refine hP s _ ?_ ?_ <;> · rw [linguruVoltCreate]; split_ifs <;> rfl
  cases k with
  | canguru => simpa only [laterCalls, List.forall_mem_cons] using ⟨hloop _, hcan _, hboot, by simp⟩
  | linguru => simpa only [laterCalls, List.forall_mem_cons] using ⟨hloop _, hvolt, hlin _, by simp⟩
  | mbus =>
    have hcans : ∀ s, P s → P (mbusDevInitCan o s).2 := fun s hs => inv_seq (by
      simpa only [List.forall_mem_cons] using ⟨hcan _, hloop _, by simp⟩) hs
    have hlins : ∀ s, P s → P (mbusDevInitLin o s).2 := fun s hs => inv_seq (by
      simpa only [List.forall_mem_cons] using ⟨hloop _, hlin _, by simp⟩) hs
    simpa only [laterCalls, List.forall_mem_cons] using ⟨hcans, hlins, by simp⟩

end Device

/-- The calls after the receive URBs whose results are checked all succeed. -/
def ProbeOutcome.Checked (o : ProbeOutcome) (k : DeviceKind) (boots : GuruBoots) : Prop :=
  match k with
  | .canguru =>
    boots.HasFree ∧ o.boot.cdevAdd = 0 ∧ o.boot.deviceCreate = 0 ∧
      o.boot.serial.length = GURU_SN_SIZE
  | .linguru => o.volt.oom = false ∧ o.volt.register = 0
  | .mbus => True

namespace Device

variable {o : ProbeOutcome} {s : Device}

/-- The loops that create the channels leave the boot devices alone. -/
theorem createChannels_boots (o : ProbeOutcome) (l : List Chan) (s : Device) :
    (forEach (createChannel o) l s).boots = s.boots :=
  frame_forEach boots (fun _ _ t =>
    inv_createChannel (P := fun t' => t'.boots = t.boots) (fun _ _ h => h) (fun _ _ h => h) (fun _ _ h => h) o rfl) s

theorem linguruVoltCreate_eq_zero {o : VoltOutcome} :
    (s.linguruVoltCreate o).1 = 0 ↔ o.oom = false ∧ o.register = 0 := by
  unfold linguruVoltCreate
  cases o.oom with
  | true => simp [ENOMEM]
  | false => by_cases hr : o.register = 0 <;> simp [hr]

/-- **When a probe succeeds**, if every receive URB can be set up. -/
theorem devInit_eq_zero {k : DeviceKind} (hrx : ∀ i < GURU_MAX_URBS, (o.rx i).err = 0) :
    (s.devInit k o).1 = 0 ↔ o.Checked k s.boots := by
  have hring : (canguruUsbRxInit o.rx s.usb).1 = 0 := by rw [canguruUsbRxInit_ok hrx]
  have hdev := guruDevInit_of_ok hring
  rw [devInit_eq, seq_of_ok (congrArg Prod.fst hdev)]
  cases k with
  | canguru =>
    rw [laterCalls, seq_void, seq_of_ok rfl, seq_singleton]
    refine GuruBoots.guruBootCreate_eq_zero.trans ?_
    have hboots :=
      createChannels_boots o (Bus.can.channels DeviceKind.canguru.canCount) (s.guruDevInit o).2
    rw [hdev] at hboots
    rw [ProbeOutcome.Checked, ← hboots, hdev]
    rfl
  | linguru =>
    rw [laterCalls, seq_void, ProbeOutcome.Checked]
    by_cases hv : o.volt.oom = false ∧ o.volt.register = 0
    · rw [seq_of_ok (linguruVoltCreate_eq_zero.mpr hv), seq_singleton, iff_true_right hv]
      rfl
    · have he : ∀ s, (linguruVoltCreate o.volt s).1 ≠ 0 :=
        fun s => mt linguruVoltCreate_eq_zero.mp hv
      rw [seq_of_err (he _)]
      exact iff_of_false (he _) hv
  | mbus =>
    refine iff_of_true (seq_eq_zero (fun f hf s => ?_) _) trivial
    simp only [laterCalls, List.mem_cons, List.not_mem_nil, or_false] at hf
    rcases hf with rfl | rfl <;>
      · refine seq_eq_zero (fun f hf s => ?_) s
        simp only [List.mem_cons, List.not_mem_nil, or_false] at hf
        rcases hf with rfl | rfl <;> rfl

/-- The ring that a failing `guru_dev_init` leaves is what the probe leaves. -/
theorem devInit_of_err {k : DeviceKind} {m : ℕ} (hok : ∀ i < m, (o.rx i).err = 0)
    (hm : m < GURU_MAX_URBS) (he : (o.rx m).err ≠ 0) :
    s.devInit k o =
      ((o.rx m).rxErr, { s with
        guru := { s.guru with msgList := [] }
        intfdata := true
        usb := { s.usb with rx := s.usb.rx ++ List.replicate m .submitted ++ (o.rx m).urb } }) := by
  have hring := canguruUsbRxInit_err hok hm he s.usb
  have hrx : (o.rx m).rxErr ≠ 0 := mt SendOutcome.rxErr_eq_zero.mp he
  have hdev :=
    guruDevInit_of_err (s := s) (show (canguruUsbRxInit o.rx s.usb).1 ≠ 0 by rw [hring]; exact hrx)
  rw [hring] at hdev
  rw [devInit_eq, seq_of_err (by rw [hdev]; exact hrx), hdev]

/-- A probe that succeeds sets up every receive URB. -/
theorem rx_of_devInit {k : DeviceKind} (h : (s.devInit k o).1 = 0) :
    ∀ i < GURU_MAX_URBS, (o.rx i).err = 0 := by
  rcases rx_cases o.rx with hok | ⟨m, hm, hok, he⟩
  · exact hok
  · rw [devInit_of_err hok hm he] at h
    exact absurd h (mt SendOutcome.rxErr_eq_zero.mp he)

/-- Once the ring is full it stays as it is. -/
theorem devInit_rx (hok : ∀ i < GURU_MAX_URBS, (o.rx i).err = 0) (k : DeviceKind) (s : Device) :
    (s.devInit k o).2.usb.rx = s.usb.rx ++ List.replicate GURU_MAX_URBS .submitted := by
  have hring : canguruUsbRxInit o.rx s.usb = _ := canguruUsbRxInit_ok hok s.usb
  have hdev := guruDevInit_of_ok (s := s) (congrArg Prod.fst hring)
  rw [hring] at hdev
  rw [devInit_eq, seq_of_ok (congrArg Prod.fst hdev)]
  refine @inv_seq _ _ _ _ _ _ (fun t : Device => t.usb.rx = _)
    (inv_laterCalls (fun s t hu _ hs => ?_) (fun _ _ hs => hs) k o) ?_
  · rw [hu, hs]
  · rw [hdev]
    rfl

/-! ### Disconnect -/

section Deinit

variable (k : DeviceKind) (o : Chan → SendOutcome) (s : Device)

/-- What `dev_deinit` does before it destroys the channels. -/
def deinitBefore (s : Device) : Device :=
  match k with
  | .canguru => { s with boots := s.boots.guruBootDestroy s.boot }
  | _ => s

/-- What it does after that. -/
def deinitAfter (s : Device) : Device :=
  match k with
  | .linguru => s.linguruVoltDestroy
  | _ => s

/-- **A disconnect** is one loop that destroys the channels of the device. -/
theorem devDeinit_eq :
    s.devDeinit k o =
      deinitAfter k (forEach (fun ch => netDestroy (o ch) ch) k.channels (deinitBefore k s)) := by
  cases k <;> rfl

theorem channels_nodup : k.channels.Nodup := by cases k <;> decide

theorem deinitBefore_chan (ch : Chan) : (deinitBefore k s).chan ch = s.chan ch := by cases k <;> rfl

theorem deinitAfter_chan (ch : Chan) : (deinitAfter k s).chan ch = s.chan ch := by cases k <;> rfl

theorem deinitBefore_usb : (deinitBefore k s).usb = s.usb := by cases k <;> rfl

theorem deinitAfter_usb : (deinitAfter k s).usb = s.usb := by cases k <;> rfl

theorem deinitBefore_faults : (deinitBefore k s).guru.dev.faults = s.guru.dev.faults := by
  cases k <;> rfl

theorem deinitAfter_faults : (deinitAfter k s).guru.dev.faults = s.guru.dev.faults := by
  cases k <;> rfl

/-- What `dev_deinit` does to a channel of the device. -/
theorem devDeinit_chan {ch : Chan} (hch : ch ∈ k.channels) :
    (s.devDeinit k o).chan ch = dead (s.chan ch) := by
  rw [devDeinit_eq, deinitAfter_chan, ← deinitBefore_chan k s]
  exact view_forEach (t := fun _ => dead) (fun ch s => netDestroy_chan (o ch) ch s)
    (fun _ _ s h => netDestroy_chan_of_ne _ h s) (channels_nodup k) hch _

theorem devDeinit_chan_of_not_mem {ch : Chan} (hch : ch ∉ k.channels) :
    (s.devDeinit k o).chan ch = s.chan ch := by
  rw [devDeinit_eq, deinitAfter_chan, ← deinitBefore_chan k s]
  exact view_forEach_of_not_mem (fun _ _ s h => netDestroy_chan_of_ne _ h s) hch _

/-- The messages it sends disable the channels that are up. -/
theorem devDeinit_tx :
    (s.devDeinit k o).usb.tx = s.usb.tx ++ k.channels.flatMap fun ch =>
      stopUrb (o ch) (s.chan ch) := by
  have h := @log_forEach _ _ _ _ _ chan _ (fun s : Device => s.usb.tx) (fun ch => stopUrb (o ch))
    (fun ch s => netDestroy_tx (o ch) ch s) (fun _ _ s h => netDestroy_chan_of_ne _ h s)
      (channels_nodup k)
    (deinitBefore k s)
  rw [devDeinit_eq, deinitAfter_usb, h, deinitBefore_usb]
  exact congrArg _ (List.flatMap_congr fun ch _ => by rw [deinitBefore_chan])

theorem devDeinit_faults :
    (s.devDeinit k o).guru.dev.faults =
      s.guru.dev.faults ++ k.channels.flatMap fun ch => nullFault (s.chan ch) := by
  have h := @log_forEach _ _ _ _ _ chan _ (fun s : Device => s.guru.dev.faults) (fun _ => nullFault)
    (fun ch s => netDestroy_faults (o ch) ch s) (fun _ _ s h => netDestroy_chan_of_ne _ h s)
      (channels_nodup k)
    (deinitBefore k s)
  rw [devDeinit_eq, deinitAfter_faults, h, deinitBefore_faults]
  exact congrArg _ (List.flatMap_congr fun ch _ => by rw [deinitBefore_chan])

theorem devDeinit_rx : (s.devDeinit k o).usb.rx = s.usb.rx := by
  have h :=
    frame_forEach (fun s : Device => s.usb.rx) (l := k.channels)
      (g := fun ch => netDestroy (o ch) ch)
    (fun ch _ t => inv_netDestroy (P := fun t' => t'.usb.rx = t.usb.rx) (fun _ h => h) (fun _ _ h => h)
      (fun _ _ h => h) (fun _ _ h => h) (o ch) rfl) (deinitBefore k s)
  rw [devDeinit_eq, deinitAfter_usb, h, deinitBefore_usb]

theorem devDeinit_intfdata : (s.devDeinit k o).intfdata = s.intfdata := by
  have h :=
    frame_forEach (fun s : Device => s.intfdata) (l := k.channels)
      (g := fun ch => netDestroy (o ch) ch)
    (fun ch _ t => inv_netDestroy (P := fun t' => t'.intfdata = t.intfdata) (fun _ h => h) (fun _ _ h => h)
      (fun _ _ h => h) (fun _ _ h => h) (o ch) rfl) (deinitBefore k s)
  rw [devDeinit_eq]
  exact (show (deinitAfter k _).intfdata = _ by cases k <;>
    rfl).trans (h.trans (by cases k <;> rfl))

end Deinit

end Device

end CanGuru
