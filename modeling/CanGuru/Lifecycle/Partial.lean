import CanGuru.Lifecycle.Run
import CanGuru.Receive.Defined

/-!
# A device with channels missing

The init functions drop what the creation of a channel returns, so a device may be
probed with channels missing: their entries in the table are `NULL`. The handlers of
received frames and the destruction of the channels index the table without looking,
and nobody frees the candev of a channel that was not created.

## The model

Any run of a device after any probe that succeeded, of any kind, with any channels
missing for any reason, to the end of `guru_dev_deinit`.

## What is proved

`safe_iff` — a device is handled safely if and only if none of its channels is
missing.
-/

namespace CanGuru

open Calls Machine

namespace Drv

theorem kept_readBulkCallback (alloc : Bool) (status : ℤ) (actualLength : UInt32) (buf : List UInt8)
    (guru : Guru) : guru.dev.Kept
      (canguruReadBulkCallback (runCallback alloc) (Lifecycle.bulkUrb status actualLength buf) guru).1.dev := by
  by_cases h0 : status = 0
  · rw [readBulkCallback_ok _ _ h0 rfl]
    exact kept_processMsgList ..
  · rw [canguruReadBulkCallback,
      if_neg (show (Lifecycle.bulkUrb status actualLength buf).status ≠ 0 from h0)]
    split <;> exact .refl _

end Drv

namespace Lifecycle

open Device

/-! ### The steps -/

variable {k : DeviceKind} {o : ProbeOutcome}

/-- No channel is missing. -/
def AllCreated (k : DeviceKind) (o : ProbeOutcome) : Prop :=
  ∀ ch ∈ k.channels, (o.create ch).Created ch.1

/-- **A device was handled safely.** -/
structure Safe (s : Device) : Prop where
  /-- No handler and no destruction was applied to a `NULL` net device. -/
  null : Fault.nullNetdev ∉ s.guru.dev.faults
  /-- Every candev that was allocated was freed, once. -/
  freed : ∀ ch, (s.candev ch).frees = (s.candev ch).allocs ∧ (s.candev ch).allocs ≤ 1
  /-- Only a candev that was registered was unregistered. -/
  unregistered : ∀ ch, (s.candev ch).unregisters ≤ (s.candev ch).registers

/-- A step before `dev_deinit` keeps the candevs and the table. -/
theorem stepDev_kept {s t : Device} {e : Event} (h : stepDev k s e = some t)
    (he : e.isDeinit = false) : t.candev = s.candev ∧ s.guru.dev.Kept t.guru.dev := by
  cases e with
  | rxComplete i status actualLength buf alloc err =>
    rw [(stepDev_rxComplete h).2]
    exact ⟨rfl, Drv.kept_readBulkCallback ..⟩
  | txComplete i status =>
    rw [stepDev_txComplete h]
    exact ⟨rfl, .refl _⟩
  | send o =>
    rw [← Option.some.inj h]
    exact ⟨rfl, .refl _⟩
  | opened ch openErr conf o =>
    obtain ⟨d, d', -, rfl⟩ := stepDev_opened h
    exact ⟨rfl, .modifyNet (fun m => .modify m _ _) ch.1 _⟩
  | stop ch o =>
    rw [stepDev_stop h]
    exact ⟨rfl, .modifyNet (fun m => .modify m _ _) ch.1 _⟩
  | xmit ch skb o =>
    rw [stepDev_xmit h]
    exact ⟨rfl, .modifyNet (fun m => m.sameTable_startXmit ..) ch.1 _⟩
  | kill =>
    rw [(stepDev_kill h).2]
    exact ⟨rfl, .refl _⟩
  | deinit o => cases he

/-- The channels of a device that was probed, until `dev_deinit`. -/
structure Table (k : DeviceKind) (o : ProbeOutcome) (s : Device) : Prop where
  /-- The entry of a channel is set if it was created. -/
  entry : ∀ ch ∈ k.channels, (s.netdev ch).isSome = decide ((o.create ch).Created ch.1)
  /-- The candev of a channel is as its creation left it. -/
  life : ∀ ch ∈ k.channels, s.candev ch = (born (o.create ch) ch (none, .none)).2
  /-- There are no others. -/
  other : ∀ ch ∉ k.channels, s.candev ch = .none
  /-- The message layers have the channels of the device. -/
  ifaceCount : ∀ bus, (s.net bus).ifaceCount = k.count bus
  /-- If no channel is missing, none was missed. -/
  faults : AllCreated k o → .nullNetdev ∉ s.guru.dev.faults

theorem mem_channels {ch : Chan} : ch ∈ k.channels ↔ ch.2 < k.count ch.1 := by
  obtain ⟨bus, c⟩ := ch
  cases bus <;> simp [DeviceKind.channels, Bus.channels, DeviceKind.count]

/-- If no channel is missing, the message layers are full. -/
theorem Table.full {s : Device} (h : Table k o s) (hall : AllCreated k o) (bus : Bus) :
    (s.net bus).Full := by
  intro c hc
  rw [h.ifaceCount] at hc
  have hch : (bus, c) ∈ k.channels := mem_channels.mpr hc
  exact (h.entry _ hch).trans (decide_eq_true (hall _ hch))

/-- **A step before `dev_deinit` keeps the channels.** -/
theorem Table.step {s t : Device} {e : Event} (h : Table k o s) (hs : stepDev k s e = some t)
    (he : e.isDeinit = false) : Table k o t := by
  obtain ⟨hlife, hkept⟩ := stepDev_kept hs he
  exact
    { entry := fun ch hch => ((hkept.table ch.1).netdev ch.2).trans (h.entry ch hch)
      life := fun ch hch => (congrFun hlife ch).trans (h.life ch hch)
      other := fun ch hch => (congrFun hlife ch).trans (h.other ch hch)
      ifaceCount := fun bus => (hkept.table bus).ifaceCount.trans (h.ifaceCount bus)
      faults := fun hall => hkept.faults (h.full hall) (h.faults hall) }

/-- What the creation of a channel that was never created leaves. -/
theorem born_of_created {ch : Chan} (h : (o.create ch).Created ch.1) :
    born (o.create ch) ch (none, .none) = (some (.create (UInt8.ofNat ch.2)), ⟨1, 1, 0, 0⟩) := by
  rw [born, if_neg (Bool.eq_false_iff.mp h.1), if_pos h]
  rfl

theorem born_isSome (ch : Chan) :
    (born (o.create ch) ch (none, .none)).1.isSome = decide ((o.create ch).Created ch.1) := by
  by_cases h : (o.create ch).Created ch.1
  · rw [born_of_created h, decide_eq_true h]
    rfl
  · rw [born, decide_eq_false h, if_neg h]
    split <;> rfl

/-- **`dev_deinit` is safe** exactly if no channel is missing. -/
theorem Table.deinit {s : Device} (h : Table k o s) (off : Chan → SendOutcome) :
    Safe (s.devDeinit k off) ↔ AllCreated k o := by
  constructor
  · intro hsafe ch hch
    by_contra hn
    have hnone : s.netdev ch = none := by
      have := h.entry ch hch
      rw [decide_eq_false hn] at this
      exact Option.isNone_iff_eq_none.mp (Option.isSome_eq_false_iff.mp this)
    apply hsafe.null
    rw [devDeinit_faults]
    refine List.mem_append_right _ (List.mem_flatMap.mpr ⟨ch, hch, ?_⟩)
    rw [nullFault, chan, hnone]
    exact List.mem_singleton_self _
  · intro hall
    have hsome : ∀ ch ∈ k.channels, ∃ d, s.chan ch = (some d, ⟨1, 1, 0, 0⟩) := by
      intro ch hch
      have he := h.entry ch hch
      rw [decide_eq_true (hall ch hch)] at he
      obtain ⟨d, hd⟩ := Option.isSome_iff_exists.mp he
      exact ⟨d, by rw [chan, hd, h.life ch hch, born_of_created (hall ch hch)]⟩
    have hlife : ∀ ch, (s.devDeinit k off).candev ch = ⟨1, 1, 1, 1⟩ ∨
        (s.devDeinit k off).candev ch = .none := by
      intro ch
      by_cases hch : ch ∈ k.channels
      · obtain ⟨d, hd⟩ := hsome ch hch
        have hdead := devDeinit_chan k off s hch
        rw [hd] at hdead
        exact .inl (congrArg Prod.snd hdead)
      · exact .inr ((congrArg Prod.snd (devDeinit_chan_of_not_mem k off s hch)).trans (h.other ch hch))
    refine ⟨?_, fun ch => ?_, fun ch => ?_⟩
    · rw [devDeinit_faults]
      intro hm
      rcases List.mem_append.mp hm with hm | hm
      · exact h.faults hall hm
      · obtain ⟨ch, hch, hm⟩ := List.mem_flatMap.mp hm
        obtain ⟨d, hd⟩ := hsome ch hch
        rw [hd] at hm
        cases hm
    · rcases hlife ch with hl | hl <;> simp [hl, Life.none]
    · rcases hlife ch with hl | hl <;> simp [hl, Life.none]

/-! ### The first state -/

theorem kzalloc_chan (boots : GuruBoots) (b : ℕ) (ch : Chan) :
    (kzalloc boots b).chan ch = (none, .none) := by
  obtain ⟨bus, c⟩ := ch
  cases bus <;> rfl

/-- What comes before the creation of the channels does nothing to them. -/
theorem initBefore_chan (k : DeviceKind) (o : ProbeOutcome) (s : Device) (ch : Chan) :
    (initBefore k o s).chan ch = s.chan ch := by
  cases k with
  | mbus => exact (canguruMsgNetInit_chan ..).trans (guruDevInit_chan ..)
  | _ => exact guruDevInit_chan ..

theorem initAfter_chan (k : DeviceKind) (o : ProbeOutcome) (s : Device) (ch : Chan) :
    (initAfter k o s).chan ch = s.chan ch := by
  cases k with
  | canguru => exact canguruMsgNetInit_chan ..
  | linguru => exact (linguruMsgNetInit_chan ..).trans (linguruVoltCreate_chan ..)
  | mbus => exact linguruMsgNetInit_chan ..

theorem initBefore_faults (k : DeviceKind) (o : ProbeOutcome) (s : Device) :
    (initBefore k o s).guru.dev.faults = s.guru.dev.faults := by
  have hdev := congrArg Drv.faults (guruDevInit_dev o s).1
  cases k <;> exact Eq.trans rfl hdev

theorem initAfter_faults (k : DeviceKind) (o : ProbeOutcome) (s : Device) :
    (initAfter k o s).guru.dev.faults = s.guru.dev.faults := by
  cases k with
  | linguru =>
    rw [← (linguruVoltCreate_guru o.volt s).1]
    rfl
  | _ => rfl

theorem createChannels_faults (o : ProbeOutcome) (l : List Chan) (s : Device) :
    (forEach (createChannel o) l s).guru.dev.faults = s.guru.dev.faults :=
  frame_forEach (fun s : Device => s.guru.dev.faults) (fun _ _ t =>
    inv_createChannel (P := fun t' => t'.guru.dev.faults = t.guru.dev.faults) (fun _ _ h => h)
      (fun _ _ h => h)
      (fun _ _ h => (setNetdev_faults ..).trans h) o rfl) s

theorem createChannels_ifaceCount (o : ProbeOutcome) (l : List Chan) (s : Device) (bus : Bus) :
    ((forEach (createChannel o) l s).net bus).ifaceCount = (s.net bus).ifaceCount :=
  frame_forEach (fun s : Device => (s.net bus).ifaceCount) (fun _ _ t =>
    inv_createChannel (P := fun t' => (t'.net bus).ifaceCount = (t.net bus).ifaceCount)
      (fun _ _ h => h)
      (fun _ _ h => h) (fun _ _ h => (setNetdev_ifaceCount ..).trans h) o rfl) s

theorem createChannels_msgList (o : ProbeOutcome) (l : List Chan) (s : Device) :
    (forEach (createChannel o) l s).guru.msgList = s.guru.msgList :=
  frame_forEach (fun s : Device => s.guru.msgList) (fun _ _ t =>
    inv_createChannel (P := fun t' => t'.guru.msgList = t.guru.msgList) (fun _ _ h => h)
      (fun _ _ h => h)
      (fun _ _ h => (setNetdev_msgList ..).trans h) o rfl) s

/-- A probed device has the handlers of its kind. -/
theorem start_msgList {boots : GuruBoots} {b : ℕ} (hinit : ((kzalloc boots b).devInit k o).1 = 0) :
    (start k o boots b).dev.guru.msgList = k.msgList := by
  have hloop := createChannels_msgList o k.channels (initBefore k o (kzalloc boots b))
  have hring := canguruUsbRxInit_ok (rx_of_devInit hinit) (kzalloc boots b).usb
  have hstd : (guruDevInit o (kzalloc boots b)).2.guru.msgList = guruMsgStdHandlers := by
    rw [guruDevInit_of_ok (congrArg Prod.fst hring)]
  rw [start, devInit_ok hinit]
  cases k with
  | canguru => exact congrArg (· ++ canguruMsgNetHandlers) (hloop.trans hstd)
  | linguru =>
    have hguru := (linguruVoltCreate_guru o.volt
      (forEach (createChannel o) DeviceKind.linguru.channels (initBefore .linguru o (kzalloc boots b)))).1
    exact congrArg (· ++ linguruMsgNetHandlers)
      ((congrArg (fun g : Guru => g.msgList) hguru).trans (hloop.trans hstd))
  | mbus =>
    have hbefore : (initBefore .mbus o (kzalloc boots b)).guru.msgList = guruMsgStdHandlers ++
        canguruMsgNetHandlers :=
      congrArg (· ++ canguruMsgNetHandlers) hstd
    exact (congrArg (· ++ linguruMsgNetHandlers) (hloop.trans hbefore)).trans (List.append_assoc ..)

/-- The message layers of a probed device have its channels. -/
theorem start_ifaceCount {boots : GuruBoots} {b : ℕ} (hinit : ((kzalloc boots b).devInit k o).1 = 0)
    (bus : Bus) : ((start k o boots b).dev.net bus).ifaceCount = k.count bus := by
  have hdev := (guruDevInit_dev o (kzalloc boots b)).1
  have hloop := createChannels_ifaceCount o k.channels (initBefore k o (kzalloc boots b))
  rw [start, devInit_ok hinit]
  cases k with
  | canguru =>
    cases bus with
    | can => rfl
    | lin => exact (hloop .lin).trans (congrArg (fun d : Drv => d.lin.ifaceCount) hdev)
  | linguru =>
    cases bus with
    | can =>
      have hguru := (linguruVoltCreate_guru o.volt
        (forEach (createChannel o) DeviceKind.linguru.channels (initBefore .linguru o (kzalloc boots b)))).1
      exact (congrArg (fun g : Guru => g.dev.can.ifaceCount) hguru).trans
        ((hloop .can).trans (congrArg (fun d : Drv => d.can.ifaceCount) hdev))
    | lin => rfl
  | mbus =>
    cases bus with
    | can => exact hloop .can
    | lin => rfl

/-- **After a probe the channels are as their creation left them.** -/
theorem table_start {boots : GuruBoots} {b : ℕ} (hinit : ((kzalloc boots b).devInit k o).1 = 0) :
    Table k o (start k o boots b).dev := by
  have hchan : ∀ ch ∈ k.channels,
      (start k o boots b).dev.chan ch = born (o.create ch) ch (none, .none) := by
    intro ch hch
    rw [start, devInit_ok hinit, initAfter_chan]
    refine (view_forEach (t := fun ch => born (o.create ch) ch) (createChannel_chan o)
      (fun _ _ s h => createChannel_chan_of_ne o h s) (channels_nodup k) hch _).trans ?_
    rw [initBefore_chan, kzalloc_chan]
  refine ⟨fun ch hch => ?_, fun ch hch => congrArg Prod.snd (hchan ch hch), fun ch hch => ?_,
    start_ifaceCount hinit, fun _ => ?_⟩
  · exact (congrArg (fun v => v.1.isSome) (hchan ch hch)).trans (born_isSome ch)
  · have hother : (start k o boots b).dev.chan ch = (none, .none) := by
      rw [start, devInit_ok hinit, initAfter_chan]
      refine (view_forEach_of_not_mem (fun _ _ s h => createChannel_chan_of_ne o h s) hch _).trans ?_
      rw [initBefore_chan, kzalloc_chan]
    exact congrArg Prod.snd hother
  · rw [start, devInit_ok hinit, initAfter_faults, createChannels_faults, initBefore_faults]
    exact List.not_mem_nil

/-! ### Runs -/

/-- What a run keeps. -/
structure Inv (k : DeviceKind) (o : ProbeOutcome) (s : St) : Prop where
  /-- Until `dev_deinit`. -/
  table : s.gone = false → Table k o s.dev
  /-- After it. -/
  safe : s.gone = true → (Safe s.dev ↔ AllCreated k o)

theorem Inv.step {s t : St} {e : Event} (h : Inv k o s) (hs : step k s e = some t) : Inv k o t := by
  obtain ⟨hgone, hd, ht⟩ := step_eq_some.mp hs
  have htable := h.table hgone
  refine ⟨fun hn => htable.step hd (ht ▸ hn), fun hy => ?_⟩
  rw [ht] at hy
  cases e with
  | deinit off =>
    rw [(stepDev_deinit hd).2]
    exact htable.deinit off
  | _ => cases hy

/-- **A device is handled safely to the end of its disconnect** exactly if none of its
channels is missing. -/
theorem safe_iff {boots : GuruBoots} {b : ℕ} (hinit : ((kzalloc boots b).devInit k o).1 = 0)
    {es : List Event} {t : St} (hr : run (step k) (start k o boots b) es = some t)
    (hgone : t.gone = true) : Safe t.dev ↔ AllCreated k o := by
  have hstart : Inv k o (start k o boots b) := ⟨fun _ => table_start hinit, fun h => by cases h⟩
  exact (inv_of_run (fun _ _ _ h hs => h.step hs) hstart hr).safe hgone

/-- A CAN device with both its channels. -/
theorem safe_ok :
    ∃ t, run (step .canguru) (start .canguru .ok .empty 0)
        [.opened (.can, 0) 0 .ok .ok, .rxComplete 0 0 128 [] true 0, .kill, .deinit fun _ => .ok] =
          some t ∧
      Safe t.dev := by
  have hinit : ((kzalloc .empty 0).devInit .canguru .ok).1 = 0 := by decide
  obtain ⟨t, ht, hgone⟩ : ∃ t, run (step .canguru) (start .canguru .ok .empty 0)
      [.opened (.can, 0) 0 .ok .ok, .rxComplete 0 0 128 [] true 0, .kill, .deinit fun _ => .ok] =
        some t ∧
        t.gone = true := ⟨_, rfl, rfl⟩
  exact ⟨t, ht, (safe_iff hinit ht hgone).mpr fun _ _ => ⟨rfl, rfl, fun _ => rfl, rfl⟩⟩

/-- Every call succeeds, but for the allocation of the second CAN channel. -/
def secondMissing : ProbeOutcome :=
  { ProbeOutcome.ok with create := fun ch => ⟨ch = (.can, 1), .ok, .ok, 0⟩ }

/-- A CAN device whose second channel was not allocated is probed, and when it is
unplugged a `NULL` net device is destroyed. -/
theorem not_safe_secondMissing :
    ((kzalloc .empty 0).devInit .canguru secondMissing).1 = 0 ∧
      ∃ t, run (step .canguru) (start .canguru secondMissing .empty 0) [.kill,
        .deinit fun _ => .ok] = some t ∧ t.gone = true ∧ ¬ Safe t.dev :=
  ⟨by decide, _, rfl, rfl, fun h => h.null (by decide)⟩

end Lifecycle

end CanGuru
