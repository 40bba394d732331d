import CanGuru.Lifecycle.FailedProbe
import CanGuru.Lifecycle.Partial
import CanGuru.Lifecycle.Disconnect

/-!
# Freeing a device

The driver core frees the memory of a device when its probe has failed, and when
`guru_usb_disconnect` has returned. What is still at work then goes on with memory that is not
the driver's any more: the handlers of the URBs in flight, and the operations of the net devices
that are registered.

## What is proved

* `probe_active_iff` — a probe that fails leaves nothing at work exactly if it fails at the first
  receive URB.
* `within_iff` — a step of a probed device does nothing undefined, and leaves nothing at work
  if the device is freed after it, exactly if a message it receives is handled within bounds,
  and at a disconnect no URB is in flight, no channel is missing and none sends a message.
-/

namespace CanGuru

open Calls Machine

namespace Device

/-- **A device is at work**: one of its URBs is in flight, or a net device is there. -/
def active (k : DeviceKind) (s : Device) : Bool :=
  (s.usb.rx ++ s.usb.tx).any Urb.inFlight || k.channels.any fun ch => (s.netdev ch).isSome

theorem active_eq_false {k : DeviceKind} {s : Device} :
    s.active k = false ↔ s.usb.Idle ∧ ∀ ch ∈ k.channels, s.netdev ch = none := by
  simp only [active, Bool.or_eq_false_iff, List.any_eq_false, Bool.not_eq_true,
    Option.isSome_eq_false_iff, Option.isNone_iff_eq_none]
  rfl

end Device

namespace Lifecycle

open Device FailedProbe

variable {k : DeviceKind} {o : ProbeOutcome}

/-! ### A probe that fails -/

/-- **A probe that fails leaves nothing at work** exactly if it is unwound. -/
theorem probe_active_iff (k : DeviceKind) (o : ProbeOutcome) (boots : GuruBoots) (b : ℕ) :
    (((kzalloc boots b).devInit k o).1 ≠ 0 → ((kzalloc boots b).devInit k o).2.active k = false) ↔
      Unwound k o boots := by
  constructor
  · intro h
    by_contra hn
    obtain ⟨hfail, hu⟩ := submitted_of_not_unwound b hn
    have hidle := (active_eq_false.mp (h hfail)).1 _ (List.mem_append_left _ hu)
    cases hidle
  · rintro (h0 | ⟨hok, hc⟩) hfail
    · have hdev :=
        devInit_of_err (k := k) (s := kzalloc boots b) (fun i hi => absurd hi (Nat.not_lt_zero i))
        (by decide) h0
      rw [hdev, active_eq_false]
      refine ⟨fun u hu => ?_, fun ch _ => congrArg Prod.fst (kzalloc_chan boots b ch)⟩
      rw [SendOutcome.urb_of_err h0 u (by simpa [kzalloc] using hu)]
      rfl
    · exact absurd ((devInit_eq_zero hok).mpr hc) hfail

/-! ### The handlers and the faults of a probed device -/

/-- A probe registers the handlers of the device and notes no fault. -/
theorem start_guru {boots : GuruBoots} {b : ℕ} (hinit : ((kzalloc boots b).devInit k o).1 = 0) :
    (start k o boots b).dev.guru.msgList = k.msgList ∧
    (start k o boots b).dev.guru.dev.faults = [] := by
  refine ⟨start_msgList hinit, ?_⟩
  rw [start, devInit_ok hinit, initAfter_faults, createChannels_faults, initBefore_faults]
  rfl

/-- The steps before `dev_deinit` that receive nothing note no fault. -/
theorem stepDev_faults {s t : Device} {e : Event} (h : stepDev k s e = some t)
    (hd : e.isDeinit = false)
    (hr : ∀ i status actualLength buf alloc err,
      e ≠ .rxComplete i status actualLength buf alloc err) :
    t.guru.dev.faults = s.guru.dev.faults := by
  cases e with
  | rxComplete => exact (hr _ _ _ _ _ _ rfl).elim
  | txComplete => rw [stepDev_txComplete h]
  | send => cases h; rfl
  | opened =>
    obtain ⟨d, d', -, rfl⟩ := stepDev_opened h
    exact modifyNet_faults ..
  | stop => rw [stepDev_stop h]; exact modifyNet_faults ..
  | xmit => rw [stepDev_xmit h]; exact modifyNet_faults ..
  | kill => rw [(stepDev_kill h).2]; rfl
  | deinit => cases hd

theorem devDeinit_msgList (k : DeviceKind) (o : Chan → SendOutcome) (s : Device) :
    (s.devDeinit k o).guru.msgList = s.guru.msgList := by
  have hloop :=
    frame_forEach (fun s : Device => s.guru.msgList) (l := k.channels)
      (g := fun ch => netDestroy (o ch) ch)
    (fun ch _ t => inv_netDestroy (P := fun t' => t'.guru.msgList = t.guru.msgList) (fun _ h => h)
      (fun _ _ h => (modifyNet_msgList ..).trans h) (fun _ _ h => h)
        (fun _ _ h => (setNetdev_msgList ..).trans h) (o ch)
      rfl) (deinitBefore k s)
  rw [devDeinit_eq]
  cases k <;> exact hloop

theorem stepDev_msgList {s t : Device} {e : Event} (h : stepDev k s e = some t) :
    t.guru.msgList = s.guru.msgList := by
  cases e with
  | rxComplete i status actualLength buf alloc err =>
    rw [(stepDev_rxComplete h).2]
    by_cases h0 : status = 0
    · rw [readBulkCallback_ok _ _ h0 rfl]
      rw [processMsgList_eq]
    · rw [canguruReadBulkCallback,
        if_neg (show (bulkUrb status actualLength buf).status ≠ 0 from h0)]
      split <;> rfl
  | txComplete => rw [stepDev_txComplete h]
  | send => cases h; rfl
  | opened =>
    obtain ⟨d, d', -, rfl⟩ := stepDev_opened h
    exact modifyNet_msgList ..
  | stop => rw [stepDev_stop h]; exact modifyNet_msgList ..
  | xmit => rw [stepDev_xmit h]; exact modifyNet_msgList ..
  | kill => rw [(stepDev_kill h).2]; rfl
  | deinit o => rw [(stepDev_deinit h).2]; exact devDeinit_msgList ..

/-! ### A step within bounds -/

/-- **A step is within bounds**: a message is handled so, and a disconnect finds no URB in flight
and every channel there, and submits no message. -/
def Within (k : DeviceKind) (s : Device) : Event → Prop
  | .rxComplete _ status _ buf alloc _ =>
    status = 0 → s.guru.dev.Defined k alloc (.ofBytes (buf.take GURU_DATA_SIZE))
  | .deinit o =>
    s.usb.Idle ∧ ∀ ch ∈ k.channels, ∃ d, s.netdev ch = some d ∧ (d.up = true → (o ch).err ≠ 0)
  | _ => True

/-- A disconnect notes a fault for each channel that is missing, and leaves at work what it
submits. -/
theorem deinit_within_iff {s : Device} {o : Chan → SendOutcome} (hf : s.guru.dev.faults = []) :
    (s.devDeinit k o).guru.dev.faults = [] ∧ (s.devDeinit k o).active k = false ↔ Within k s
    (.deinit o) := by
  have hthere : (s.devDeinit k o).guru.dev.faults = [] ↔ ∀ ch ∈ k.channels, s.netdev ch ≠ none := by
    rw [devDeinit_faults, hf, List.nil_append, List.flatMap_eq_nil_iff]
    refine forall₂_congr fun ch _ => ?_
    cases hd : s.netdev ch <;> simp [nullFault, chan, hd]
  have hgone : ∀ ch ∈ k.channels, (s.devDeinit k o).netdev ch = none := by
    intro ch hch
    refine (congrArg Prod.fst (devDeinit_chan k o s hch)).trans ?_
    cases hd : s.netdev ch <;> simp [dead, chan, hd]
  rw [hthere, active_eq_false, and_iff_left hgone, devDeinit_idle]
  constructor
  · rintro ⟨hall, hidle, hsend⟩
    refine ⟨hidle, fun ch hch => ?_⟩
    obtain ⟨d, hd⟩ := Option.ne_none_iff_exists'.mp (hall ch hch)
    exact ⟨d, hd, hsend ch hch d hd⟩
  · rintro ⟨hidle, hall⟩
    refine ⟨fun ch hch hn => ?_, hidle, fun ch hch d hd => ?_⟩
    · obtain ⟨d, hd, -⟩ := hall ch hch
      rw [hn] at hd
      cases hd
    · obtain ⟨d', hd', hsend⟩ := hall ch hch
      rw [hd, Option.some.injEq] at hd'
      exact hd' ▸ hsend

/-- **A step does nothing undefined and leaves nothing at work** exactly if it is within
bounds. -/
theorem within_iff {s t : Device} {e : Event} (hl : s.guru.msgList = k.msgList)
    (hf : s.guru.dev.faults = []) (hs : stepDev k s e = some t) :
    t.guru.dev.faults = [] ∧ (e.isDeinit = true → t.active k = false) ↔ Within k s e := by
  cases e with
  | rxComplete i status actualLength buf alloc err =>
    refine (and_iff_left fun h => absurd h Bool.false_ne_true).trans ?_
    rw [(stepDev_rxComplete hs).2]
    by_cases h0 : status = 0
    · have hdispatch := @faults_iff k (.ofBytes (buf.take GURU_DATA_SIZE)) alloc s.guru hl
      rw [hf] at hdispatch
      rw [readBulkCallback_ok _ _ h0 rfl]
      exact hdispatch.trans ⟨fun h _ => h, fun h => h h0⟩
    · rw [canguruReadBulkCallback,
        if_neg (show (bulkUrb status actualLength buf).status ≠ 0 from h0)]
      refine iff_of_true ?_ fun h => absurd h h0
      split <;> exact hf
  | deinit o =>
    rw [(stepDev_deinit hs).2]
    exact (and_congr_right fun _ => forall_prop_of_true rfl).trans (deinit_within_iff hf)
  | _ =>
    have hfaults := (stepDev_faults hs rfl fun _ _ _ _ _ _ h => by cases h).trans hf
    exact iff_of_true ⟨hfaults, fun h => absurd h Bool.false_ne_true⟩ trivial

end Lifecycle

end CanGuru
