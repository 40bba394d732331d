import CanGuru.Lifecycle.Rules

/-!
# A probe that fails

When the init function of a device returns an error, the driver core frees the device
structure, and nobody calls `guru_dev_deinit`. What the probe has set up by then has
to be undone by the init function itself. `guru_boot_create` undoes its own work and
the loop of `canguru_usb_rx_init` the URB it fails at, but the URBs already in flight
and the channels already created stay.

## The model

Every call of the probe may fail, in any combination, and the boot devices of the
driver are any. A probe starts from fresh memory.

## What is proved

`nothingLeft_iff` — a probe leaves nothing behind when it fails exactly if it fails at
the first receive URB or does not fail.
-/

namespace CanGuru

namespace FailedProbe

open Calls Device

/-- **Nothing is left** of a probe, that found the boot devices `boots`. -/
structure NothingLeft (boots : GuruBoots) (s : Device) : Prop where
  /-- No receive URB is in flight, and their buffers were freed. -/
  rx : ∀ u ∈ s.usb.rx, u.inFlight = false ∧ u.freed = 1
  /-- No net device is registered. -/
  netdev : ∀ ch, (s.candev ch).registers = (s.candev ch).unregisters
  /-- Every candev was freed. -/
  candev : ∀ ch, (s.candev ch).allocs = (s.candev ch).frees
  /-- The IIO device is not registered. -/
  iio : s.iio.registers = s.iio.unregisters
  /-- No boot device was added. -/
  boot : s.boots.table = boots.table ∧ s.boots.nodes = boots.nodes ∧ s.boots.cdevs = boots.cdevs

/-- The probe fails at the first receive URB, or does not fail: all receive URBs can be
set up, and so can what is checked after them. -/
def Unwound (k : DeviceKind) (o : ProbeOutcome) (boots : GuruBoots) : Prop :=
  (o.rx 0).err ≠ 0 ∨ ((∀ i < GURU_MAX_URBS, (o.rx i).err = 0) ∧ o.Checked k boots)

variable {k : DeviceKind} {o : ProbeOutcome} {s : Device}

/-- A probe that is not unwound fails with an URB in flight. -/
theorem submitted_of_not_unwound {boots : GuruBoots} (b : ℕ) (hn : ¬ Unwound k o boots) :
    ((kzalloc boots b).devInit k o).1 ≠ 0 ∧
    Urb.submitted ∈ ((kzalloc boots b).devInit k o).2.usb.rx := by
  obtain ⟨h0, hrest⟩ := not_or.mp hn
  rcases rx_cases o.rx with hok | ⟨m, hm, hok, he⟩
  · refine ⟨mt (devInit_eq_zero hok).mp fun hc => hrest ⟨hok, hc⟩, ?_⟩
    rw [devInit_rx hok]
    exact List.mem_append_right _ (List.mem_replicate.mpr ⟨by decide, rfl⟩)
  · have hdev := devInit_of_err (k := k) (s := kzalloc boots b) hok hm he
    have hm0 : m ≠ 0 := by
      rintro rfl
      exact h0 he
    rw [hdev]
    refine ⟨mt SendOutcome.rxErr_eq_zero.mp he, ?_⟩
    exact List.mem_append_left _ (List.mem_append_right _ (List.mem_replicate.mpr ⟨hm0, rfl⟩))

theorem NothingLeft.not_submitted {boots : GuruBoots} (h : NothingLeft boots s) :
    Urb.submitted ∉ s.usb.rx := by
  intro hu
  have := (h.rx _ hu).1
  cases this

/-- **A probe that fails leaves nothing behind** exactly if it fails at the first
receive URB, or does not fail. -/
theorem nothingLeft_iff (k : DeviceKind) (o : ProbeOutcome) (boots : GuruBoots) (b : ℕ) :
    (((kzalloc boots b).devInit k o).1 ≠ 0 → NothingLeft boots ((kzalloc boots b).devInit k o).2) ↔
      Unwound k o boots := by
  constructor
  · intro h
    by_contra hn
    obtain ⟨hfail, hu⟩ := submitted_of_not_unwound b hn
    exact (h hfail).not_submitted hu
  · rintro (h0 | ⟨hok, hc⟩) hfail
    · have hdev :=
        devInit_of_err (k := k) (s := kzalloc boots b) (fun i hi => absurd hi (Nat.not_lt_zero i))
        (by decide) h0
      rw [hdev]
      refine ⟨fun u hu => ?_, fun _ => rfl, fun _ => rfl, rfl, rfl, rfl, rfl⟩
      rw [SendOutcome.urb_of_err h0 u hu]
      exact ⟨rfl, rfl⟩
    · exact absurd ((devInit_eq_zero hok).mpr hc) hfail

/-! ### A probe that fails late -/

/-- Every call succeeds, but the serial number is too short. -/
def shortSerial : ProbeOutcome := { ProbeOutcome.ok with boot := ⟨0, 0, []⟩ }

/-- A CAN device whose serial number is too short is not probed, and leaves its URBs in
flight. -/
theorem not_nothingLeft_shortSerial :
    ¬ (((kzalloc GuruBoots.empty 0).devInit .canguru shortSerial).1 ≠ 0 →
      NothingLeft GuruBoots.empty ((kzalloc GuruBoots.empty 0).devInit .canguru shortSerial).2) := by
  intro h
  have hfail : ((kzalloc GuruBoots.empty 0).devInit .canguru shortSerial).1 ≠ 0 := by
    apply mt (devInit_eq_zero fun _ _ => rfl).mp
    rintro ⟨-, -, -, hlen⟩
    cases hlen
  apply (h hfail).not_submitted
  rw [devInit_rx fun _ _ => rfl]
  exact List.mem_append_right _ (List.mem_replicate.mpr ⟨by decide, rfl⟩)

end FailedProbe

end CanGuru
