import CanGuru.Lib.Machine
import CanGuru.Lib.Slots
import CanGuru.Boot

/-!
# The table of minor numbers

`guru_boot_table` gives every boot device a minor number. This module follows it
through plugging and unplugging, with any of the calls of `guru_boot_create` failing.

## The model

A step is a call of `guru_boot_create` on a boot device that is not live, or of
`guru_boot_destroy` on one that is. A boot device is live from a creation that
succeeds to its destruction.

## What is proved

* `minors_of_run` — **the table has every live boot device under its minor number, and
  nothing else**, and the next creation takes the least entry that is free, or leaves
  everything that is registered as it was.
-/

namespace CanGuru

open Machine

namespace Minors

/-- The boot devices, and those that are live. -/
structure St where
  /-- The boot devices of the driver. -/
  boots : GuruBoots
  /-- The live ones. -/
  live : List ℕ
  /-- The serial number of the USB device each of them was created for. -/
  serial : ℕ → List UInt8

/-- The steps. -/
inductive Event where
  /-- `guru_boot_create`. -/
  | create (b : ℕ) (o : BootOutcome)
  /-- `guru_boot_destroy`. -/
  | destroy (b : ℕ)

/-- What a step does, where it can happen. -/
def step (s : St) : Event → Option St
  | .create b o =>
    if b ∈ s.live then none
    else
      let (err, boots) := s.boots.guruBootCreate o b
      if err = 0 then
        some { boots := boots, live := s.live ++ [b], serial := Function.update s.serial b o.serial }
      else some { s with boots := boots }
  | .destroy b =>
    if b ∈ s.live then
      some { s with boots := s.boots.guruBootDestroy b, live := s.live.erase b }
    else none

/-- No boot device. -/
def start : St := ⟨.empty, [], fun _ => []⟩

/-! ### The property -/

/-- What the next call of `guru_boot_create` does. -/
structure Creates (s : GuruBoots) (o : BootOutcome) (b : ℕ) : Prop where
  /-- If it succeeds, it puts `b` under the least entry that is free. -/
  least : (s.guruBootCreate o b).1 = 0 →
    ∃ m < GURU_DEV_MAX, (s.guruBootCreate o b).2.minorNum b = m ∧
    s.table m = none ∧ (∀ m' < m, s.table m' ≠ none) ∧
      (s.guruBootCreate o b).2.table = Function.update s.table m (some b)
  /-- It returns `-ENOMEM` if every entry is taken, and otherwise only if `cdev_add` or
  `device_create` does. -/
  full : (s.guruBootCreate o b).1 = -ENOMEM ↔
    (∀ m < GURU_DEV_MAX, s.table m ≠ none) ∨ o.cdevAdd = -ENOMEM ∨ o.cdevAdd = 0 ∧
      o.deviceCreate = -ENOMEM
  /-- If it fails, the table, the device nodes and the character devices are as they
  were. -/
  undone : (s.guruBootCreate o b).1 ≠ 0 → (s.guruBootCreate o b).2.table = s.table ∧
    (s.guruBootCreate o b).2.nodes = s.nodes ∧ (s.guruBootCreate o b).2.cdevs = s.cdevs

/-- **The table is that of the live boot devices.** -/
structure Tabled (s : St) : Prop where
  /-- An entry of the table is a live boot device with that minor number. -/
  table : ∀ m b, s.boots.table m = some b ↔ b ∈ s.live ∧ s.boots.minorNum b = m
  /-- Live boot devices have their minor numbers to themselves. -/
  distinct : ∀ b ∈ s.live, ∀ b' ∈ s.live, s.boots.minorNum b = s.boots.minorNum b' → b = b'
  /-- Their minor numbers are below the bound. -/
  bound : ∀ b ∈ s.live, s.boots.minorNum b < GURU_DEV_MAX
  /-- What comes next. -/
  creates : ∀ o b, b ∉ s.live → Creates s.boots o b

/-- The invariant. -/
structure Inv (s : St) : Prop where
  /-- The table has the live boot devices under their minor numbers. -/
  table : ∀ m b, s.boots.table m = some b ↔ b ∈ s.live ∧ s.boots.minorNum b = m
  /-- The minor numbers are below the bound. -/
  bound : ∀ b ∈ s.live, s.boots.minorNum b < GURU_DEV_MAX
  /-- A boot device is live once. -/
  nodup : s.live.Nodup
  /-- The character devices are those of live boot devices. -/
  cdevs : ∀ e ∈ s.boots.cdevs, e.2 ∈ s.live
  /-- The device nodes are those of the table. -/
  nodes : ∀ e ∈ s.boots.nodes, s.boots.table e.1 = some e.2

theorem inv_start : Inv start where
  table := by simp [start, GuruBoots.empty]
  bound := by simp [start]
  nodup := List.nodup_nil
  cdevs := by simp [start, GuruBoots.empty]
  nodes := by simp [start, GuruBoots.empty]

/-! ### The next creation -/

section Creation

variable {s : St}

theorem Inv.assigned (h : Inv s) : Slots.Assigned s.boots.table s.live s.boots.minorNum := h.table

/-- A creation that fails leaves the minor number of a boot device that is not live. -/
theorem Inv.create_err (h : Inv s) {o : BootOutcome} {b : ℕ} (hb : b ∉ s.live)
    (herr : (s.boots.guruBootCreate o b).1 ≠ 0) :
    ∃ minorNum : ℕ → ℕ, (∀ b' ≠ b, minorNum b' = s.boots.minorNum b') ∧
      (s.boots.guruBootCreate o b).2 = { s.boots with minorNum := minorNum } := by
  refine GuruBoots.guruBootCreate_err herr (fun e he hb' => hb (hb' ▸ h.cdevs e he))
    (fun e he => ?_)
  rw [h.nodes e he]
  exact Option.some_ne_none _

theorem enomem_iff (s : GuruBoots) (o : BootOutcome) (b : ℕ) : (s.guruBootCreate o b).1 = -ENOMEM ↔
    (∀ m < GURU_DEV_MAX, s.table m ≠ none) ∨ o.cdevAdd = -ENOMEM ∨ o.cdevAdd = 0 ∧
    o.deviceCreate = -ENOMEM := by
  have hfull : (∀ m < GURU_DEV_MAX, s.table m ≠ none) ↔ ¬ s.HasFree := by simp [GuruBoots.HasFree]
  rw [hfull, ← GuruBoots.freeMinor_eq_none, GuruBoots.guruBootCreate]
  cases s.freeMinor with
  | none => simp
  | some idx =>
    by_cases hc : o.cdevAdd = 0
    · by_cases hd : o.deviceCreate = 0
      · by_cases hs : o.serial.length = GURU_SN_SIZE <;>
          simp [hc, hd, hs, GuruBoots.guruSnInit, ENOMEM, EINVAL]
      · simp [hc, hd, ENOMEM]
    · simp [hc]

theorem Inv.creates (h : Inv s) {o : BootOutcome} {b : ℕ} (hb : b ∉ s.live) :
    Creates s.boots o b where
  least := by
    intro hok
    obtain ⟨idx, hf, hs'⟩ := GuruBoots.guruBootCreate_ok hok
    obtain ⟨hlt, hfree, hleast⟩ := GuruBoots.freeMinor_eq_some hf
    rw [hs']
    exact ⟨idx, hlt, Function.update_self .., hfree, hleast, rfl⟩
  full := enomem_iff s.boots o b
  undone := by
    intro herr
    obtain ⟨minorNum, -, hs'⟩ := h.create_err hb herr
    rw [hs']
    exact ⟨rfl, rfl, rfl⟩

/-- **The invariant gives the property.** -/
theorem Inv.tabled (h : Inv s) : Tabled s where
  table := h.table
  distinct := fun _ hb _ hb' he => h.assigned.inj hb hb' he
  bound := h.bound
  creates := fun _ _ hb => h.creates hb

end Creation

/-! ### The steps -/

section Steps

variable {s s' : St}

/-- What a creation does: it fails and leaves a minor number behind, or it registers
the boot device under the least entry that is free. -/
theorem step_create (h : Inv s) {b : ℕ} {o : BootOutcome} (hs : step s (.create b o) = some s') :
    b ∉ s.live ∧
      ((s.boots.guruBootCreate o b).1 ≠ 0 ∧
          (∃ minorNum : ℕ → ℕ, (∀ b' ≠ b, minorNum b' = s.boots.minorNum b') ∧
            s' = { s with boots := { s.boots with minorNum := minorNum } }) ∨
        (s.boots.guruBootCreate o b).1 = 0 ∧
          ∃ idx, s.boots.freeMinor = some idx ∧
            s' =
              { boots := s.boots.registered idx b o.serial
                live := s.live ++ [b]
                serial := Function.update s.serial b o.serial }) := by
  rw [step] at hs
  split at hs
  case isTrue => cases hs
  case isFalse hb =>
    refine ⟨hb, ?_⟩
    dsimp only at hs
    split at hs
    case isTrue hok =>
      obtain ⟨idx, hf, hboots⟩ := GuruBoots.guruBootCreate_ok hok
      rw [hboots, Option.some.injEq] at hs
      exact .inr ⟨hok, idx, hf, hs.symm⟩
    case isFalse herr =>
      obtain ⟨minorNum, hother, hboots⟩ := h.create_err hb herr
      rw [hboots, Option.some.injEq] at hs
      exact .inl ⟨herr, minorNum, hother, hs.symm⟩

theorem Inv.failed (h : Inv s) {b : ℕ} (hb : b ∉ s.live) {minorNum : ℕ → ℕ}
    (hother : ∀ b' ≠ b, minorNum b' = s.boots.minorNum b') :
    Inv { s with boots := { s.boots with minorNum := minorNum } } where
  table := h.assigned.congr fun b' hb' => hother b' fun he => hb (he ▸ hb')
  bound := by
    intro b' hb'
    have hnum : minorNum b' = s.boots.minorNum b' := hother b' fun he => hb (he ▸ hb')
    simp only [hnum]
    exact h.bound b' hb'
  nodup := h.nodup
  cdevs := h.cdevs
  nodes := h.nodes

theorem Inv.registered (h : Inv s) {b idx : ℕ} (hb : b ∉ s.live) (hf : s.boots.freeMinor = some idx)
    (serial : List UInt8) :
    Inv
      { boots := s.boots.registered idx b serial
        live := s.live ++ [b]
        serial := Function.update s.serial b serial } := by
  obtain ⟨hlt, hfree, -⟩ := GuruBoots.freeMinor_eq_some hf
  have hne : ∀ b' ∈ s.live, b' ≠ b := fun b' hb' he => hb (he ▸ hb')
  constructor
  case table => exact h.assigned.put hb hfree
  case bound =>
    intro b' hb'
    rcases List.mem_append.mp hb' with hb' | hb'
    · simp only [GuruBoots.registered, Function.update_of_ne (hne b' hb')]
      exact h.bound b' hb'
    · obtain rfl := List.mem_singleton.mp hb'
      simp only [GuruBoots.registered, Function.update_self]
      exact hlt
  case nodup => exact h.nodup.append (List.nodup_singleton b) (by simpa using hb)
  case cdevs =>
    intro e he
    rcases List.mem_append.mp he with he | he
    · exact List.mem_append_left _ (h.cdevs e he)
    · rw [List.mem_singleton.mp he]
      exact List.mem_append_right _ (List.mem_singleton_self b)
  case nodes =>
    intro e he
    rcases List.mem_append.mp he with he | he
    · have htable := h.nodes e he
      have hne' : e.1 ≠ idx := by
        intro hidx'
        rw [hidx', hfree] at htable
        cases htable
      simp only [GuruBoots.registered, Function.update_of_ne hne']
      exact htable
    · rw [List.mem_singleton.mp he]
      exact Function.update_self ..

theorem step_destroy {b : ℕ} (hs : step s (.destroy b) = some s') :
    b ∈ s.live ∧ s' = { s with boots := s.boots.guruBootDestroy b, live := s.live.erase b } := by
  rw [step] at hs
  split at hs
  case isTrue hb => exact ⟨hb, (Option.some.inj hs).symm⟩
  case isFalse => cases hs

theorem Inv.destroy (h : Inv s) {b : ℕ} (hb : b ∈ s.live) :
    Inv { s with boots := s.boots.guruBootDestroy b, live := s.live.erase b } := by
  have hlive : ∀ b', b' ∈ s.live.erase b ↔ b' ≠ b ∧ b' ∈ s.live := fun b' => h.nodup.mem_erase_iff
  constructor
  case table => exact h.assigned.take h.nodup hb
  case bound => exact fun b' hb' => h.bound b' ((hlive b').mp hb').2
  case nodup => exact h.nodup.erase b
  case cdevs =>
    intro e he
    obtain ⟨he, hne⟩ := List.mem_filter.mp he
    exact (hlive e.2).mpr ⟨by simpa using hne, h.cdevs e he⟩
  case nodes =>
    intro e he
    obtain ⟨he, hne⟩ := List.mem_filter.mp he
    have hne' : e.1 ≠ s.boots.minorNum b := by simpa using hne
    simp only [GuruBoots.guruBootDestroy, GuruBoots.cdevDel, Function.update_of_ne hne']
    exact h.nodes e he

/-- **One step** keeps the invariant. -/
theorem inv_step (e : Event) (h : Inv s) (hs : step s e = some s') : Inv s' := by
  cases e with
  | create b o =>
    obtain ⟨hb, ⟨-, minorNum, hother, rfl⟩ | ⟨-, idx, hf, rfl⟩⟩ := step_create h hs
    · exact h.failed hb hother
    · exact h.registered hb hf o.serial
  | destroy b =>
    obtain ⟨hb, rfl⟩ := step_destroy hs
    exact h.destroy hb

end Steps

/-- **The table is that of the live boot devices** in every state that plugging and
unplugging leads to. -/
theorem minors_of_run {s : St} {es : List Event} (hr : run step start es = some s) : Tabled s :=
  (inv_of_run (fun _ e _ h hs => inv_step e h hs) inv_start hr).tabled

/-- Two boot devices are plugged and the first is unplugged. -/
theorem minors_unplugged :
    ∃ s, run step start [.create 5 .ok, .create 6 .ok, .destroy 5] = some s ∧ Tabled s ∧
      s.boots.table 0 = none ∧ s.boots.table 1 = some 6 := by
  have hr : run step start [.create 5 .ok, .create 6 .ok, .destroy 5] = some _ := rfl
  exact ⟨_, hr, minors_of_run hr, rfl, rfl⟩

/-- The memory for the entry of the character device runs out, and the creation returns
`-ENOMEM` with every entry of the table free. -/
theorem not_full_cdevAdd :
    ¬ ((GuruBoots.empty.guruBootCreate { BootOutcome.ok with cdevAdd := -ENOMEM } 5).1 = -ENOMEM ↔
      ∀ m < GURU_DEV_MAX, GuruBoots.empty.table m ≠ none) := by
  intro h
  exact h.mp rfl 0 (by decide) rfl

end Minors

end CanGuru
