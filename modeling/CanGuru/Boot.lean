import CanGuru.Kernel

/-!
# The boot devices

`guru-boot.c`: the table of boot devices, which gives each its minor number, and the
character devices and device nodes made for them.

## The model

The devices of the driver share the table. A `struct guru_boot` is known by its
address. Of the kernel the model keeps what is registered with it: the character
devices with the number each is bound to, and the device nodes.

## What is proved

* `guruBootCreate_eq_zero` — when the creation of a boot device succeeds.
* `guruBootCreate_ok`, `guruBootCreate_err` — what it does then, and what it leaves
  behind when it does not.
-/

namespace CanGuru

/-- `GURU_DEV_MAX`. -/
def GURU_DEV_MAX : ℕ := 16

/-- `GURU_SN_SIZE`. -/
def GURU_SN_SIZE : ℕ := 16

/-- The boot devices of the driver. -/
structure GuruBoots where
  /-- `guru_boot_table`, `none` for `NULL`. -/
  table : ℕ → Option ℕ
  /-- `minor_num` of each boot device. -/
  minorNum : ℕ → ℕ
  /-- `serial_number` of each boot device. -/
  serialNumber : ℕ → List UInt8
  /-- The character devices added: the minor number each is bound to, and its boot
  device. -/
  cdevs : List (ℕ × ℕ)
  /-- The device nodes: the minor number of each, and its boot device. -/
  nodes : List (ℕ × ℕ)

/-- What the kernel decides during `guru_boot_create`. -/
structure BootOutcome where
  /-- What `cdev_add` returns. -/
  cdevAdd : ℤ
  /-- The error of `device_create`, `0` if there is none. -/
  deviceCreate : ℤ
  /-- The serial number of the USB device. -/
  serial : List UInt8

/-- Every call succeeds. -/
def BootOutcome.ok : BootOutcome := ⟨0, 0, List.replicate GURU_SN_SIZE 0x30⟩

namespace GuruBoots

/-- No boot device. -/
def empty : GuruBoots := ⟨fun _ => none, fun _ => 0, fun _ => [], [], []⟩

/-- `cdev_del`. All character devices are bound to the same number; the binding that goes is
taken to be that of `b`, where the kernel takes away the newest of the number. -/
def cdevDel (b : ℕ) (s : GuruBoots) : GuruBoots :=
  { s with cdevs := s.cdevs.filter fun e => e.2 ≠ b }

/-- `guru_boot_destroy`. -/
def guruBootDestroy (b : ℕ) (s : GuruBoots) : GuruBoots :=
  let minor := s.minorNum b
  let s := { s with nodes := s.nodes.filter fun e => e.1 ≠ minor }
  let s := { s with table := Function.update s.table minor none }
  s.cdevDel b

/-- `guru_sn_init`. -/
def guruSnInit (serial : List UInt8) (b : ℕ) (s : GuruBoots) : ℤ × GuruBoots :=
  if serial.length ≠ GURU_SN_SIZE then (-EINVAL, s)
  else (0, { s with serialNumber := Function.update s.serialNumber b (serial ++ [0x0A]) })

/-- The least entry of the table that is free. -/
def freeMinor (s : GuruBoots) : Option ℕ := (List.range GURU_DEV_MAX).find? fun idx =>
    (s.table idx).isNone

/-- `guru_boot_create`. The number it gives to `cdev_add` is the first of the
driver's, whatever the minor number. -/
def guruBootCreate (o : BootOutcome) (b : ℕ) (s : GuruBoots) : ℤ × GuruBoots :=
  match s.freeMinor with
  | none => (-ENOMEM, s)
  | some idx =>
    let s := { s with minorNum := Function.update s.minorNum b idx }
    if o.cdevAdd ≠ 0 then (o.cdevAdd, s)
    else
      let s := { s with cdevs := s.cdevs ++ [(0, b)] }
      if o.deviceCreate ≠ 0 then (o.deviceCreate, s.cdevDel b)
      else
        let s := { s with nodes := s.nodes ++ [(idx, b)], table := Function.update s.table idx (some b) }
        let (err, s) := guruSnInit o.serial b s
        if err ≠ 0 then (err, s.guruBootDestroy b) else (0, s)

/-- The boot devices whose character devices are bound to a number, newest last. -/
def cdevsAt (minor : ℕ) (s : GuruBoots) : List ℕ :=
  (s.cdevs.filter fun e => e.1 = minor).map Prod.snd

/-- `guru_boot_open`: the boot device of the character device that the kernel finds
under the number of a node, which is the newest. -/
def guruBootOpen (minor : ℕ) (s : GuruBoots) : Option ℕ := (s.cdevsAt minor).getLast?

/-- `guru_boot_read` of `length` bytes from `offset` on. -/
def guruBootRead (length offset b : ℕ) (s : GuruBoots) : List UInt8 :=
  ((s.serialNumber b).drop offset).take length

/-- Some entry of the table is free. -/
def HasFree (s : GuruBoots) : Prop := ∃ idx < GURU_DEV_MAX, s.table idx = none

theorem freeMinor_eq_none {s : GuruBoots} : s.freeMinor = none ↔ ¬ s.HasFree := by
  simp [freeMinor, HasFree]

/-- **The creation of a boot device succeeds** if an entry is free, the kernel makes
its two devices and the serial number has the right length. -/
theorem guruBootCreate_eq_zero {o : BootOutcome} {b : ℕ} {s : GuruBoots} :
    (s.guruBootCreate o b).1 = 0 ↔
      s.HasFree ∧ o.cdevAdd = 0 ∧ o.deviceCreate = 0 ∧ o.serial.length = GURU_SN_SIZE := by
  unfold guruBootCreate
  cases hf : s.freeMinor with
  | none =>
    have hfull : ¬ s.HasFree := freeMinor_eq_none.mp hf
    simp [hfull, ENOMEM]
  | some idx =>
    have hfree : s.HasFree := by
      by_contra hn
      rw [freeMinor_eq_none.mpr hn] at hf
      cases hf
    by_cases hc : o.cdevAdd = 0
    · by_cases hd : o.deviceCreate = 0
      · by_cases hs : o.serial.length = GURU_SN_SIZE
        · simp [hfree, hc, hd, hs, guruSnInit]
        · simp [hc, hd, hs, guruSnInit, EINVAL]
      · simp [hc, hd]
    · simp [hc]

theorem freeMinor_eq_some {s : GuruBoots} {idx : ℕ} (h : s.freeMinor = some idx) :
    idx < GURU_DEV_MAX ∧ s.table idx = none ∧ ∀ m < idx, s.table m ≠ none := by
  obtain ⟨hfree, as, bs, hr, has⟩ := List.find?_eq_some_iff_append.mp h
  have hlen : as.length = idx := by
    have hget : (List.range GURU_DEV_MAX)[as.length]? = some idx := by rw [hr]; simp
    obtain ⟨hlt, hidx⟩ := List.getElem?_eq_some_iff.mp hget
    rwa [List.getElem_range] at hidx
  have hmem : idx ∈ List.range GURU_DEV_MAX := by rw [hr]; simp
  refine ⟨List.mem_range.mp hmem, by simpa using hfree, fun m hm => ?_⟩
  have hm' : m ∈ as := by
    have hget : (List.range GURU_DEV_MAX)[m]? = as[m]? := by
      rw [hr, List.getElem?_append_left (hlen.symm ▸ hm)]
    rw [List.getElem?_range (hm.trans (List.mem_range.mp hmem))] at hget
    exact List.mem_of_getElem? hget.symm
  exact Option.ne_none_iff_isSome.mpr (by simpa using has m hm')

/-- The device of `b` is registered under the minor number `idx`. -/
def registered (idx b : ℕ) (serial : List UInt8) (s : GuruBoots) : GuruBoots where
  table := Function.update s.table idx (some b)
  minorNum := Function.update s.minorNum b idx
  serialNumber := Function.update s.serialNumber b (serial ++ [0x0A])
  cdevs := s.cdevs ++ [(0, b)]
  nodes := s.nodes ++ [(idx, b)]

/-- **A creation that succeeds** takes the least entry that is free. -/
theorem guruBootCreate_ok {o : BootOutcome} {b : ℕ} {s : GuruBoots}
    (h : (s.guruBootCreate o b).1 = 0) :
    ∃ idx, s.freeMinor = some idx ∧ (s.guruBootCreate o b).2 = s.registered idx b o.serial := by
  obtain ⟨hfree, hc, hd, hs⟩ := guruBootCreate_eq_zero.mp h
  cases hf : s.freeMinor with
  | none => exact absurd hfree (freeMinor_eq_none.mp hf)
  | some idx =>
    refine ⟨idx, rfl, ?_⟩
    simp [guruBootCreate, hf, hc, hd, guruSnInit, hs, registered]

/-- What is left of a creation that fails: the minor number of a boot device that is
not registered. -/
theorem guruBootCreate_err {o : BootOutcome} {b : ℕ} {s : GuruBoots}
    (h : (s.guruBootCreate o b).1 ≠ 0) (hcdevs : ∀ e ∈ s.cdevs, e.2 ≠ b)
    (hnodes : ∀ e ∈ s.nodes, s.table e.1 ≠ none) :
    ∃ minorNum : ℕ → ℕ, (∀ b' ≠ b, minorNum b' = s.minorNum b') ∧
      (s.guruBootCreate o b).2 = { s with minorNum := minorNum } := by
  have hdel : (s.cdevs ++ [(0, b)]).filter (fun e => e.2 ≠ b) = s.cdevs := by
    rw [List.filter_append, List.filter_eq_self.mpr fun e he => by simpa using hcdevs e he]
    simp
  cases hf : s.freeMinor with
  | none => exact ⟨s.minorNum, fun _ _ => rfl, by simp [guruBootCreate, hf]⟩
  | some idx =>
    refine ⟨Function.update s.minorNum b idx, fun b' hb => Function.update_of_ne hb .., ?_⟩
    obtain ⟨-, hidx, -⟩ := freeMinor_eq_some hf
    by_cases hc : o.cdevAdd = 0
    · by_cases hd : o.deviceCreate = 0
      · by_cases hs : o.serial.length = GURU_SN_SIZE
        · have hok : (s.guruBootCreate o b).1 = 0 := by
            simp [guruBootCreate, hf, hc, hd, guruSnInit, hs]
          exact absurd hok h
        · have hnode : (s.nodes ++ [(idx, b)]).filter (fun e => e.1 ≠ idx) = s.nodes := by
            rw [List.filter_append, List.filter_eq_self.mpr fun e he => ?_]
            · simp
            · have hne : e.1 ≠ idx := fun he' => hnodes e he (he' ▸ hidx)
              simpa using hne
          have htable : Function.update s.table idx none = s.table := by
            rw [← hidx, Function.update_eq_self]
          have herr : ¬ -EINVAL = 0 := by decide
          simp only [guruBootCreate, hf, hc, hd, guruSnInit, hs, ne_eq, not_true_eq_false,
            not_false_eq_true, if_false, if_true, herr, guruBootDestroy, cdevDel,
            Function.update_self, Function.update_idem, htable, hdel, hnode]
      · simp only [ne_eq, decide_not] at hdel
        simp [guruBootCreate, hf, hc, hd, cdevDel, hdel]
    · simp [guruBootCreate, hf, hc]

end GuruBoots

end CanGuru
