import CanGuru.GuruDevice

/-!
# The URBs of a device

The URB half of `guru-device.c`: the ring of receive URBs that
`canguru_usb_rx_init` submits, the transmit URBs of `guru_send_data`, their
completions, and the two anchors by which the driver cancels them.

## The model

An `Urb` is one that got a transfer buffer. The driver drops its own reference as
soon as it has submitted it, so an URB lives as long as it is in flight; what the
model keeps of it is whether it is in flight, whether it is on its anchor, and how
often its buffer was freed. The USB core takes an URB off its anchor before it runs
the completion handler. `usb_kill_anchored_urbs` completes those on the anchor with
`-ENOENT`.

## What is proved

* `canguruUsbRxInit_ok`, `canguruUsbRxInit_err` — the ring is full, or it is full up
  to the first URB that cannot be set up, and the error of that is returned.
* `Usb.kill_inFlight` — cancelling leaves nothing in flight if every URB in flight is
  on its anchor.
-/

namespace CanGuru

/-- An URB with a transfer buffer. -/
structure Urb where
  /-- The USB core has it. -/
  inFlight : Bool
  /-- It is on the anchor of its direction. -/
  anchored : Bool
  /-- How often its buffer was freed. -/
  freed : ℕ
  deriving DecidableEq

/-- The URBs of a device, in the order in which they got their buffers. -/
structure Usb where
  /-- Those that receive, anchored at `rx_submitted`. -/
  rx : List Urb
  /-- Those that send, anchored at `tx_submitted`. -/
  tx : List Urb
  deriving DecidableEq

/-- An URB that was anchored and submitted. -/
def Urb.submitted : Urb := { inFlight := true, anchored := true, freed := 0 }

/-- An URB that was anchored and not taken: it is taken off its anchor and its buffer
is freed. -/
def Urb.refused : Urb := { inFlight := false, anchored := false, freed := 1 }

/-- The URB that a row of allocation, anchoring and submission leaves. -/
def SendOutcome.urb : SendOutcome → List Urb
  | .noUrb => []
  | .noBuf => []
  | .submit err => if err ≠ 0 then [.refused] else [.submitted]

/-! ### Submission -/

/-- What a turn of the loop of `canguru_usb_rx_init` returns. -/
def SendOutcome.rxErr : SendOutcome → ℤ
  | .noUrb => -ENOBUFS
  | .noBuf => -ENOBUFS
  | .submit err => err

/-- The loop of `canguru_usb_rx_init` from index `idx`, with `n` turns left. -/
def rxInitLoop (o : ℕ → SendOutcome) : ℕ → ℕ → List Urb → ℤ × List Urb
  | _, 0, rx => (0, rx)
  | idx, n + 1, rx =>
    let rx := rx ++ (o idx).urb
    if (o idx).rxErr ≠ 0 then ((o idx).rxErr, rx) else rxInitLoop o (idx + 1) n rx

/-- `canguru_usb_rx_init`, with how the setting up of each URB ends. -/
def canguruUsbRxInit (o : ℕ → SendOutcome) (usb : Usb) : ℤ × Usb :=
  let (err, rx) := rxInitLoop o 0 GURU_MAX_URBS usb.rx
  (err, { usb with rx := rx })

namespace Usb

/-- What `guru_send_data` does with URBs. -/
def send (o : SendOutcome) (usb : Usb) : Usb := { usb with tx := usb.tx ++ o.urb }

/-! ### Completion -/

/-- `canguru_write_bulk_callback`. -/
def canguruWriteBulkCallback (status : ℤ) (u : Urb) : Urb :=
  if status = 0 then u else if status = -ENOENT then { u with freed := u.freed + 1 } else u

/-- The USB core is done with an URB, and takes it off its anchor. -/
def complete (u : Urb) : Urb := { u with inFlight := false, anchored := false }

/-- A transmit URB completes. -/
def txComplete (i : ℕ) (status : ℤ) (usb : Usb) : Usb :=
  { usb with tx := usb.tx.modify i fun u => canguruWriteBulkCallback status (complete u) }

/-- A receive URB completes, and its handler submits it again, which returns `err`, or
does not. Nothing anchors it again. -/
def rxComplete (i : ℕ) (resubmit : Bool) (err : ℤ) (usb : Usb) : Usb :=
  { usb with rx := usb.rx.modify i fun u => { complete u with inFlight := resubmit && decide (err = 0) } }

/-- `usb_kill_anchored_urbs` for the receive URBs: the handler returns on `-ENOENT`. -/
def killRx (usb : Usb) : Usb :=
  { usb with rx := usb.rx.map fun u => if u.anchored then complete u else u }

/-- `usb_kill_anchored_urbs` for the transmit URBs. -/
def killTx (usb : Usb) : Usb :=
  { usb with tx := usb.tx.map fun u => if u.anchored then canguruWriteBulkCallback (-ENOENT) (complete u) else u }

/-- Every URB in flight is on its anchor. -/
def Anchored (usb : Usb) : Prop := ∀ u ∈ usb.rx ++ usb.tx, u.inFlight = true → u.anchored = true

/-- No URB is in flight. -/
def Idle (usb : Usb) : Prop := ∀ u ∈ usb.rx ++ usb.tx, u.inFlight = false

end Usb

/-! ### The ring -/

theorem SendOutcome.rxErr_eq_zero {o : SendOutcome} : o.rxErr = 0 ↔ o.err = 0 := by
  cases o <;> simp [rxErr, err, ENOBUFS, ENOMEM]

theorem SendOutcome.urb_of_ok {o : SendOutcome} (h : o.err = 0) : o.urb = [.submitted] := by
  cases o with
  | noUrb => simp [err, ENOMEM] at h
  | noBuf => simp [err, ENOMEM] at h
  | submit e => simp [urb, show e = 0 from h]

theorem SendOutcome.urb_of_err {o : SendOutcome} (h : o.err ≠ 0) : ∀ u ∈ o.urb, u = .refused := by
  cases o with
  | noUrb => simp [urb]
  | noBuf => simp [urb]
  | submit e => simp [urb, show e ≠ 0 from h]

/-- The URB of a call is in flight exactly if the call succeeded. -/
theorem SendOutcome.urb_inFlight {o : SendOutcome} :
    (∀ u ∈ o.urb, u.inFlight = false) ↔ o.err ≠ 0 := by
  constructor
  · intro h he
    have := h .submitted (by rw [urb_of_ok he]; exact List.mem_singleton_self _)
    cases this
  · intro h u hu
    rw [urb_of_err h u hu]
    rfl

/-- The URB of a call is on its anchor if it is in flight. -/
theorem SendOutcome.urb_anchored {o : SendOutcome} :
    ∀ u ∈ o.urb, u.inFlight = true → u.anchored = true := by
  intro u hu hf
  by_cases h : o.err = 0
  · rw [urb_of_ok h, List.mem_singleton] at hu
    rw [hu]
    rfl
  · rw [urb_of_err h u hu] at hf
    cases hf

theorem rxInitLoop_ok {o : ℕ → SendOutcome} {n : ℕ} :
    ∀ {idx : ℕ} (rx : List Urb), (∀ i < n, (o (idx + i)).err = 0) →
      rxInitLoop o idx n rx = (0, rx ++ List.replicate n .submitted) := by
  induction n with
  | zero => intro idx rx _; simp [rxInitLoop]
  | succ n ih =>
    intro idx rx h
    have h0 : (o idx).err = 0 := h 0 n.succ_pos
    have hrest : ∀ i < n, (o (idx + 1 + i)).err = 0 := by
      intro i hi
      rw [Nat.add_assoc, Nat.add_comm 1 i]
      exact h (i + 1) (Nat.succ_lt_succ hi)
    rw [rxInitLoop]
    simp only [SendOutcome.rxErr_eq_zero.mpr h0, ne_eq, not_true_eq_false, if_false]
    rw [ih _ hrest, SendOutcome.urb_of_ok h0, List.append_assoc]
    rfl

/-- A loop that meets an URB that cannot be set up: those before it are in flight. -/
theorem rxInitLoop_err {o : ℕ → SendOutcome} {n m : ℕ} :
    ∀ {idx : ℕ} (rx : List Urb), (∀ i < m, (o (idx + i)).err = 0) → m < n → (o (idx + m)).err ≠ 0 →
      rxInitLoop o idx n rx =
        ((o (idx + m)).rxErr, rx ++ List.replicate m .submitted ++ (o (idx + m)).urb) := by
  induction n generalizing m with
  | zero => intro idx rx _ hm; exact absurd hm (Nat.not_lt_zero m)
  | succ n ih =>
    intro idx rx h hm he
    rw [rxInitLoop]
    cases m with
    | zero =>
      have hrx : (o idx).rxErr ≠ 0 := mt SendOutcome.rxErr_eq_zero.mp he
      simp only [ne_eq, hrx, not_false_eq_true, if_true]
      simp
    | succ m =>
      have h0 : (o idx).err = 0 := h 0 m.succ_pos
      have hidx : ∀ i, idx + 1 + i = idx + (i + 1) := fun i => by omega
      have hrest : ∀ i < m, (o (idx + 1 + i)).err = 0 := by
        intro i hi
        rw [hidx]
        exact h (i + 1) (Nat.succ_lt_succ hi)
      simp only [SendOutcome.rxErr_eq_zero.mpr h0, ne_eq, not_true_eq_false, if_false]
      rw [ih _ hrest (Nat.lt_of_succ_lt_succ hm) (hidx m ▸ he), SendOutcome.urb_of_ok h0, hidx,
        List.append_assoc rx]
      rfl

/-- **The ring is full** if every URB can be set up. -/
theorem canguruUsbRxInit_ok {o : ℕ → SendOutcome} (h : ∀ i < GURU_MAX_URBS, (o i).err = 0)
    (usb : Usb) :
    canguruUsbRxInit o usb =
      (0, { usb with rx := usb.rx ++ List.replicate GURU_MAX_URBS .submitted }) := by
  have h' : ∀ i < GURU_MAX_URBS, (o (0 + i)).err = 0 :=
    fun i hi => by rw [Nat.zero_add]; exact h i hi
  rw [canguruUsbRxInit, rxInitLoop_ok usb.rx h']

/-- **The ring is full up to the first URB** that cannot be set up, whose error is
returned. -/
theorem canguruUsbRxInit_err {o : ℕ → SendOutcome} {m : ℕ} (h : ∀ i < m, (o i).err = 0)
    (hm : m < GURU_MAX_URBS) (he : (o m).err ≠ 0) (usb : Usb) :
    canguruUsbRxInit o usb =
      ((o m).rxErr, { usb with rx := usb.rx ++ List.replicate m .submitted ++ (o m).urb }) := by
  have h' : ∀ i < m, (o (0 + i)).err = 0 := fun i hi => by rw [Nat.zero_add]; exact h i hi
  have he' : (o (0 + m)).err ≠ 0 := by rw [Nat.zero_add]; exact he
  rw [canguruUsbRxInit, rxInitLoop_err usb.rx h' hm he', Nat.zero_add]

/-- Either every URB can be set up, or there is a first that cannot. -/
theorem rx_cases (o : ℕ → SendOutcome) :
    (∀ i < GURU_MAX_URBS, (o i).err = 0) ∨
      ∃ m < GURU_MAX_URBS, (∀ i < m, (o i).err = 0) ∧ (o m).err ≠ 0 := by
  by_cases h : ∃ i, i < GURU_MAX_URBS ∧ (o i).err ≠ 0
  · refine .inr ⟨Nat.find h, (Nat.find_spec h).1, fun i hi => ?_, (Nat.find_spec h).2⟩
    by_contra hne
    exact Nat.find_min h hi ⟨hi.trans (Nat.find_spec h).1, hne⟩
  · push Not at h
    exact .inl h

namespace Usb

variable {usb : Usb}

/-! ### Cancelling -/

theorem canguruWriteBulkCallback_inFlight (status : ℤ) (u : Urb) :
    (canguruWriteBulkCallback status u).inFlight = u.inFlight := by
  unfold canguruWriteBulkCallback
  split_ifs <;> rfl

/-- An URB that completes is no longer in flight. -/
theorem complete_inFlight (status : ℤ) (u : Urb) :
    (canguruWriteBulkCallback status (complete u)).inFlight = false :=
  canguruWriteBulkCallback_inFlight ..

/-- **Cancelling leaves nothing in flight** if every URB in flight is on its anchor. -/
theorem kill_idle (h : usb.Anchored) : usb.killRx.killTx.Idle := by
  intro u hu
  have hgone : ∀ v ∈ usb.rx ++ usb.tx, v.anchored = false → v.inFlight = false := by
    intro v hv ha
    by_contra hf
    rw [h v hv (Bool.eq_true_of_not_eq_false hf)] at ha
    cases ha
  rcases List.mem_append.mp hu with hu | hu
  · obtain ⟨v, hv, rfl⟩ := List.mem_map.mp hu
    cases ha : v.anchored with
    | true => rfl
    | false => exact hgone v (List.mem_append_left _ hv) ha
  · obtain ⟨v, hv, rfl⟩ := List.mem_map.mp hu
    cases ha : v.anchored with
    | true =>
      simp only [if_true]
      exact complete_inFlight _ v
    | false => exact hgone v (List.mem_append_right _ hv) ha

theorem Idle.anchored (h : usb.Idle) : usb.Anchored := by
  intro u hu hf
  rw [h u hu] at hf
  cases hf

theorem Anchored.send (h : usb.Anchored) (o : SendOutcome) : (usb.send o).Anchored := by
  intro u hu
  rw [Usb.send, ← List.append_assoc] at hu
  rcases List.mem_append.mp hu with hu | hu
  · exact h u hu
  · exact o.urb_anchored u hu

/-- A call of `guru_send_data` leaves nothing in flight exactly if it fails. -/
theorem send_idle {o : SendOutcome} : (usb.send o).Idle ↔ usb.Idle ∧ o.err ≠ 0 := by
  rw [Idle, Idle, Usb.send, ← List.append_assoc, List.forall_mem_append, SendOutcome.urb_inFlight]

end Usb

end CanGuru
