import CanGuru.Lib.Machine
import CanGuru.Usb

/-!
# The buffers of the transmit URBs

`guru_send_data` allocates a buffer for each message and frees it if the message is not
taken. From the submission on the buffer is the completion handler's, which frees it if
the URB was cancelled, and on no other status.

## The model

A step is a call of `guru_send_data`, which may fail at its allocations or at the
submission, or the completion of an URB that is in flight, with any status.

## What is proved

`released_iff` — a run goes only through states in which the buffers that are not freed
are those in flight, and none is freed twice, exactly when every completion of the run
is that of a cancelled URB.
-/

namespace CanGuru

open Machine

namespace Buffers

/-- The steps. -/
inductive Event where
  /-- A call of `guru_send_data`. -/
  | send (o : SendOutcome)
  /-- Transmit URB `i` completes. -/
  | complete (i : ℕ) (status : ℤ)

/-- What a step does, where it can happen. -/
def step (usb : Usb) : Event → Option Usb
  | .send o => some (usb.send o)
  | .complete i status =>
    if (usb.tx[i]?.map Urb.inFlight).getD false then some (usb.txComplete i status) else none

/-- **The buffers are released**: those not freed are those in flight, and none was freed
twice. -/
structure Released (usb : Usb) : Prop where
  /-- A buffer is kept exactly while its URB is in flight. -/
  kept : ∀ u ∈ usb.tx, u.freed = 0 ↔ u.inFlight = true
  /-- No buffer was freed twice. -/
  once : ∀ u ∈ usb.tx, u.freed ≤ 1

/-- A completion is that of a cancelled URB. -/
def Cancelled (_ : Usb) : Event → Prop
  | .send _ => True
  | .complete _ status => status = -ENOENT

/-- The URB that a call leaves keeps its buffer exactly while it is in flight. -/
theorem urb_released (o : SendOutcome) : ∀ u ∈ o.urb, (u.freed = 0 ↔ u.inFlight = true) ∧
    u.freed ≤ 1 := by
  intro u hu
  by_cases h : o.err = 0
  · rw [SendOutcome.urb_of_ok h, List.mem_singleton] at hu
    rw [hu]
    exact ⟨iff_of_true rfl rfl, Nat.zero_le 1⟩
  · rw [SendOutcome.urb_of_err h u hu]
    exact ⟨iff_of_false (by decide) (by decide), le_rfl⟩

/-- The completion of an URB with its buffer frees it once if the URB was cancelled, and
leaves it otherwise. -/
theorem complete_freed {u : Urb} (h : u.freed = 0) (status : ℤ) :
    (Usb.canguruWriteBulkCallback status (Usb.complete u)).freed = if status =
      -ENOENT then 1 else 0 := by
  unfold Usb.canguruWriteBulkCallback
  by_cases h0 : status = 0
  · have hne : status ≠ -ENOENT := by
      rw [h0]
      decide
    rw [if_pos h0, if_neg hne]
    exact h
  · rw [if_neg h0]
    split
    case isTrue => exact congrArg (· + 1) h
    case isFalse => exact h

section Steps

variable {usb usb' : Usb}

theorem Released.send (h : Released usb) (o : SendOutcome) : Released (usb.send o) := by
  constructor
  · intro u hu
    exact (List.mem_append.mp hu).elim (h.kept u) fun hu => (urb_released o u hu).1
  · intro u hu
    exact (List.mem_append.mp hu).elim (h.once u) fun hu => (urb_released o u hu).2

theorem step_complete {i : ℕ} {status : ℤ} (hs : step usb (.complete i status) = some usb') :
    ∃ hi : i < usb.tx.length, usb.tx[i].inFlight = true ∧ usb' = usb.txComplete i status := by
  rw [step] at hs
  split at hs
  case isFalse => cases hs
  case isTrue hf =>
    cases hu : usb.tx[i]? with
    | none =>
      rw [hu] at hf
      cases hf
    | some u =>
      obtain ⟨hi, rfl⟩ := List.getElem?_eq_some_iff.mp hu
      rw [hu] at hf
      exact ⟨hi, hf, (Option.some.inj hs).symm⟩

/-- A URB after a completion is one from before, or the one that completed. -/
theorem mem_txComplete {i : ℕ} (hi : i < usb.tx.length) (status : ℤ) {u : Urb}
    (hu : u ∈ (usb.txComplete i status).tx) :
    u ∈ usb.tx ∨ u = Usb.canguruWriteBulkCallback status (Usb.complete usb.tx[i]) := by
  obtain ⟨j, hj, rfl⟩ := List.mem_iff_getElem.mp hu
  have hj' : j < usb.tx.length := by simpa [Usb.txComplete] using hj
  by_cases hij : i = j
  · subst hij
    exact .inr (by simp [Usb.txComplete])
  · exact .inl (by simp [Usb.txComplete, hij])

/-- The completion of a cancelled URB keeps the buffers released. -/
theorem Released.cancelled (h : Released usb) {i : ℕ} (hi : i < usb.tx.length)
    (hf : usb.tx[i].inFlight = true) : Released (usb.txComplete i (-ENOENT)) := by
  have hkept : usb.tx[i].freed = 0 := (h.kept _ (List.getElem_mem hi)).mpr hf
  have hfreed := complete_freed hkept (-ENOENT)
  rw [if_pos rfl] at hfreed
  constructor
  · intro u hu
    obtain hu | rfl := mem_txComplete hi (-ENOENT) hu
    · exact h.kept u hu
    · rw [hfreed, Usb.complete_inFlight]
      exact iff_of_false one_ne_zero Bool.false_ne_true
  · intro u hu
    obtain hu | rfl := mem_txComplete hi (-ENOENT) hu
    · exact h.once u hu
    · exact hfreed.le

/-- **One step** keeps the buffers released if it completes no URB but a cancelled one. -/
theorem released_step (e : Event) (h : Released usb) (hC : Cancelled usb e)
    (hs : step usb e = some usb') : Released usb' := by
  cases e with
  | send o =>
    obtain rfl := Option.some.inj hs
    exact h.send o
  | complete i status =>
    obtain ⟨hi, hf, rfl⟩ := step_complete hs
    obtain rfl : status = -ENOENT := hC
    exact h.cancelled hi hf

/-- An URB that completes with another status takes its buffer with it. -/
theorem not_released {e : Event} (h : Released usb) (hC : ¬ Cancelled usb e)
    (hs : step usb e = some usb') : ¬ Released usb' := by
  cases e with
  | send o => exact absurd trivial hC
  | complete i status =>
    obtain ⟨hi, hf, rfl⟩ := step_complete hs
    intro h'
    have hmem : Usb.canguruWriteBulkCallback status (Usb.complete usb.tx[i]) ∈
        (usb.txComplete i status).tx := by
      refine List.mem_iff_getElem.mpr ⟨i, by simpa [Usb.txComplete] using hi,
        by simp [Usb.txComplete]⟩
    have hkept : usb.tx[i].freed = 0 := (h.kept _ (List.getElem_mem hi)).mpr hf
    have hfreed := complete_freed hkept status
    rw [if_neg (show ¬ status = -ENOENT from hC)] at hfreed
    have hflight := (h'.kept _ hmem).mp hfreed
    rw [Usb.complete_inFlight] at hflight
    cases hflight

end Steps

/-- No transmit URB. -/
def start (rx : List Urb) : Usb := ⟨rx, []⟩

theorem released_start (rx : List Urb) : Released (start rx) := ⟨by simp [start], by simp [start]⟩

/-- **The buffers are released** in every state of a run exactly when every completion of
the run is that of a cancelled URB. -/
theorem released_iff {rx : List Urb} {t : Usb} {es : List Event}
    (hr : run step (start rx) es = some t) :
    Always step Released (start rx) es ↔ Meets step Cancelled (start rx) es :=
  always_iff_meets (fun _ e _ h hC hs => released_step e h hC hs) (fun _ h => h)
    (fun _ _ _ h hC hs => not_released h hC hs) (released_start rx) hr

/-- A message is cancelled, and another is not taken. -/
theorem released_cancelled :
    Always step Released (start []) [.send .ok, .send .noBuf, .complete 0 (-ENOENT),
      .send (.submit (-ENOMEM))] :=
  (released_iff rfl).mpr (.cons rfl trivial (.cons rfl trivial (.cons rfl rfl (.cons rfl trivial trivial))))

/-- A message is sent, and its buffer is never freed. -/
theorem not_released_sent : ¬ Always step Released (start []) [.send .ok, .complete 0 0] := by
  intro h
  have hkept := (h.last rfl).kept ⟨false, false, 0⟩ (List.mem_singleton_self _)
  exact absurd (hkept.mp rfl) Bool.false_ne_true

end Buffers

end CanGuru
