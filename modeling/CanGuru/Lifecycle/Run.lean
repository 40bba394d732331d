import CanGuru.Lib.Machine
import CanGuru.Lifecycle.Rules

/-!
# The life of a device

The runs of a device from the end of its probe to the end of `guru_dev_deinit`.

## The model

A step is the completion of an URB, a call of `guru_send_data` on its own (the
voltage, the bit timing, the termination), `ndo_open`, `ndo_stop` or
`ndo_start_xmit` of a channel, or one of the two halves of `guru_dev_deinit`: the
cancelling of the URBs, and `dev_deinit`. The channels stay registered between the
halves, so anything can come there. The completion handler of a receive URB runs as a
whole, with the bytes its buffer holds, and what the resubmission returns.

## What is proved

* `kill_deinit` — the two halves in a row are `guru_dev_deinit`.
* `step_usb` — what a step does to the URBs.
-/

namespace CanGuru

open Calls

/-! ### Calls of `guru_send_data` -/

/-- How the calls of `guru_send_data` that `ndo_open` makes end. -/
def Bus.openCalls (openErr : ℤ) (conf o : SendOutcome) : Bus → List SendOutcome
  | .can => if openErr ≠ 0 then [] else [o]
  | .lin => if openErr ≠ 0 then [] else if conf.err ≠ 0 then [conf] else [conf, o]

/-- `ndo_open` sends a message for each of its calls that succeeds. -/
theorem Bus.opsOpen_calls (bus : Bus) (openErr : ℤ) (conf o : SendOutcome) (d : NetDevice) :
    (bus.opsOpen openErr conf o d).2.2.length = (bus.openCalls openErr conf o).countP fun o =>
      o.err = 0 := by
  by_cases he : openErr = 0
  · cases bus with
    | can =>
      by_cases ho : o.err = 0 <;>
        simp [opsOpen, openCalls, canguruOpsOpen, canguruSetCanEnable, guruSendData,
          NetDevice.openCandev, he, ho]
    | lin =>
      by_cases hc : conf.err = 0
      · by_cases ho : o.err = 0 <;>
          simp [opsOpen, openCalls, linguruOpsOpen, linguruSetLinConf, linguruSetLinEnable,
            guruSendData, NetDevice.openCandev, he, hc, ho]
      · simp [opsOpen, openCalls, linguruOpsOpen, linguruSetLinConf, guruSendData,
          NetDevice.openCandev, he, hc]
  · rw [bus.opsOpen_fail he]
    cases bus <;> simp [openCalls, he]

/-- Calls of `guru_send_data`, one after the other. -/
def Usb.sendAll (os : List SendOutcome) (usb : Usb) : Usb := os.foldl (fun usb o => usb.send o) usb

theorem Usb.Anchored.sendAll {usb : Usb} (h : usb.Anchored) (os : List SendOutcome) :
    (usb.sendAll os).Anchored := by
  induction os generalizing usb with
  | nil => exact h
  | cons o os ih => exact ih (h.send o)

/-- Calls leave nothing in flight exactly if they all fail. -/
theorem Usb.sendAll_idle {usb : Usb} {os : List SendOutcome} :
    (usb.sendAll os).Idle ↔ usb.Idle ∧ ∀ o ∈ os, o.err ≠ 0 := by
  induction os generalizing usb with
  | nil => simp [sendAll]
  | cons o os ih =>
    rw [sendAll, List.foldl_cons, ← sendAll, ih, Usb.send_idle, List.forall_mem_cons, and_assoc]

/-! ### The steps -/

namespace Lifecycle

/-- A device that was probed. -/
structure St where
  /-- The device. -/
  dev : Device
  /-- `guru_dev_deinit` has returned. -/
  gone : Bool

/-- The steps. -/
inductive Event where
  /-- Receive URB `i` completes. -/
  | rxComplete (i : ℕ) (status : ℤ) (actualLength : UInt32) (buf : List UInt8)
    (alloc : Bool) (err : ℤ)
  /-- Transmit URB `i` completes. -/
  | txComplete (i : ℕ) (status : ℤ)
  /-- A call of `guru_send_data`. -/
  | send (o : SendOutcome)
  /-- `ndo_open`. -/
  | opened (ch : Chan) (openErr : ℤ) (conf o : SendOutcome)
  /-- `ndo_stop`. -/
  | stop (ch : Chan) (o : SendOutcome)
  /-- `ndo_start_xmit`. -/
  | xmit (ch : Chan) (skb : Skb) (o : MsgNet.XmitOutcome)
  /-- `guru_dev_deinit` cancels the URBs. -/
  | kill
  /-- `guru_dev_deinit` calls `dev_deinit`. -/
  | deinit (o : Chan → SendOutcome)

/-- How the calls of `guru_send_data` a step makes end. -/
def Event.calls : Event → List SendOutcome
  | .send o => [o]
  | .opened ch openErr conf o => ch.1.openCalls openErr conf o
  | .stop _ o => [o]
  | .xmit _ skb o => if skb.invalid then [] else [o.send]
  | _ => []

/-- The step is the second half of `guru_dev_deinit`. -/
def Event.isDeinit : Event → Bool
  | .deinit _ => true
  | _ => false

/-- The URB is in flight. -/
def inFlight (urbs : List Urb) (i : ℕ) : Bool := (urbs[i]?.map Urb.inFlight).getD false

/-- A completed receive URB that brought `buf`. -/
def bulkUrb (status : ℤ) (actualLength : UInt32) (buf : List UInt8) : BulkUrb :=
  { status := status, transferBufferLength := 128, actualLength := actualLength,
    transferBuffer := buf }

/-- What a step does to a device, where it can happen. The USB core completes an URB
that is in flight; the network core opens a channel that is down, closes one that is
up, and calls `ndo_start_xmit` of one that is up and whose queue is running. -/
def stepDev (k : DeviceKind) (s : Device) : Event → Option Device
  | .rxComplete i status actualLength buf alloc err =>
    if inFlight s.usb.rx i then
      let (guru, resubmit) :=
        canguruReadBulkCallback (runCallback alloc) (bulkUrb status actualLength buf) s.guru
      some { s with guru := guru, usb := s.usb.rxComplete i resubmit err }
    else none
  | .txComplete i status =>
    if inFlight s.usb.tx i then some { s with usb := s.usb.txComplete i status } else none
  | .send o => some (s.send o)
  | .opened ch openErr conf o =>
    match s.netdev ch with
    | none => none
    | some d =>
      if d.up then none
      else
        let (err, d, _) := ch.1.opsOpen openErr conf o d
        let s := { s with usb := s.usb.sendAll (Event.calls (.opened ch openErr conf o)) }
        some (s.modifyNet ch.1 fun m => m.modify ch.2 fun _ => { d with up := err = 0 })
  | .stop ch o =>
    match s.netdev ch with
    | none => none
    | some d => if !d.up then none else some (s.ndoStop ch o)
  | .xmit ch skb o =>
    match s.netdev ch with
    | none => none
    | some d =>
      if !d.up || d.queueStopped then none
      else
        let s := { s with usb := s.usb.sendAll (Event.calls (.xmit ch skb o)) }
        some (s.modifyNet ch.1 fun m => (MsgNet.startXmit ch.1.send o ch.2 skb m).1)
  | .kill => if s.intfdata then some s.killUrbs else none
  | .deinit o => if s.intfdata then none else some (s.devDeinit k o)

/-- A step; none comes after `guru_dev_deinit` has returned. -/
def step (k : DeviceKind) (s : St) (e : Event) : Option St :=
  if s.gone then none
  else (stepDev k s.dev e).map fun dev => { dev := dev, gone := e.isDeinit }

/-- The device after a probe. -/
def start (k : DeviceKind) (o : ProbeOutcome) (boots : GuruBoots) (b : ℕ) : St :=
  { dev := ((Device.kzalloc boots b).devInit k o).2, gone := false }

theorem kill_deinit (k : DeviceKind) (s : Device) (h : s.intfdata = true) (o : Chan → SendOutcome) :
    (stepDev k s .kill).bind (fun t => stepDev k t (.deinit o)) = some (s.guruDevDeinit k o) := by
  rw [stepDev, if_pos h]
  rfl

/-! ### What a step does to the URBs -/

/-- The completion handler submits its URB again. -/
def Resubmits (status : ℤ) : Prop :=
  ¬ (status = -ENOENT ∨ status = -EPIPE ∨ status = -EPROTO ∨ status = -ESHUTDOWN)

instance (status : ℤ) : Decidable (Resubmits status) := inferInstanceAs (Decidable (¬ _))

theorem readBulkCallback_snd {κ σ : Type} (call : κ → CurrMsg → σ → σ) (urb : BulkUrb)
    (guru : GuruDevice κ σ) :
    (canguruReadBulkCallback call urb guru).2 = decide (Resubmits urb.status) := by
  unfold canguruReadBulkCallback
  by_cases h0 : urb.status = 0
  · have hr : Resubmits urb.status := by
      rw [h0]
      decide
    rw [if_pos h0, decide_eq_true hr]
  · rw [if_neg h0]
    by_cases hr : Resubmits urb.status
    · rw [if_neg hr, decide_eq_true hr]
    · rw [if_pos (not_not.mp hr), decide_eq_false hr]

/-- What a step does to the URBs: it completes one, cancels those that are anchored, or
makes its calls of `guru_send_data`. -/
def Event.usb (k : DeviceKind) (s : Device) : Event → Usb
  | .rxComplete i status _ _ _ err => s.usb.rxComplete i (Resubmits status) err
  | .txComplete i status => s.usb.txComplete i status
  | .kill => s.usb.killRx.killTx
  | .deinit o => (s.devDeinit k o).usb
  | e => s.usb.sendAll e.calls

section Steps

variable {k : DeviceKind} {s t : Device}

theorem stepDev_opened {ch : Chan} {openErr : ℤ} {conf o : SendOutcome}
    (h : stepDev k s (.opened ch openErr conf o) = some t) :
    ∃ d d' : NetDevice, s.netdev ch = some d ∧
      t = { s with usb := s.usb.sendAll (Event.calls (.opened ch openErr conf o)) }.modifyNet ch.1
        fun m => m.modify ch.2 fun _ => d' := by
  rw [stepDev] at h
  cases hd : s.netdev ch with
  | none => rw [hd] at h; cases h
  | some d =>
    rw [hd] at h
    dsimp only at h
    split at h
    case isTrue => cases h
    case isFalse => exact ⟨d, _, rfl, (Option.some.inj h).symm⟩

theorem stepDev_stop {ch : Chan} {o : SendOutcome} (h : stepDev k s (.stop ch o) = some t) :
    t = s.ndoStop ch o := by
  rw [stepDev] at h
  split at h
  case h_1 => cases h
  case h_2 d hd =>
    split at h
    case isTrue => cases h
    case isFalse => exact (Option.some.inj h).symm

theorem stepDev_xmit {ch : Chan} {skb : Skb} {o : MsgNet.XmitOutcome}
    (h : stepDev k s (.xmit ch skb o) = some t) :
    t = { s with usb := s.usb.sendAll (Event.calls (.xmit ch skb o)) }.modifyNet ch.1
      fun m => (MsgNet.startXmit ch.1.send o ch.2 skb m).1 := by
  rw [stepDev] at h
  split at h
  case h_1 => cases h
  case h_2 d hd =>
    split at h
    case isTrue => cases h
    case isFalse => exact (Option.some.inj h).symm

theorem stepDev_rxComplete {i : ℕ} {status : ℤ} {actualLength : UInt32} {buf : List UInt8}
    {alloc : Bool} {err : ℤ}
    (h : stepDev k s (.rxComplete i status actualLength buf alloc err) = some t) :
    inFlight s.usb.rx i = true ∧
      t = { s with
        guru := (canguruReadBulkCallback (runCallback alloc) (bulkUrb status actualLength buf) s.guru).1
        usb := s.usb.rxComplete i (Resubmits status) err } := by
  have hresubmit :=
    readBulkCallback_snd (runCallback alloc) (bulkUrb status actualLength buf) s.guru
  rw [stepDev] at h
  split at h
  case isTrue hf =>
    generalize canguruReadBulkCallback (runCallback alloc) (bulkUrb status actualLength buf)
      s.guru = r at h hresubmit ⊢
    obtain ⟨guru, resubmit⟩ := r
    have hr : resubmit = decide (Resubmits status) := hresubmit
    subst hr
    exact ⟨hf, (Option.some.inj h).symm⟩
  case isFalse => cases h

theorem stepDev_txComplete {i : ℕ} {status : ℤ} (h : stepDev k s (.txComplete i status) = some t) :
    t = { s with usb := s.usb.txComplete i status } := by
  rw [stepDev] at h
  split at h
  case isTrue => exact (Option.some.inj h).symm
  case isFalse => cases h

theorem stepDev_kill (h : stepDev k s .kill = some t) : s.intfdata = true ∧ t = s.killUrbs := by
  rw [stepDev] at h
  split at h
  case isTrue hi => exact ⟨hi, (Option.some.inj h).symm⟩
  case isFalse => cases h

theorem stepDev_deinit {o : Chan → SendOutcome} (h : stepDev k s (.deinit o) = some t) :
    s.intfdata = false ∧ t = s.devDeinit k o := by
  rw [stepDev] at h
  split at h
  case isTrue => cases h
  case isFalse hi => exact ⟨Bool.eq_false_of_not_eq_true hi, (Option.some.inj h).symm⟩

/-- **What a step does to the URBs.** -/
theorem step_usb {e : Event} (h : stepDev k s e = some t) : t.usb = e.usb k s := by
  cases e with
  | rxComplete => rw [(stepDev_rxComplete h).2]; rfl
  | txComplete => rw [stepDev_txComplete h]; rfl
  | send => cases h; rfl
  | opened =>
    obtain ⟨d, d', -, rfl⟩ := stepDev_opened h
    rfl
  | stop => rw [stepDev_stop h]; rfl
  | xmit => rw [stepDev_xmit h]; rfl
  | kill => rw [(stepDev_kill h).2]; rfl
  | deinit => rw [(stepDev_deinit h).2]; rfl

/-- What a step of a device is to a run. -/
theorem step_eq_some {s t : St} {e : Event} :
    step k s e = some t ↔ s.gone = false ∧ stepDev k s.dev e = some t.dev ∧
    t.gone = e.isDeinit := by
  rw [step]
  cases hg : s.gone with
  | true => simp
  | false =>
    simp only [Bool.false_eq_true, if_false, Option.map_eq_some_iff, true_and]
    constructor
    · rintro ⟨dev, hd, rfl⟩
      exact ⟨hd, rfl⟩
    · rintro ⟨hd, hgone⟩
      exact ⟨t.dev, hd, by rw [← hgone]⟩

end Steps

end Lifecycle

end CanGuru
