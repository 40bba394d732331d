import CanGuru.Lifecycle.Run

/-!
# Disconnecting a device

`guru_dev_deinit` cancels the URBs on the two anchors and then destroys the channels.
A receive URB that was submitted again by its completion handler is on no anchor, so
it survives; and a channel that is still up sends its disable message when it is
destroyed, after the cancelling.

## The model

Any run of a device after any probe that succeeded, of any kind.

## What is proved

`stopped_iff` — every state of a run is such that the driver holds its URBs, if and
only if no completion handler submits its URB again and no message is submitted after
the cancelling.
-/

namespace CanGuru

open Calls Machine

/-! ### URBs that complete -/

theorem forall_mem_modify {l : List Urb} {f : Urb → Urb} {Q : Urb → Prop} (h : ∀ u ∈ l, Q u)
    (hf : ∀ u, Q u → Q (f u)) (i : ℕ) : ∀ u ∈ l.modify i f, Q u := by
  intro u hu
  obtain ⟨j, hj⟩ := List.mem_iff_getElem?.mp hu
  rw [List.getElem?_modify] at hj
  obtain ⟨v, hv, rfl⟩ := Option.map_eq_some_iff.mp hj
  have hvl : v ∈ l := List.mem_of_getElem? hv
  split_ifs
  · exact hf v (h v hvl)
  · exact h v hvl

namespace Lifecycle

open Device

/-- **The driver holds its URBs**: every URB in flight is on its anchor, and none is in
flight once they were cancelled. -/
structure Stopped (s : St) : Prop where
  /-- An URB in flight can be cancelled. -/
  anchored : s.dev.usb.Anchored
  /-- Nothing is in flight from the cancelling on. -/
  idle : s.dev.intfdata = false → s.dev.usb.Idle

/-- No completion handler submits its URB again, and once the URBs were cancelled no
message is submitted, the disable messages of `dev_deinit` included. -/
def Accounted (k : DeviceKind) (s : St) : Event → Prop
  | .rxComplete _ status _ _ _ err => ¬ (Resubmits status ∧ err = 0)
  | .txComplete _ _ => True
  | .kill => True
  | .deinit o => ∀ ch ∈ k.channels, ∀ d, s.dev.netdev ch = some d → d.up = true → (o ch).err ≠ 0
  | e => s.dev.intfdata = false → ∀ o ∈ e.calls, o.err ≠ 0

/-! ### The steps -/

section Usb

variable {usb : Usb} {i : ℕ}

/-- An URB in flight that completes stays on its anchor, or off it, unless it is
submitted again. -/
theorem rxComplete_anchored (h : usb.Anchored) (hf : inFlight usb.rx i = true)
    (resubmit : Bool) (err : ℤ) :
    (usb.rxComplete i resubmit err).Anchored ↔ ¬ (resubmit = true ∧ err = 0) := by
  constructor
  · rintro ha ⟨rfl, rfl⟩
    rw [inFlight] at hf
    cases hu : usb.rx[i]? with
    | none => rw [hu] at hf; cases hf
    | some u =>
      have hmem : { Usb.complete u with inFlight := true } ∈ (usb.rxComplete i true 0).rx := by
        refine List.mem_of_getElem? (i := i) ?_
        rw [Usb.rxComplete, List.getElem?_modify_eq, hu]
        rfl
      have := ha _ (List.mem_append_left _ hmem) rfl
      cases this
  · intro hn
    have hoff : (resubmit && decide (err = 0)) = false := by
      cases resubmit with
      | false => rfl
      | true => exact decide_eq_false fun he => hn ⟨rfl, he⟩
    obtain ⟨hrx, htx⟩ := List.forall_mem_append.mp h
    refine List.forall_mem_append.mpr ⟨forall_mem_modify hrx (fun u _ hfl => ?_) i, htx⟩
    rw [hoff] at hfl
    cases hfl

theorem txComplete_anchored (h : usb.Anchored) (status : ℤ) :
    (usb.txComplete i status).Anchored := by
  obtain ⟨hrx, htx⟩ := List.forall_mem_append.mp h
  refine List.forall_mem_append.mpr ⟨hrx, forall_mem_modify htx (fun u _ hfl => ?_) i⟩
  rw [Usb.complete_inFlight] at hfl
  cases hfl

theorem not_inFlight {l : List Urb} (h : ∀ u ∈ l, u.inFlight = false) : inFlight l i = false := by
  unfold inFlight
  cases hu : l[i]? with
  | none => rfl
  | some u => exact h u (List.mem_of_getElem? hu)

end Usb

/-- `dev_deinit` leaves nothing in flight if nothing was and no channel that is up sends its
disable message. -/
theorem devDeinit_idle {k : DeviceKind} {o : Chan → SendOutcome} {s : Device} :
    (s.devDeinit k o).usb.Idle ↔
      s.usb.Idle ∧ ∀ ch ∈ k.channels, ∀ d, s.netdev ch = some d → d.up = true → (o ch).err ≠ 0 := by
  have hstop : ∀ ch, (∀ u ∈ stopUrb (o ch) (s.chan ch), u.inFlight = false) ↔
      ∀ d, s.netdev ch = some d → d.up = true → (o ch).err ≠ 0 := by
    intro ch
    rw [stopUrb, chan]
    cases s.netdev ch with
    | none => simp
    | some d =>
      cases hup : d.up with
      | false => simp [hup]
      | true => simp [hup, SendOutcome.urb_inFlight]
  rw [Usb.Idle, devDeinit_rx, devDeinit_tx, ← List.append_assoc, List.forall_mem_append]
  refine and_congr Iff.rfl ?_
  simp only [List.forall_mem_flatMap, hstop]

section Steps

variable {k : DeviceKind} {s t : St} {e : Event}

/-- A step that is made of calls of `guru_send_data`. -/
theorem stopped_of_calls (h : Stopped s) (husb : t.dev.usb = s.dev.usb.sendAll e.calls)
    (hintf : t.dev.intfdata = s.dev.intfdata) :
    Stopped t ↔ (s.dev.intfdata = false → ∀ o ∈ e.calls, o.err ≠ 0) := by
  constructor
  · intro ht hi
    have hidle := ht.idle (hintf.trans hi)
    rw [husb, Usb.sendAll_idle] at hidle
    exact hidle.2
  · intro hc
    refine ⟨husb ▸ h.anchored.sendAll _, fun hi => ?_⟩
    rw [husb, Usb.sendAll_idle]
    rw [hintf] at hi
    exact ⟨h.idle hi, hc hi⟩

/-- **A step leaves the URBs held** exactly if it resubmits none and submits nothing
after the cancelling. -/
theorem stopped_step (h : Stopped s) (hs : step k s e = some t) : Stopped t ↔ Accounted k s e := by
  obtain ⟨-, hd, -⟩ := step_eq_some.mp hs
  have husb := step_usb hd
  cases e with
  | rxComplete i status actualLength buf alloc err =>
    obtain ⟨hf, ht⟩ := stepDev_rxComplete hd
    have hi : t.dev.intfdata = s.dev.intfdata := by rw [ht]
    have hrun : t.dev.intfdata ≠ false := by
      intro hoff
      have hidle := (List.forall_mem_append.mp (h.idle (hi ▸ hoff))).1
      rw [not_inFlight hidle] at hf
      cases hf
    have ha := rxComplete_anchored h.anchored hf (Resubmits status) err
    rw [decide_eq_true_iff,
      ← show t.dev.usb = s.dev.usb.rxComplete i (Resubmits status) err from husb] at ha
    exact ⟨fun ht => ha.mp ht.anchored, fun hc => ⟨ha.mpr hc, fun hoff => absurd hoff hrun⟩⟩
  | txComplete i status =>
    have ht := stepDev_txComplete hd
    refine iff_of_true ⟨husb ▸ txComplete_anchored h.anchored status, fun hoff => ?_⟩ trivial
    rw [ht] at hoff
    obtain ⟨hrx, htx⟩ := List.forall_mem_append.mp (h.idle hoff)
    rw [husb]
    exact List.forall_mem_append.mpr ⟨hrx,
      forall_mem_modify htx (fun u _ => Usb.complete_inFlight status u) i⟩
  | send o =>
    exact stopped_of_calls h husb (by rw [← Option.some.inj hd]; rfl)
  | opened ch openErr conf o =>
    obtain ⟨d, d', -, ht⟩ := stepDev_opened hd
    exact stopped_of_calls h husb (by rw [ht]; rfl)
  | stop ch o => exact stopped_of_calls h husb (by rw [stepDev_stop hd]; rfl)
  | xmit ch skb o => exact stopped_of_calls h husb (by rw [stepDev_xmit hd]; rfl)
  | kill =>
    have hidle : t.dev.usb.Idle := husb ▸ Usb.kill_idle h.anchored
    exact iff_of_true ⟨hidle.anchored, fun _ => hidle⟩ trivial
  | deinit o =>
    obtain ⟨hoff, ht⟩ := stepDev_deinit hd
    have hidle :=
      (devDeinit_idle (k := k) (o := o) (s := s.dev)).trans (and_iff_right (h.idle hoff))
    rw [← ht] at hidle
    have hi : t.dev.intfdata = false := by rw [ht, devDeinit_intfdata, hoff]
    exact ⟨fun h' => hidle.mp (h'.idle hi),
      fun hc => ⟨(hidle.mpr hc).anchored, fun _ => hidle.mpr hc⟩⟩

end Steps

/-! ### The first state -/

theorem stopped_start {k : DeviceKind} {o : ProbeOutcome} {boots : GuruBoots} {b : ℕ}
    (hinit : ((kzalloc boots b).devInit k o).1 = 0) : Stopped (start k o boots b) := by
  have hring := canguruUsbRxInit_ok (rx_of_devInit hinit) (kzalloc boots b).usb
  have hdev := guruDevInit_of_ok (congrArg Prod.fst hring)
  have hlater :
      (start k o boots b).dev = (seq (laterCalls k o) ((kzalloc boots b).guruDevInit o).2).2 := by
    rw [start, devInit_eq, seq_of_ok (congrArg Prod.fst hdev)]
  have hkept : (start k o boots b).dev.usb.Anchored ∧ (start k o boots b).dev.intfdata = true := by
    rw [hlater]
    refine inv_seq (P := fun s => s.usb.Anchored ∧ s.intfdata = true) (inv_laterCalls ?_ ?_ k o) ?_
    · rintro s t hu hi ⟨ha, hi'⟩
      exact ⟨hu ▸ ha, hi.trans hi'⟩
    · exact fun o s hs => ⟨hs.1.send o, hs.2⟩
    · rw [hdev, hring]
      refine ⟨Usb.Anchored.send (fun u hu _ => ?_) o.fwVer, rfl⟩
      rcases List.mem_append.mp hu with hu | hu
      · rw [List.eq_of_mem_replicate (show u ∈ List.replicate GURU_MAX_URBS Urb.submitted from hu)]
        rfl
      · cases hu
  refine ⟨hkept.1, fun hoff => ?_⟩
  rw [hkept.2] at hoff
  cases hoff

/-- **The driver holds its URBs in every state of a run** exactly if no completion
handler of the run submits its URB again, and no message is submitted after the
cancelling. -/
theorem stopped_iff {k : DeviceKind} {o : ProbeOutcome} {boots : GuruBoots} {b : ℕ}
    (hinit : ((kzalloc boots b).devInit k o).1 = 0) {es : List Event} {t : St}
    (hr : run (step k) (start k o boots b) es = some t) :
    Always (step k) Stopped (start k o boots b) es ↔
      Meets (step k) (Accounted k) (start k o boots b) es :=
  always_iff_meets (fun _ _ _ h hc hs => (stopped_step h hs).mpr hc) (fun _ h => h)
    (fun _ _ _ h hc hs ht => hc ((stopped_step h hs).mp ht)) (stopped_start hinit) hr

/-- A device whose only URB that completes is not submitted again, and whose channel
fails to send its disable message, is stopped. -/
theorem stopped_shutdown :
    Always (step .canguru) Stopped (start .canguru .ok .empty 0)
      [.opened (.can, 0) 0 .ok .ok, .rxComplete 0 (-ESHUTDOWN) 0 [] true 0, .kill,
        .deinit fun _ => .noUrb] := by
  refine (stopped_iff (by decide) rfl).mpr ⟨fun hoff => ?_,
    fun _ _ => ⟨?_, fun _ _ => ⟨trivial, fun _ _ =>
    ⟨fun _ _ _ _ _ => ?_, fun _ _ => trivial⟩⟩⟩⟩
  · exact absurd hoff (by decide)
  · exact fun h => absurd h.1 (by decide)
  · exact show SendOutcome.noUrb.err ≠ 0 by decide

/-! ### What survives a disconnect -/

/-- A receive URB in flight that is on no anchor survives `guru_dev_deinit`. -/
theorem mem_guruDevDeinit {s : Device} {u : Urb} (hu : u ∈ s.usb.rx) (ha : u.anchored = false)
    (k : DeviceKind) (o : Chan → SendOutcome) : u ∈ (s.guruDevDeinit k o).usb.rx := by
  rw [guruDevDeinit, devDeinit_rx]
  exact List.mem_map.mpr ⟨u, hu, by simp [ha]⟩

/-- After one message is received, a receive URB is in flight when `guru_dev_deinit`
has returned. -/
theorem not_stopped_received :
    ∃ t, run (step .canguru) (start .canguru .ok .empty 0)
        [.rxComplete 0 0 128 [] true 0, .kill, .deinit fun _ => .ok] = some t ∧
      t.gone = true ∧ ¬ Stopped t := by
  refine ⟨_, rfl, rfl, fun h => ?_⟩
  have hidle := h.idle (devDeinit_intfdata ..)
  have hu : (⟨true, false, 0⟩ : Urb) ∈
      (Usb.rxComplete 0 true 0 (start .canguru .ok .empty 0).dev.usb).rx := by decide
  exact Bool.noConfusion (hidle ⟨true, false, 0⟩ (List.mem_append_left _ (mem_guruDevDeinit hu rfl _ _)))

end Lifecycle

end CanGuru
