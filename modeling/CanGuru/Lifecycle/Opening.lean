import CanGuru.Lifecycle.Configuration

/-!
# Opening a channel

`ndo_open` acquires a candev, tells the device to enable the channel, and starts the
queue. A LIN channel sends its configuration before. What the device is told may fail: the
routine of a CAN channel ignores it, and that of a LIN channel ignores the one message and
returns with the candev open for the other.

## The model

One channel of either bus, and the messages that were taken for it. `ndo_open` may fail at
`open_candev` and at each of its messages, and so may the message of `ndo_stop`, which the
network core calls after an open that returned `0`.

## What is proved

`allOrNothing_iff` — a run goes only through states in which the last open did all it
should or nothing, and the calls of `open_candev` and `close_candev` are balanced, exactly
when every message of an open is taken, and no open fails while the device has the channel
enabled from a stop whose message was not taken.
-/

namespace CanGuru

open Machine

/-- The messages of an open that succeeds. -/
def Bus.openMsgs (bus : Bus) (d : NetDevice) : List GuruData :=
  bus.openConf d ++ [.fill bus.enableId [d.channelIdx, 1]]

namespace Opening

open CanGuru.Configuration (lastSent lastSent_last)

/-- A call of `ndo_open`. -/
structure Call where
  /-- The channel before the call. -/
  before : NetDevice
  /-- What it returned. -/
  ret : ℤ
  /-- The messages that were taken. -/
  out : List GuruData

/-- A channel. -/
structure St where
  /-- Its net device. -/
  dev : NetDevice
  /-- The messages taken for it, newest last. -/
  sent : List GuruData
  /-- The last call, if it was one of `ndo_open`. -/
  last : Option Call

/-- The steps. -/
inductive Event where
  /-- `ndo_open`, with what `open_candev` returns and how the messages end. -/
  | opened (openErr : ℤ) (conf o : SendOutcome)
  /-- `ndo_stop`, with how the message ends. -/
  | stop (o : SendOutcome)

/-- What a step does, where it can happen. -/
def step (bus : Bus) (s : St) : Event → Option St
  | .opened openErr conf o =>
    if s.dev.up then none
    else
      let (err, d, out) := bus.opsOpen openErr conf o s.dev
      some { dev := { d with up := err = 0 }, sent := s.sent ++ out, last := some ⟨s.dev, err, out⟩ }
  | .stop o =>
    if !s.dev.up then none
    else
      let (d, out) := bus.opsClose o s.dev
      some { dev := { d with up := false }, sent := s.sent ++ out, last := none }

/-- The last enable message taken for the channel enables it. -/
def Outstanding (bus : Bus) (s : St) : Prop :=
  lastSent s.dev.channelIdx bus.enableId s.sent = some [s.dev.channelIdx, 1]

/-- A channel that is down as `ndo_stop` leaves it, or as it was created. -/
structure Down (d : NetDevice) : Prop where
  /-- Its candev is closed. -/
  closed : d.candevOpens = d.candevCloses
  /-- It is stopped. -/
  state : d.state = .stopped
  /-- Its queue is stopped, or was never started. -/
  queue : d.queueStopped = true ∨ d.candevOpens = 0

/-- **An open does all or nothing.** -/
structure AllOrNothing (bus : Bus) (s : St) : Prop where
  /-- An open that returned `0` opened the candev, started the queue and sent its messages. -/
  opened : ∀ call, s.last = some call → call.ret = 0 →
    s.dev.candevOpens = s.dev.candevCloses + 1 ∧ s.dev.state = .errorActive ∧
      s.dev.queueStopped = false ∧
      call.out = bus.openMsgs call.before
  /-- An open that returned an error left the channel as it was, down, and not enabled. -/
  failed : ∀ call, s.last = some call → call.ret ≠ 0 → s.dev = call.before ∧ Down s.dev ∧
    ¬ Outstanding bus s
  /-- The candev is open while the channel is up. -/
  balanced : s.dev.candevOpens = s.dev.candevCloses + s.dev.up.toNat

/-- The messages of an open are taken, if it gets that far, and the channel is not enabled if
it does not. -/
def Taken (bus : Bus) (s : St) : Event → Prop
  | .opened openErr conf o =>
    (openErr = 0 → (bus = .lin → conf.err = 0) ∧ o.err = 0) ∧ (openErr ≠ 0 → ¬ Outstanding bus s)
  | .stop _ => True

/-- A channel that was never open. -/
structure Start (s : St) : Prop where
  /-- It is down. -/
  up : s.dev.up = false
  /-- Its candev was never opened or closed. -/
  candev : s.dev.candevOpens = 0 ∧ s.dev.candevCloses = 0
  /-- It is stopped. -/
  state : s.dev.state = .stopped
  /-- `ndo_open` was not called. -/
  last : s.last = none

/-! ### What the routines do -/

section Routines

variable (bus : Bus) {conf o : SendOutcome} (d : NetDevice)

/-- An open whose candev opens and whose configuration is taken. -/
theorem opsOpen_ok (hconf : bus = .lin → conf.err = 0) :
    bus.opsOpen 0 conf o d =
      (0, d.running,
        bus.openConf d ++ if o.err = 0 then [.fill bus.enableId [d.channelIdx, 1]] else []) := by
  cases bus with
  | can => rfl
  | lin =>
    have hconf := hconf rfl
    simp only [Bus.opsOpen, linguruOpsOpen, linguruSetLinConf, guruSendData, hconf,
      NetDevice.openCandev]
    rfl

theorem opsOpen_conf (hconf : conf.err ≠ 0) :
    Bus.lin.opsOpen 0 conf o d = (conf.err, { d with candevOpens := d.candevOpens + 1 }, []) := by
  obtain ⟨out, hopen⟩ := Bus.lin.opsOpen_eq 0 conf o d
  rw [hopen, if_neg (not_not.mpr rfl), if_pos ⟨rfl, hconf⟩]

theorem opsClose_down :
    (bus.opsClose o d).1.candevOpens = d.candevOpens ∧
      (bus.opsClose o d).1.candevCloses = d.candevCloses + 1 ∧
      (bus.opsClose o d).1.state = .stopped ∧ (bus.opsClose o d).1.queueStopped = true := by
  obtain ⟨stats, disposed, hclose⟩ := bus.opsClose_eq o d
  rw [hclose]
  exact ⟨rfl, rfl, rfl, rfl⟩

end Routines

section Steps

variable {bus : Bus} {s s' : St}

/-- What `ndo_open` does: it fails at `open_candev` and changes nothing, it fails at the
configuration and leaves the candev open, or it returns `0` whatever becomes of its last
message. -/
theorem step_opened {openErr : ℤ} {conf o : SendOutcome}
    (hs : step bus s (.opened openErr conf o) = some s') : s.dev.up = false ∧
      (openErr ≠ 0 ∧ s' = ⟨s.dev, s.sent, some ⟨s.dev, openErr, []⟩⟩ ∨
        openErr = 0 ∧ bus = .lin ∧ conf.err ≠ 0 ∧
          s' = ⟨{ s.dev with candevOpens := s.dev.candevOpens + 1 }, s.sent,
            some ⟨s.dev, conf.err, []⟩⟩ ∨
        openErr = 0 ∧ (bus = .lin → conf.err = 0) ∧ ∃ out,
          out = bus.openConf s.dev ++
            (if o.err = 0 then [.fill bus.enableId [s.dev.channelIdx, 1]] else []) ∧
            s' = ⟨{ s.dev.running with up := true }, s.sent ++ out, some ⟨s.dev, 0, out⟩⟩) := by
  rw [step] at hs
  split at hs
  case isTrue => cases hs
  case isFalse hup =>
    have hup : s.dev.up = false := Bool.eq_false_of_not_eq_true hup
    refine ⟨hup, ?_⟩
    by_cases he : openErr = 0
    · subst he
      by_cases hconf : bus = .lin → conf.err = 0
      · rw [opsOpen_ok bus s.dev hconf] at hs
        obtain rfl := Option.some.inj hs
        exact .inr (.inr ⟨rfl, hconf, _, rfl, rfl⟩)
      · obtain ⟨rfl, herr⟩ := Classical.not_imp.mp hconf
        rw [opsOpen_conf s.dev herr] at hs
        obtain rfl := Option.some.inj hs
        refine .inr (.inl ⟨rfl, rfl, herr, ?_⟩)
        simp only [herr, decide_false, List.append_nil, ← hup]
    · rw [bus.opsOpen_fail he] at hs
      obtain rfl := Option.some.inj hs
      refine .inl ⟨he, ?_⟩
      simp only [he, decide_false, List.append_nil, ← hup]

theorem step_stop {o : SendOutcome} (hs : step bus s (.stop o) = some s') :
    s.dev.up = true ∧ s'.dev = { (bus.opsClose o s.dev).1 with up := false } ∧ s'.last = none := by
  rw [step] at hs
  split at hs
  case isTrue => cases hs
  case isFalse hup =>
    obtain rfl := Option.some.inj hs
    exact ⟨by simpa using hup, rfl, rfl⟩

/-- The invariant. -/
structure Inv (bus : Bus) (s : St) : Prop extends AllOrNothing bus s where
  /-- A channel that is not up is down. -/
  down : s.dev.up = false → Down s.dev

theorem Start.inv (h : Start s) : Inv bus s where
  opened := by simp [h.last]
  failed := by simp [h.last]
  balanced := by rw [h.up, h.candev.1, h.candev.2]; rfl
  down := fun _ => ⟨h.candev.1.trans h.candev.2.symm, h.state, .inr h.candev.1⟩

/-- An open that does not get far keeps the invariant if the channel is not enabled, and one
that does if its messages are taken. -/
theorem Inv.ndoOpen (h : Inv bus s) {openErr : ℤ} {conf o : SendOutcome}
    (hC : Taken bus s (.opened openErr conf o))
    (hs : step bus s (.opened openErr conf o) = some s') : Inv bus s' := by
  obtain ⟨hup, ⟨he, rfl⟩ | ⟨he, hbus, hconf, -⟩ | ⟨he, hconf, out, hout, rfl⟩⟩ := step_opened hs
  · have hdown := h.down hup
    refine ⟨⟨?_, ?_, h.balanced⟩, h.down⟩
    · rintro call ⟨⟩ hret
      exact absurd hret he
    · rintro call ⟨⟩ -
      exact ⟨rfl, hdown, hC.2 he⟩
  · exact absurd ((hC.1 he).1 hbus) hconf
  · have hclosed := (h.down hup).closed
    rw [if_pos (hC.1 he).2] at hout
    refine ⟨⟨?_, ?_, congrArg (· + 1) hclosed⟩, fun hup' => nomatch hup'⟩
    · rintro call ⟨⟩ -
      exact ⟨congrArg (· + 1) hclosed, rfl, rfl, hout⟩
    · rintro call ⟨⟩ hret
      exact absurd rfl hret

theorem Inv.ndoStop (h : Inv bus s) {o : SendOutcome} (hs : step bus s (.stop o) = some s') :
    Inv bus s' := by
  obtain ⟨hup, hdev, hlast⟩ := step_stop hs
  obtain ⟨hopens, hcloses, hstate, hqueue⟩ := opsClose_down bus (o := o) s.dev
  have hbalanced := h.balanced
  rw [hup] at hbalanced
  have hclosed : (bus.opsClose o s.dev).1.candevOpens = (bus.opsClose o s.dev).1.candevCloses := by
    rw [hopens, hcloses, hbalanced]
    rfl
  refine ⟨⟨by simp [hlast], by simp [hlast], ?_⟩, fun _ => ?_⟩
  · rw [hdev]
    exact hclosed
  · rw [hdev]
    exact ⟨hclosed, hstate, .inl hqueue⟩

/-- **One step** keeps the invariant if the messages of an open are taken. -/
theorem inv_step (e : Event) (h : Inv bus s) (hC : Taken bus s e) (hs : step bus s e = some s') :
    Inv bus s' := by
  cases e with
  | opened openErr conf o => exact h.ndoOpen hC hs
  | stop o => exact h.ndoStop hs

/-- An open that loses a message, or that fails on a channel that is enabled, does neither all
nor nothing. -/
theorem not_allOrNothing {e : Event} (h : Inv bus s) (hC : ¬ Taken bus s e)
    (hs : step bus s e = some s') : ¬ AllOrNothing bus s' := by
  cases e with
  | stop o => exact absurd trivial hC
  | opened openErr conf o =>
    intro hall
    obtain ⟨hup, ⟨he, rfl⟩ | ⟨he, hbus, hconf, rfl⟩ | ⟨he, hconf, out, hout, rfl⟩⟩ := step_opened hs
    · have houtstanding : ¬ Outstanding bus s := (hall.failed _ rfl he).2.2
      exact hC ⟨fun h0 => absurd h0 he, fun _ => houtstanding⟩
    · -- The candev stays open.
      have hbalanced := hall.balanced
      have hclosed := (h.down hup).closed
      simp only [hup, Bool.toNat_false] at hbalanced
      omega
    · -- The enable message is not among those taken.
      have hmsgs := (hall.opened _ rfl rfl).2.2.2
      refine hC ⟨fun _ => ⟨hconf, ?_⟩, fun hne => absurd he hne⟩
      by_contra ho
      rw [if_neg ho, List.append_nil] at hout
      have hlen := congrArg List.length (hout.symm.trans hmsgs)
      simp [Bus.openMsgs] at hlen

end Steps

/-- **An open does all or nothing** in every state of a run exactly when every message of an
open that gets past `open_candev` is taken, and no other is called while the channel is
enabled. -/
theorem allOrNothing_iff {bus : Bus} {s t : St} (hs : Start s) {es : List Event}
    (hr : run (step bus) s es = some t) :
    Always (step bus) (AllOrNothing bus) s es ↔ Meets (step bus) (Taken bus) s es :=
  always_iff_meets (fun _ e _ h hC hs => inv_step e h hC hs) (fun _ h => h.toAllOrNothing)
    (fun _ _ _ h hC hs => not_allOrNothing h hC hs) hs.inv hr

/-! ### A fresh channel -/

/-- A channel that was just created. -/
def fresh : St := ⟨.create 0, [], none⟩

theorem start_fresh : Start fresh := ⟨rfl, ⟨rfl, rfl⟩, rfl, rfl⟩

/-- A LIN channel is opened, closed, and fails to open. -/
theorem allOrNothing_lin : Always (step .lin) (AllOrNothing .lin) fresh
    [.opened 0 .ok .ok, .stop .ok, .opened (-EINVAL) .ok .ok] := by
  apply (allOrNothing_iff start_fresh rfl).mpr
  refine .cons rfl ⟨fun _ => ⟨fun _ => rfl, rfl⟩,
    fun h => absurd rfl h⟩ (.cons rfl trivial (.cons rfl ?_ trivial))
  exact ⟨fun h => absurd h (by decide), fun _ => by unfold Outstanding; decide⟩

/-- A LIN channel whose configuration is not taken returns with its candev open. -/
theorem not_allOrNothing_conf :
    ¬ Always (step .lin) (AllOrNothing .lin) fresh [.opened 0 .noUrb .ok] := by
  intro h
  have hbalanced := (h.last rfl).balanced
  exact absurd hbalanced (by decide)

end Opening

end CanGuru
