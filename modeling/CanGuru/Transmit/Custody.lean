import Mathlib.Data.List.Perm.Basic
import CanGuru.Lib.Machine
import CanGuru.Channel
import CanGuru.Driver

/-!
# What becomes of a frame

`ndo_start_xmit` returns `NETDEV_TX_OK` at each of its exits, so every socket buffer it is
called with is the driver's from then on. One exit does nothing with it: if the message is
not taken, the queue is given back, and the buffer is neither kept nor freed.

## The model

Any number of channels of either bus share a message layer. A call of `ndo_start_xmit` is
cut into its pieces, between which everything else can happen: calls of other channels,
send statuses, `ndo_open` and `ndo_stop`. Every kernel call may end either way. Of the
network core it is only asked that it makes one call of a channel at a time. The buffers
that were handed over and those that are somewhere are compared as bags.

## What is proved

`accounted_iff` — in every state of a run each buffer a channel was called with is in
exactly one place, the call in progress, the echo slot or the buffers that were disposed
of, exactly when no message of the run is refused by `guru_send_data`.
-/

namespace CanGuru

open Machine MsgNet

namespace Custody

/-- The channels of a message layer, and what was handed to them. -/
structure St where
  /-- The message layer. -/
  net : MsgNet
  /-- Where the call of `ndo_start_xmit` of each channel stands. -/
  pc : ℕ → Pc
  /-- The buffers with which `ndo_start_xmit` of each channel was called. -/
  handed : ℕ → List Skb

/-- The steps. -/
inductive Event where
  /-- `ndo_start_xmit` of channel `c` is called with `skb`. -/
  | call (c : ℕ) (skb : Skb)
  /-- The next piece of the call of channel `c`. -/
  | piece (c : ℕ) (o : XmitOutcome)
  /-- A send status arrives and is handled. -/
  | answer (status : UInt8)
  /-- `ndo_open` of channel `c`. -/
  | opened (c : ℕ) (openErr : ℤ) (conf o : SendOutcome)
  /-- `ndo_stop` of channel `c`. -/
  | stop (c : ℕ) (o : SendOutcome)

/-- What a step does, where it can happen. -/
def step (bus : Bus) (s : St) : Event → Option St
  | .call c skb =>
    match s.net.netdev c, s.pc c with
    | some _, .idle =>
      let (pc, net) := xmitEnter c skb s.net
      some
        { net := net
          pc := Function.update s.pc c pc
          handed := Function.update s.handed c (s.handed c ++ [skb]) }
    | _, _ => none
  | .piece c o =>
    match s.net.netdev c with
    | none => none
    | some _ =>
      if s.pc c = .idle then none
      else
        let (pc, net, _) := xmitPhase bus.send o c (s.pc c) s.net
        some { s with net := net, pc := Function.update s.pc c pc }
  | .answer status => some { s with net := s.net.sendCallback status }
  | .opened c openErr conf o =>
    some { s with net := s.net.modify c fun d =>
      { (bus.opsOpen openErr conf o d).2.1 with up := (bus.opsOpen openErr conf o d).1 = 0 } }
  | .stop c o =>
    some { s with net := s.net.modify c fun d => { (bus.opsClose o d).1 with up := false } }

/-- Channels that were never called. -/
structure Start (s : St) : Prop where
  /-- No call is in progress. -/
  idle : ∀ c, s.pc c = .idle
  /-- No buffer was handed over. -/
  handed : ∀ c, s.handed c = []
  /-- No echo is kept. -/
  echoSkb : ∀ c d, s.net.netdev c = some d → d.echoSkb = none
  /-- No buffer was disposed of. -/
  disposed : ∀ c d, s.net.netdev c = some d → d.disposed = []

/-- The buffer of a call that has not passed it on yet. -/
def inCall : Pc → Option Skb
  | .stopped skb => some skb
  | .submitted skb => some skb
  | _ => none

/-- The buffers that are in the echo slot of a channel, were given back or were freed. -/
def held (d : NetDevice) : List Skb := d.echoSkb.toList ++ d.disposed.map Prod.fst

/-- **Every buffer is accounted for**: each one that was handed over is in one place. -/
def Accounted (s : St) : Prop :=
  ∀ c d, s.net.netdev c = some d → (s.handed c).Perm ((inCall (s.pc c)).toList ++ held d)

/-- The message of a call is taken. -/
def Taken (s : St) : Event → Prop
  | .piece c o => ∀ skb, s.pc c = .stopped skb → o.send.err = 0
  | _ => True

theorem Start.accounted {s : St} (h : Start s) : Accounted s := by
  intro c d hd
  rw [h.handed, h.idle, held, h.echoSkb c d hd, h.disposed c d hd]
  exact .nil

/-! ### What a channel holds -/

section Held

variable {d d' : NetDevice} {skb : Skb} {how : Disposal}

theorem held_congr (he : d'.echoSkb = d.echoSkb) (hd : d'.disposed = d.disposed) :
    held d' = held d := by
  rw [held, held, he, hd]

theorem held_disposed (he : d'.echoSkb = d.echoSkb)
    (hd : d'.disposed = d.disposed ++ [(skb, how)]) : (held d').Perm (skb :: held d) := by
  rw [held, he, hd, List.map_append, ← List.append_assoc]
  exact List.perm_append_singleton skb _

/-- An echo that is disposed of is still held. -/
theorem held_moved (h : d.echoSkb = some skb) (he : d'.echoSkb = none)
    (hd : d'.disposed = d.disposed ++ [(skb, how)]) : (held d').Perm (held d) := by
  rw [held, held, h, he, hd, List.map_append]
  exact List.perm_append_singleton skb _

theorem held_netSendCallback (status : UInt8) (d : NetDevice) :
    (held (netSendCallback status d)).Perm (held d) := by
  cases h : d.echoSkb with
  | none =>
    have hd : (netSendCallback status d).disposed = d.disposed := by
      simp [netSendCallback, NetDevice.canGetEchoSkb, h, NetDevice.netdevCompletedQueue,
        NetDevice.netifWakeQueue]
    rw [held_congr (by rw [netSendCallback_echoSkb, h]) hd]
  | some skb =>
    rw [netSendCallback_of_echo h]
    exact held_moved h rfl rfl

theorem held_closeCandev (d : NetDevice) : (held d.closeCandev).Perm (held d) := by
  cases h : d.echoSkb with
  | none =>
    rw [NetDevice.closeCandev, h]
    exact .of_eq (held_congr h.symm rfl)
  | some skb =>
    rw [NetDevice.closeCandev, h]
    exact held_moved h rfl rfl

theorem held_opsClose (bus : Bus) (o : SendOutcome) (d : NetDevice) :
    (held (bus.opsClose o d).1).Perm (held d) := by
  rw [bus.opsClose_dev]
  exact held_closeCandev _

theorem held_opsOpen (bus : Bus) (openErr : ℤ) (conf o : SendOutcome) (d : NetDevice) :
    held (bus.opsOpen openErr conf o d).2.1 = held d := by
  obtain ⟨out, hopen⟩ := bus.opsOpen_eq openErr conf o d
  rw [hopen]
  split_ifs <;> rfl

/-- **A buffer that is put is held**, as the echo or freed. -/
theorem held_canPutEchoSkb (oom : Bool) (skb : Skb) (d : NetDevice) :
    (held (d.canPutEchoSkb oom skb skb.frameLen).2).Perm (skb :: held d) := by
  have hdispose : (held (d.dispose skb .refused)).Perm (skb :: held d) := held_disposed rfl rfl
  cases h : d.echoSkb with
  | some _ =>
    rw [NetDevice.canPutEchoSkb, h]
    exact hdispose
  | none =>
    cases oom with
    | true =>
      rw [NetDevice.canPutEchoSkb, h]
      exact hdispose
    | false =>
      rw [NetDevice.canPutEchoSkb_of_none h, held, held, h]
      exact .refl _

end Held

/-! ### The steps -/

section Steps

variable {bus : Bus} {s s' : St}

/-- A step that is about one channel keeps the account, if it keeps that of the channel. -/
theorem Accounted.of_modify (h : Accounted s) {c : ℕ} {f : NetDevice → NetDevice}
    (hnet : s'.net.netdev = (s.net.modify c f).netdev) (hpc : ∀ c' ≠ c, s'.pc c' = s.pc c')
    (hhanded : ∀ c' ≠ c, s'.handed c' = s.handed c')
    (hc : ∀ d, s.net.netdev c = some d →
      (s'.handed c).Perm ((inCall (s'.pc c)).toList ++ held (f d))) :
    Accounted s' := by
  intro c' d' hd'
  rw [hnet] at hd'
  obtain ⟨rfl, d, hd, rfl⟩ | ⟨hne, hd'⟩ := modify_eq_some.mp hd'
  · exact hc d hd
  · rw [hpc c' hne, hhanded c' hne]
    exact h c' d' hd'

/-- A step that changes what a channel holds by the order alone keeps the account. -/
theorem Accounted.of_perm (h : Accounted s) {c : ℕ} {f : NetDevice → NetDevice}
    (hf : ∀ d, (held (f d)).Perm (held d)) (hnet : s'.net.netdev = (s.net.modify c f).netdev)
    (hpc : s'.pc = s.pc) (hhanded : s'.handed = s.handed) : Accounted s' := by
  refine h.of_modify hnet (fun c' _ => by rw [hpc]) (fun c' _ => by rw [hhanded]) fun d hd => ?_
  rw [hpc, hhanded]
  exact (h c d hd).trans ((hf d).symm.append_left _)

theorem Accounted.call (h : Accounted s) {c : ℕ} {skb : Skb}
    (hs : step bus s (.call c skb) = some s') : Accounted s' := by
  rw [step] at hs
  split at hs
  case h_2 => cases hs
  case h_1 d hd hpc =>
    have hidle : ∀ d, s.net.netdev c = some d → (s.handed c ++ [skb]).Perm (skb :: held d) := by
      intro d hd
      have hc := h c d hd
      rw [hpc] at hc
      exact (List.perm_append_singleton skb _).trans (hc.cons skb)
    rw [xmitEnter] at hs
    cases hi : skb.invalid with
    | true =>
      rw [if_pos hi] at hs
      obtain rfl := Option.some.inj hs
      refine h.of_modify rfl (fun c' hne => Function.update_of_ne hne ..)
        (fun c' hne => Function.update_of_ne hne ..)
        fun d hd => ?_
      dsimp only
      rw [Function.update_self, Function.update_self]
      have hdrop : (held (d.dropInvalidSkb skb)).Perm (skb :: held d) := held_disposed rfl rfl
      exact (hidle d hd).trans hdrop.symm
    | false =>
      rw [if_neg (by rw [hi]; exact Bool.false_ne_true)] at hs
      obtain rfl := Option.some.inj hs
      refine h.of_modify rfl (fun c' hne => Function.update_of_ne hne ..)
        (fun c' hne => Function.update_of_ne hne ..)
        fun d hd => ?_
      dsimp only
      rw [Function.update_self, Function.update_self]
      exact hidle d hd

/-- What a piece does to the buffer of its call: it drops it if the message is not taken,
and otherwise keeps it or has the channel hold it. -/
theorem xmitPhase_spec {c : ℕ} {d : NetDevice} (hd : s.net.netdev c = some d)
    (o : XmitOutcome) (pc : Pc) :
    ∃ (pc' : Pc) (net : MsgNet) (out : List GuruData) (f : NetDevice → NetDevice),
      xmitPhase bus.send o c pc s.net = (pc', net, out) ∧ net.netdev = (s.net.modify c f).netdev ∧
      ((∃ skb, pc = .stopped skb ∧ o.send.err ≠ 0 ∧ inCall pc' = none ∧ held (f d) = held d) ∨
        (∀ skb, pc = .stopped skb → o.send.err = 0) ∧
          ((inCall pc').toList ++ held (f d)).Perm ((inCall pc).toList ++ held d)) := by
  have hid : s.net.netdev = (s.net.modify c id).netdev := by
    rw [MsgNet.modify, Option.map_id, id, Function.update_eq_self]
  cases pc with
  | idle =>
    exact ⟨_, _, _, id, xmitPhase_idle .., hid,
    .inr ⟨fun _ hpc => Pc.noConfusion hpc, List.Perm.refl _⟩⟩
  | stopped skb =>
    by_cases he : o.send.err = 0
    · obtain ⟨msg, hx⟩ := @xmitPhase_stopped_ok bus _ _ _ hd o he skb
      exact ⟨_, _, _, id, hx, hid, .inr ⟨fun _ _ => he, List.Perm.refl _⟩⟩
    · exact ⟨_, _, _, _, xmitPhase_stopped_err hd he skb, rfl, .inl ⟨skb, rfl, he, rfl, rfl⟩⟩
  | submitted skb =>
    have hput := held_canPutEchoSkb o.oom skb d
    rw [xmitPhase, hd]
    dsimp only
    split
    · exact ⟨_, _, _, _, rfl, rfl, .inr ⟨fun _ hpc => Pc.noConfusion hpc, hput⟩⟩
    · exact ⟨_, _, _, _, rfl, rfl, .inr ⟨fun _ hpc => Pc.noConfusion hpc, hput⟩⟩
  | echoed frameLen =>
    exact ⟨_, _, _, id, xmitPhase_echoed hd o frameLen, hid,
      .inr ⟨fun _ hpc => Pc.noConfusion hpc, List.Perm.refl _⟩⟩
  | linked frameLen =>
    exact ⟨_, _, _, _, xmitPhase_linked hd o frameLen, rfl,
      .inr ⟨fun _ hpc => Pc.noConfusion hpc, List.Perm.refl _⟩⟩

/-- **A piece** keeps the account exactly when its message, if it sends one, is taken. -/
theorem accounted_piece (h : Accounted s) {c : ℕ} {o : XmitOutcome}
    (hs : step bus s (.piece c o) = some s') : Accounted s' ↔ Taken s (.piece c o) := by
  rw [step] at hs
  split at hs
  case h_1 => cases hs
  case h_2 d hd =>
    split at hs
    case isTrue => cases hs
    case isFalse =>
      obtain ⟨pc', net, out, f, hx, hnet, hcases⟩ := @xmitPhase_spec bus s c d hd o (s.pc c)
      rw [hx] at hs
      obtain rfl := Option.some.inj hs
      obtain ⟨skb, hpc, herr, hpc', hheld⟩ | ⟨htaken, hperm⟩ := hcases
      · refine iff_of_false (fun h' => ?_) fun htaken => herr (htaken skb hpc)
        -- The buffer was the call's before, and is nobody's now.
        have hfd : net.netdev c = some (f d) := by rw [hnet, modify_self, hd]; rfl
        have hbefore := (h c d hd).length_eq
        have hafter := (h' c (f d) hfd).length_eq
        dsimp only at hafter
        rw [hpc, inCall, Option.toList_some, List.length_append, List.length_singleton] at hbefore
        rw [Function.update_self, hpc', hheld, Option.toList_none, List.nil_append] at hafter
        omega
      · refine iff_of_true (h.of_modify hnet (fun c' hne => Function.update_of_ne hne ..) (fun _ _ => rfl)
          fun d' hd' => ?_) htaken
        rw [hd, Option.some.injEq] at hd'
        subst hd'
        dsimp only
        rw [Function.update_self]
        exact (h c d hd).trans hperm.symm

theorem Accounted.answer (h : Accounted s) (status : UInt8) :
    Accounted { s with net := s.net.sendCallback status } := by
  cases hf : s.net.firstReply with
  | some c =>
    rw [sendCallback_of_first hf]
    exact h.of_perm (held_netSendCallback status) rfl rfl rfl
  | none =>
    have hnet : (s.net.sendCallback status).netdev = s.net.netdev := by
      rw [sendCallback]
      split
      · rfl
      · split
        case h_1 c hc =>
          rw [firstReply, hc] at hf
          cases hf
        case h_2 => rfl
    intro c d hd
    exact h c d (hnet ▸ hd)

/-- **One step** keeps the account if the message of its call is taken. -/
theorem accounted_step (e : Event) (h : Accounted s) (hC : Taken s e)
    (hs : step bus s e = some s') : Accounted s' := by
  cases e with
  | call c skb => exact h.call hs
  | piece c o => exact (accounted_piece h hs).mpr hC
  | answer status =>
    obtain rfl := Option.some.inj hs
    exact h.answer status
  | opened c openErr conf o =>
    obtain rfl := Option.some.inj hs
    refine h.of_perm (fun d => ?_) rfl rfl rfl
    exact .of_eq (held_opsOpen bus openErr conf o d)
  | stop c o =>
    obtain rfl := Option.some.inj hs
    refine h.of_perm (fun d => ?_) rfl rfl rfl
    exact held_opsClose bus o d

/-- A message that is not taken loses its buffer. -/
theorem not_accounted (e : Event) (h : Accounted s) (hC : ¬ Taken s e)
    (hs : step bus s e = some s') : ¬ Accounted s' := by
  cases e with
  | piece c o => exact fun h' => hC ((accounted_piece h hs).mp h')
  | call | answer | opened | stop => exact absurd trivial hC

end Steps

/-- **Every buffer is accounted for** in every state of a run exactly when every message of
the run is taken. -/
theorem accounted_iff {bus : Bus} {s t : St} (h : Start s) {es : List Event}
    (hr : run (step bus) s es = some t) :
    Always (step bus) Accounted s es ↔ Meets (step bus) Taken s es :=
  always_iff_meets (fun _ e _ h hC hs => accounted_step e h hC hs) (fun _ h => h)
    (fun _ e _ h hC hs => not_accounted e h hC hs) h.accounted hr

/-! ### One channel -/

/-- A channel that was never called. -/
def oneChannel : St := ⟨.ready 1, fun _ => .idle, fun _ => []⟩

theorem start_oneChannel : Start oneChannel where
  idle _ := rfl
  handed _ := rfl
  echoSkb _ _ := ready_echoSkb
  disposed _ _ hd := by
    rw [ready_eq_create hd]
    rfl

/-- A frame is sent and answered, an invalid one is dropped, and one that is sent last is
flushed. -/
theorem accounted_flushed : Always (step .can) Accounted oneChannel
    [.opened 0 0 .ok .ok, .call 0 emptySkb, .piece 0 .ok, .piece 0 .ok, .piece 0 .ok, .piece 0 .ok,
      .answer GURU_STATUS_DONE, .call 0 { emptySkb with invalid := true }, .call 0 emptySkb,
        .piece 0 .ok, .piece 0 .ok,
      .stop 0 .ok] :=
  (accounted_iff start_oneChannel rfl).mpr (.cons rfl trivial (.cons rfl trivial (.cons rfl (fun _ _ => rfl)
    (.cons rfl (fun _ _ => rfl) (.cons rfl (fun _ _ => rfl) (.cons rfl (fun _ _ => rfl) (.cons rfl trivial
    (.cons rfl trivial (.cons rfl trivial (.cons rfl (fun _ _ => rfl) (.cons rfl (fun _ _ => rfl)
    (.cons rfl trivial trivial))))))))))))

/-- There is no URB for the message of a frame: the call returns, and the frame is neither
kept nor freed. -/
theorem not_accounted_noUrb : ∃ t, run (step .can) oneChannel
    [.opened 0 0 .ok .ok, .call 0 emptySkb, .piece 0 ⟨.noUrb, false⟩] = some t ∧
      t.handed 0 = [emptySkb] ∧ t.pc 0 = .idle ∧ (t.net.netdev 0).map held = some [] ∧
      ¬ Accounted t := by
  refine ⟨_, rfl, rfl, rfl, rfl, fun h => ?_⟩
  exact absurd (h 0 _ rfl).length_eq (by decide)

end Custody

end CanGuru
