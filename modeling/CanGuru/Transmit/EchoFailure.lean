import CanGuru.Lib.Machine
import CanGuru.Channel
import CanGuru.Driver

/-!
# Failing to keep an echo

A call of `ndo_start_xmit` submits its message before it puts the echo. If there is no
memory for the echo the call ends without a reply entry and without waking the queue it
has stopped. The answer to the message comes all the same, and is taken for the answer of
whatever channel is first in the list.

## The model

Any number of channels of either bus share a message layer. A call of `ndo_start_xmit` is
one step, with any outcome, and so is the answer of the device, which answers its messages
in the order of submission. Messages are numbered.

## What is proved

`not_unblocked` — however the run goes on to the answer, the queue of the channel is still
stopped after it. If the list is not empty then, the answer completes the frame of the
channel at its head (`step_answer`).
-/

namespace CanGuru

open Machine MsgNet

namespace EchoFailure

/-- A message on the wire. -/
structure Tx where
  /-- Its channel. -/
  chan : ℕ
  /-- Its number. -/
  num : ℕ
  deriving DecidableEq

/-- The channels of a message layer, and the device. -/
structure St where
  /-- The message layer. -/
  net : MsgNet
  /-- The messages that are not answered, in the order of submission. -/
  owed : List Tx
  /-- How many messages were submitted. -/
  count : ℕ

/-- The steps. -/
inductive Event where
  /-- `ndo_start_xmit` of channel `c`. -/
  | xmit (c : ℕ) (skb : Skb) (o : XmitOutcome)
  /-- The answer to the first message that is not answered. -/
  | answer (status : UInt8)

/-- What a step does, where it can happen. -/
def step (bus : Bus) (s : St) : Event → Option St
  | .xmit c skb o =>
    match s.net.netdev c with
    | none => none
    | some d =>
      if d.queueStopped then none
      else
        let (net, out) := startXmit bus.send o c skb s.net
        some { net := net, owed := s.owed ++ out.map fun _ => ⟨c, s.count⟩, count := s.count + out.length }
  | .answer status =>
    match s.owed with
    | [] => none
    | _ :: rest => some { s with net := s.net.sendCallback status, owed := rest }

/-- Channels that are open and have sent nothing. -/
structure Start (s : St) : Prop where
  /-- No reply is pending. -/
  pending : s.net.Pending []
  /-- No echo is kept. -/
  echoSkb : ∀ c d, s.net.netdev c = some d → d.echoSkb = none
  /-- No message is on the wire. -/
  owed : s.owed = []

/-- A call that submits its message and finds no memory for the echo. -/
structure Unkept (skb : Skb) (o : XmitOutcome) : Prop where
  /-- The frame is valid. -/
  valid : skb.invalid = false
  /-- The message is taken. -/
  send : o.send.err = 0
  /-- The echo cannot be allocated. -/
  oom : o.oom = true

/-- **Channel `c` is not blocked** by the answer that leads from `s` to `s'`: its queue is
awake, and no frame of another channel whose entry is in the list is completed. -/
structure Unblocked (c : ℕ) (s s' : St) : Prop where
  /-- The queue is awake. -/
  awake : ∃ d, s'.net.netdev c = some d ∧ d.queueStopped = false
  /-- The other channels that wait still do. -/
  others : ∀ c' ≠ c, s.net.replies.linked (.reply c') = true → s'.net.netdev c' = s.net.netdev c'

/-! ### The invariant -/

/-- The list is that of the channels `cs`, and a channel whose queue runs is not in it and
keeps no echo. -/
structure Inv (cs : List ℕ) (s : St) : Prop where
  /-- The list. -/
  pending : s.net.Pending cs
  /-- The channels whose queue runs. -/
  running : ∀ c d, s.net.netdev c = some d → d.queueStopped = false → c ∉ cs ∧ d.echoSkb = none

/-- Channel `c` is stopped and nothing will wake it. -/
structure Stuck (c : ℕ) (s : St) : Prop where
  /-- Its entry is not in the list. -/
  inv : ∃ cs, Inv cs s ∧ c ∉ cs
  /-- Its queue is stopped. -/
  stopped : ∃ d, s.net.netdev c = some d ∧ d.queueStopped = true

theorem Start.inv {s : St} (h : Start s) : Inv [] s :=
  ⟨h.pending, fun c d hd _ => ⟨List.not_mem_nil, h.echoSkb c d hd⟩⟩

section Steps

variable {bus : Bus} {s s' : St} {cs : List ℕ}

/-- What a call does: it changes its channel alone and leaves its queue running, or stopped
without an entry, or it appends the entry. -/
theorem step_xmit (h : Inv cs s) {c : ℕ} {skb : Skb} {o : XmitOutcome}
    (hs : step bus s (.xmit c skb o) = some s') :
    ∃ d, s.net.netdev c = some d ∧ d.queueStopped = false ∧
      ((∃ f : NetDevice → NetDevice, (f d).queueStopped = false ∧ (f d).echoSkb = d.echoSkb ∧
          s'.net = s.net.modify c f ∧ ¬ Unkept skb o) ∨
        (∃ f : NetDevice → NetDevice, (f d).queueStopped = true ∧ s'.net = s.net.modify c f ∧
          s'.owed = s.owed ++ [⟨c, s.count⟩]) ∨
        s'.net = (s.net.modify c .netifStopQueue).registered c skb ∧ ¬ Unkept skb o) := by
  rw [step] at hs
  split at hs
  case h_1 => cases hs
  case h_2 d hd =>
    split at hs
    case isTrue => cases hs
    case isFalse hq =>
      have hq : d.queueStopped = false := Bool.eq_false_of_not_eq_true hq
      refine ⟨d, hd, hq, ?_⟩
      by_cases hsend : skb.invalid = false ∧ o.send.err = 0
      · cases ho : o.oom with
        | true =>
          obtain ⟨msg, hx⟩ := @startXmit_refused bus _ _ _ hd o hsend.2 (.inl ho) skb hsend.1
          rw [hx] at hs
          obtain rfl := Option.some.inj hs
          exact .inr (.inl ⟨_, rfl, rfl, rfl⟩)
        | false =>
          obtain ⟨msg, hx⟩ :=
            @startXmit_ok bus _ _ _ hd o hsend.2 ho (h.running c d hd hq).2 skb hsend.1
          rw [hx] at hs
          obtain rfl := Option.some.inj hs
          refine .inr (.inr ⟨rfl, fun hunkept => ?_⟩)
          rw [hunkept.oom] at ho
          cases ho
      · obtain ⟨f, hf, hx⟩ := @startXmit_quiet bus _ _ _ hd o skb hsend
        rw [hx] at hs
        obtain rfl := Option.some.inj hs
        exact .inl ⟨f, (hf d).2.2 hq, (hf d).1, rfl,
          fun hunkept => hsend ⟨hunkept.valid, hunkept.send⟩⟩

/-- What an answer does: it finds the list empty, or completes the frame of the channel at
its head. -/
theorem step_answer (h : Inv cs s) {status : UInt8} (hs : step bus s (.answer status) = some s') :
    cs = [] ∧ s'.net = s.net ∨
      ∃ c rest, cs = c :: rest ∧ s'.net = (s.net.modify c (netSendCallback status)).delReply c := by
  rw [step] at hs
  split at hs
  case h_1 => cases hs
  case h_2 tx owed howed =>
    obtain rfl := Option.some.inj hs
    cases cs with
    | nil => exact .inl ⟨rfl, h.pending.sendCallback_nil status⟩
    | cons c rest => exact .inr ⟨c, rest, rfl, h.pending.sendCallback_cons status⟩

/-- A change of a channel that is not in the list keeps the invariant, if the channel keeps
no echo while its queue runs. -/
theorem Inv.modify (h : Inv cs s) {c : ℕ} (hc : c ∉ cs) {d : NetDevice}
    (hd : s.net.netdev c = some d) {f : NetDevice → NetDevice}
    (hf : (f d).queueStopped = false → (f d).echoSkb = none) (hnet : s'.net = s.net.modify c f) :
    Inv cs s' := by
  refine ⟨hnet ▸ h.pending, fun c' d' hd' hq' => ?_⟩
  rw [hnet] at hd'
  obtain ⟨rfl, d₀, hd₀, rfl⟩ | ⟨-, hd'⟩ := modify_eq_some.mp hd'
  · obtain rfl := Option.some.inj (hd₀.symm.trans hd)
    exact ⟨hc, hf hq'⟩
  · exact h.running c' d' hd' hq'

/-- A frame that is sent has its channel appended to the list. -/
theorem Inv.sent (h : Inv cs s) {c : ℕ} (hc : c ∉ cs) {skb : Skb}
    (hnet : s'.net = (s.net.modify c .netifStopQueue).registered c skb) : Inv (cs ++ [c]) s' := by
  refine ⟨hnet ▸ Pending.registered (modify_pending.mpr h.pending) hc skb, fun c' d' hd' hq' => ?_⟩
  rw [hnet, registered, modify_modify] at hd'
  obtain ⟨rfl, d₀, -, rfl⟩ | ⟨hne, hd'⟩ := modify_eq_some.mp hd'
  · -- The queue of the channel is stopped.
    cases hq'
  · obtain ⟨hnot, he⟩ := h.running c' d' hd' hq'
    refine ⟨fun hmem => ?_, he⟩
    rcases List.mem_append.mp hmem with hmem | hmem
    · exact hnot hmem
    · exact hne (List.mem_singleton.mp hmem)

/-- A frame that is completed has its channel, the head of the list, taken out. -/
theorem Inv.completed {c : ℕ} {rest : List ℕ} (h : Inv (c :: rest) s) {status : UInt8}
    (hnet : s'.net = (s.net.modify c (netSendCallback status)).delReply c) : Inv rest s' := by
  refine ⟨hnet ▸ Pending.delReply (modify_pending.mpr h.pending), fun c' d' hd' hq' => ?_⟩
  rw [hnet] at hd'
  obtain ⟨rfl, d₀, -, rfl⟩ | ⟨-, hd'⟩ := modify_eq_some.mp hd'
  · exact ⟨(List.nodup_cons.mp h.pending.nodup).1, netSendCallback_echoSkb status d₀⟩
  · obtain ⟨hnot, he⟩ := h.running c' d' hd' hq'
    exact ⟨fun hmem => hnot (List.mem_cons_of_mem c hmem), he⟩

/-- **One step** keeps the invariant. The list loses its head, or a channel whose queue ran
is appended to it. -/
theorem inv_step (e : Event) (h : Inv cs s) (hs : step bus s e = some s') :
    ∃ cs', Inv cs' s' ∧ ∀ c ∈ cs', c ∈ cs ∨ ∃ d, s.net.netdev c = some d ∧
      d.queueStopped = false := by
  cases e with
  | xmit c skb o =>
    obtain ⟨d, hd, hq, hcases⟩ := step_xmit h hs
    obtain ⟨hc, hecho⟩ := h.running c d hd hq
    obtain ⟨f, -, he, hnet, -⟩ | ⟨f, hf, hnet, -⟩ | ⟨hnet, -⟩ := hcases
    · exact ⟨cs, h.modify hc hd (fun _ => he.trans hecho) hnet, fun c' hc' => .inl hc'⟩
    · refine ⟨cs, h.modify hc hd (fun hq' => ?_) hnet, fun c' hc' => .inl hc'⟩
      rw [hf] at hq'
      cases hq'
    · refine ⟨cs ++ [c], h.sent hc hnet, fun c' hc' => ?_⟩
      rcases List.mem_append.mp hc' with hc' | hc'
      · exact .inl hc'
      · rw [List.mem_singleton.mp hc']
        exact .inr ⟨d, hd, hq⟩
  | answer status =>
    obtain ⟨rfl, hnet⟩ | ⟨c, rest, rfl, hnet⟩ := step_answer h hs
    · exact ⟨[], ⟨hnet ▸ h.pending, hnet ▸ h.running⟩, fun c' hc' => .inl hc'⟩
    · exact ⟨rest, h.completed hnet, fun c' hc' => .inl (List.mem_cons_of_mem c hc')⟩

/-- A channel that is stopped and not in the list is left alone. -/
theorem netdev_kept {e : Event} (h : Inv cs s) {c : ℕ} (hc : c ∉ cs) {d : NetDevice}
    (hd : s.net.netdev c = some d) (hq : d.queueStopped = true) (hs : step bus s e = some s') :
    s'.net.netdev c = some d := by
  rw [← hd]
  cases e with
  | xmit c' skb o =>
    obtain ⟨d', hd', hq', hcases⟩ := step_xmit h hs
    have hne : c ≠ c' := by
      rintro rfl
      rw [hd, Option.some.injEq] at hd'
      rw [← hd', hq] at hq'
      cases hq'
    obtain ⟨f, -, -, hnet, -⟩ | ⟨f, -, hnet, -⟩ | ⟨hnet, -⟩ := hcases
    · rw [hnet, modify_of_ne hne]
    · rw [hnet, modify_of_ne hne]
    · rw [hnet, registered_of_ne hne, modify_of_ne hne]
  | answer status =>
    obtain ⟨-, hnet⟩ | ⟨c', rest, rfl, hnet⟩ := step_answer h hs
    · rw [hnet]
    · have hne : c ≠ c' := fun heq => hc (heq ▸ List.mem_cons_self)
      rw [hnet, delReply_netdev, modify_of_ne hne]

/-- **Nothing wakes a channel** that is stopped and not in the list. -/
theorem Stuck.step {c : ℕ} {e : Event} (h : Stuck c s) (hs : step bus s e = some s') :
    Stuck c s' := by
  obtain ⟨cs, hinv, hc⟩ := h.inv
  obtain ⟨d, hd, hq⟩ := h.stopped
  obtain ⟨cs', hinv', hcs'⟩ := inv_step e hinv hs
  refine ⟨⟨cs', hinv', fun hmem => ?_⟩, d, netdev_kept hinv hc hd hq hs, hq⟩
  rcases hcs' c hmem with hmem | hrun
  · exact hc hmem
  · obtain ⟨d', hd', hq'⟩ := hrun
    exact not_stopped hd' hq' ⟨d, hd, hq⟩

/-- A call that finds no memory for the echo leaves its channel stuck, with a message on the
wire. -/
theorem stuck_of_unkept (h : Inv cs s) {c : ℕ} {skb : Skb} {o : XmitOutcome} (hun : Unkept skb o)
    (hs : step bus s (.xmit c skb o) = some s') :
    Stuck c s' ∧ s'.owed = s.owed ++ [⟨c, s.count⟩] := by
  obtain ⟨d, hd, hq, ⟨f, -, -, -, hkept⟩ | ⟨f, hf, hnet, howed⟩ | ⟨-, hkept⟩⟩ := step_xmit h hs
  · exact absurd hun hkept
  · obtain ⟨hc, -⟩ := h.running c d hd hq
    refine ⟨⟨⟨cs, h.modify hc hd (fun hq' => ?_) hnet, hc⟩, f d, ?_, hf⟩, howed⟩
    · rw [hf] at hq'
      cases hq'
    · rw [hnet, modify_self, hd]
      rfl
  · exact absurd hun hkept

/-- The device can answer the messages that are on the wire. -/
theorem run_answers (n : ℕ) (hn : n ≤ s.owed.length) :
    ∃ t, run (step bus) s (List.replicate n (.answer GURU_STATUS_DONE)) = some t ∧
      t.owed = s.owed.drop n := by
  induction n generalizing s with
  | zero => exact ⟨s, rfl, rfl⟩
  | succ n ih =>
    obtain ⟨tx, rest, howed⟩ := List.exists_cons_of_length_pos (Nat.lt_of_lt_of_le n.succ_pos hn)
    have hs : step bus s (.answer GURU_STATUS_DONE) =
        some { s with net := s.net.sendCallback GURU_STATUS_DONE, owed := rest } := by
      rw [step, howed]
    rw [howed] at hn
    obtain ⟨t, ht, hdrop⟩ :=
      ih (s := { s with net := s.net.sendCallback GURU_STATUS_DONE, owed := rest })
      (Nat.le_of_succ_le_succ hn)
    refine ⟨t, run_cons_eq_some.mpr ⟨_, hs, ht⟩, ?_⟩
    rw [hdrop, howed, List.drop_succ_cons]

end Steps

/-- **A failure to keep the echo blocks the channel.** The answer to its message comes, and
whatever happens before, the queue is stopped after it. -/
theorem not_unblocked {bus : Bus} {s u v : St} (h : Start s) {es : List Event}
    (hu : run (step bus) s es = some u) {c : ℕ} {skb : Skb} {o : XmitOutcome} (hun : Unkept skb o)
    (hv : step bus u (.xmit c skb o) = some v) :
    (∃ fs w, run (step bus) v fs = some w ∧ w.owed.head? = some ⟨c, u.count⟩) ∧
      ∀ fs w status t, run (step bus) v fs = some w → w.owed.head? = some ⟨c, u.count⟩ →
        step bus w (.answer status) = some t → ¬ Unblocked c w t := by
  have hkept : ∀ s e s', (∃ cs, Inv cs s) → step bus s e = some s' → ∃ cs, Inv cs s' := by
    rintro s e s' ⟨cs, hinv⟩ hs
    obtain ⟨cs', hinv', -⟩ := inv_step e hinv hs
    exact ⟨cs', hinv'⟩
  obtain ⟨cs, hinv⟩ := inv_of_run hkept ⟨[], h.inv⟩ hu
  obtain ⟨hstuck, howed⟩ := stuck_of_unkept hinv hun hv
  constructor
  · obtain ⟨w, hw, hdrop⟩ := @run_answers bus v u.owed.length (by simp [howed])
    exact ⟨_, w, hw, by rw [hdrop, howed, List.drop_left, List.head?_cons]⟩
  · intro fs w status t hw _ ht hun
    have hstuck' : Stuck c w := inv_of_run (fun _ _ _ h hs => h.step hs) hstuck hw
    obtain ⟨d, hd, hq⟩ := (hstuck'.step ht).stopped
    obtain ⟨d', hd', hq'⟩ := hun.awake
    exact not_stopped hd' hq' ⟨d, hd, hq⟩

/-! ### Two channels -/

/-- Two channels that have sent nothing. -/
def twoChannels : St := ⟨.ready 2, [], 0⟩

theorem start_twoChannels : Start twoChannels :=
  ⟨ready_pending 2, fun _ _ hd => ready_echoSkb hd, rfl⟩

/-- There is no memory for an echo. -/
def noMemory : XmitOutcome := ⟨.ok, true⟩

/-- A call of the first channel finds no memory for the echo. -/
theorem not_unblocked_first : ∃ v, step .lin twoChannels (.xmit 0 emptySkb noMemory) = some v ∧
    (∃ fs w, run (step .lin) v fs = some w ∧ w.owed.head? = some ⟨0, 0⟩) ∧
      ∀ fs w status t, run (step .lin) v fs = some w → w.owed.head? = some ⟨0, 0⟩ →
        step .lin w (.answer status) = some t → ¬ Unblocked 0 w t := by
  obtain ⟨v, hv⟩ : ∃ v, step .lin twoChannels (.xmit 0 emptySkb noMemory) = some v := ⟨_, rfl⟩
  exact ⟨v, hv, @not_unblocked .lin _ _ v start_twoChannels [] rfl 0 emptySkb noMemory ⟨rfl, rfl, rfl⟩ hv⟩

/-- The second channel sends a frame before the answer comes: the answer completes that
frame, and the queue of the first channel stays stopped. -/
theorem not_unblocked_second : ∃ v w t, step .can twoChannels (.xmit 0 emptySkb noMemory) = some v ∧
    run (step .can) v [.xmit 1 emptySkb .ok] = some w ∧ w.owed = [⟨0, 0⟩, ⟨1, 1⟩] ∧
      step .can w (.answer GURU_STATUS_DONE) = some t ∧
        (t.net.netdev 0).map NetDevice.queueStopped = some true ∧
        (t.net.netdev 1).map (fun d => d.disposed) = some [(emptySkb, .echoed)] ∧
        ¬ Unblocked 0 w t := by
  refine ⟨_, _, _, rfl, rfl, rfl, rfl, by decide, by decide, fun h => ?_⟩
  obtain ⟨d, hd, hq⟩ := h.awake
  have hmap := congrArg (Option.map NetDevice.queueStopped) hd
  rw [Option.map_some, hq] at hmap
  exact absurd hmap (by decide)

end EchoFailure

end CanGuru
