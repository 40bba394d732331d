import CanGuru.Lib.Machine
import CanGuru.Driver
import CanGuru.Channel

/-!
# A reply entry that is appended twice

`canguru_send_callback` takes the entry at the head of the list, runs its callback and
deletes it from the list after that. The callback wakes the queue of the channel, and
from then on `ndo_start_xmit` may run and append the same entry again, which is still
linked: the deletion that follows takes out the entry of the newer frame.

## The model

Any number of channels share a message layer. The handler of a send status is three
steps; `ndo_start_xmit` is one, whose echo is kept, and may come in between. The device
answers the messages in the order of their submission.

## What is proved

`registered_iff` — a run never appends an entry that is linked, and has the entry of
a channel in the list exactly when the channel waits for an answer, exactly when no
frame of a channel is sent between the callback of the channel and the deletion of
its entry.
-/

namespace CanGuru

open Machine MsgNet

namespace Relink

/-- Where the handler of a send status stands. -/
inductive Handler where
  /-- No status is being handled. -/
  | idle
  /-- The entry of channel `c` was taken. -/
  | taken (c : ℕ) (status : UInt8)
  /-- The callback of channel `c` has run. -/
  | called (c : ℕ)
  deriving DecidableEq

/-- The channel whose entry the handler has in hand. -/
def Handler.held : Handler → List ℕ
  | .idle => []
  | .taken c _ => [c]
  | .called c => [c]

/-- The channels of a message layer, the handler and the device. -/
structure St where
  /-- The message layer. -/
  net : MsgNet
  /-- The handler. -/
  handler : Handler
  /-- The channels whose frames are not answered yet, in the order of submission. -/
  owed : List ℕ
  /-- An entry was appended while it was linked. -/
  relinked : Bool

/-- The steps. -/
inductive Event where
  /-- `ndo_start_xmit` of channel `c`, whose message is taken or not. -/
  | xmit (c : ℕ) (skb : Skb) (o : SendOutcome)
  /-- The answer to the first message arrives, and the handler takes an entry. -/
  | take (status : UInt8)
  /-- The handler runs the callback. -/
  | callback
  /-- The handler deletes the entry. -/
  | del

/-- What a step does, where it can happen. -/
def step (bus : Bus) (s : St) : Event → Option St
  | .xmit c skb o =>
    match s.net.netdev c with
    | none => none
    | some d =>
      if d.queueStopped then none
      else
        let (net, out) := startXmit bus.send ⟨o, false⟩ c skb s.net
        -- The entry is appended if the message is taken and there is room for the echo.
        let appends := out ≠ [] ∧ d.echoSkb = none
        some
          { s with
            net := net
            owed := s.owed ++ out.map fun _ => c
            relinked := s.relinked || (appends && s.net.replies.linked (.reply c)) }
  | .take status =>
    match s.handler, s.owed with
    | .idle, _ :: rest =>
      if ListHead.listEmpty s.net.replies .listHead then some { s with owed := rest }
      else
        match s.net.firstReply with
        | some c => some { s with handler := .taken c status, owed := rest }
        | none => none
    | _, _ => none
  | .callback =>
    match s.handler with
    | .taken c status =>
      some { s with net := s.net.modify c (netSendCallback status), handler := .called c }
    | _ => none
  | .del =>
    match s.handler with
    | .called c => some { s with net := s.net.delReply c, handler := .idle }
    | _ => none

/-- Channels that wait for nothing. -/
structure Start (s : St) : Prop where
  /-- No reply is pending. -/
  pending : s.net.Pending []
  /-- No echo is kept. -/
  echoSkb : ∀ c d, s.net.netdev c = some d → d.echoSkb = none
  /-- No status is being handled. -/
  handler : s.handler = .idle
  /-- No message is on the wire. -/
  owed : s.owed = []
  /-- No entry was appended while it was linked. -/
  relinked : s.relinked = false

/-- **The entries are registered**: none was appended while it was linked, and between
two statuses the list has the entry of a channel once if the channel waits for an
answer, and not otherwise. -/
structure Registered (s : St) : Prop where
  /-- No entry was appended while it was linked. -/
  relinked : s.relinked = false
  /-- The list has the entries of the channels that wait. -/
  listed : s.handler = .idle →
    ∃ cs, s.net.Pending cs ∧ ∀ c, cs.count c = if c ∈ s.owed then 1 else 0

/-- No frame of a channel is sent between its callback and the deletion of its entry. -/
def Apart (s : St) : Event → Prop
  | .xmit c skb o => skb.invalid = false → o.err = 0 → s.handler ≠ .called c
  | _ => True

/-- The invariant. -/
structure Inv (s : St) : Prop where
  /-- The list holds the entry in hand, and those of the channels that wait. -/
  pending : s.net.Pending (s.handler.held ++ s.owed)
  /-- No entry was appended while it was linked. -/
  relinked : s.relinked = false
  /-- A channel that waits has stopped its queue. -/
  stopped : ∀ c, c ∈ s.owed ∨ (∃ status, s.handler = .taken c status) →
    ∃ d, s.net.netdev c = some d ∧ d.queueStopped = true
  /-- A channel that does not keeps no echo. -/
  echoSkb : ∀ c, c ∉ s.owed → (∀ status, s.handler ≠ .taken c status) →
    ∀ d, s.net.netdev c = some d → d.echoSkb = none

theorem Start.inv {s : St} (h : Start s) : Inv s where
  pending := by
    rw [h.handler, h.owed]
    exact h.pending
  relinked := h.relinked
  stopped := by
    rintro c (hc | ⟨status, hc⟩)
    · rw [h.owed] at hc
      cases hc
    · rw [h.handler] at hc
      cases hc
  echoSkb := fun c _ _ => h.echoSkb c

/-- **The invariant gives the property.** -/
theorem Inv.registered {s : St} (h : Inv s) : Registered s where
  relinked := h.relinked
  listed := by
    intro hidle
    have hp := h.pending
    rw [hidle] at hp
    exact ⟨s.owed, hp, fun c => List.Nodup.count hp.nodup⟩

/-! ### The steps -/

section Steps

variable {bus : Bus} {s s' : St}

theorem Inv.free {c : ℕ} {d : NetDevice} (hs : Inv s) (hd : s.net.netdev c = some d)
    (hq : d.queueStopped = false) :
    c ∉ s.owed ∧ (∀ status, s.handler ≠ .taken c status) ∧ d.echoSkb = none := by
  have hno : ¬ (c ∈ s.owed ∨ ∃ status, s.handler = .taken c status) :=
    mt (hs.stopped c) (not_stopped hd hq)
  rw [not_or, not_exists] at hno
  exact ⟨hno.1, hno.2, hs.echoSkb c hno.1 hno.2 d hd⟩

/-- A call of `ndo_start_xmit` sends nothing, or sends the frame and appends the entry. -/
theorem step_xmit (hs : Inv s) {c : ℕ} {skb : Skb} {o : SendOutcome}
    (h : step bus s (.xmit c skb o) = some s') :
    ∃ d, s.net.netdev c = some d ∧ d.queueStopped = false ∧
      ((¬ (skb.invalid = false ∧ o.err = 0) ∧
        ∃ f : NetDevice → NetDevice, (∀ d, (f d).echoSkb = d.echoSkb) ∧
          s' = { s with net := s.net.modify c f }) ∨
        (skb.invalid = false ∧ o.err = 0) ∧
          s' =
            { s with
              net := (s.net.modify c .netifStopQueue).registered c skb
              owed := s.owed ++ [c]
              relinked := s.relinked || s.net.replies.linked (.reply c) }) := by
  rw [step] at h
  split at h
  case h_1 => cases h
  case h_2 d hd =>
    split at h
    case isTrue => cases h
    case isFalse hq =>
      have hq := Bool.eq_false_of_not_eq_true hq
      obtain ⟨-, -, he⟩ := hs.free hd hq
      refine ⟨d, hd, hq, ?_⟩
      by_cases hsent : skb.invalid = false ∧ o.err = 0
      · obtain ⟨msg, hx⟩ := @startXmit_ok bus _ _ _ hd ⟨o, false⟩ hsent.2 rfl he skb hsent.1
        simp only [hx, he, List.map_cons, List.map_nil, ne_eq, List.cons_ne_nil,
          not_false_eq_true, and_self, decide_true, Bool.true_and, Option.some.injEq] at h
        exact .inr ⟨hsent, h.symm⟩
      · obtain ⟨f, hf, hx⟩ := @startXmit_quiet bus _ _ _ hd ⟨o, false⟩ skb hsent
        simp only [hx, List.map_nil, List.append_nil, ne_eq, not_true_eq_false, false_and,
          decide_false, Bool.false_and, Bool.or_false, Option.some.injEq] at h
        exact .inl ⟨hsent, f, fun d => (hf d).1, h.symm⟩

theorem Inv.quiet (hs : Inv s) {c : ℕ} {d : NetDevice} (hd : s.net.netdev c = some d)
    (hq : d.queueStopped = false) {f : NetDevice → NetDevice}
    (hf : ∀ d, (f d).echoSkb = d.echoSkb) : Inv { s with net := s.net.modify c f } := by
  obtain ⟨hfree, htaken, he⟩ := hs.free hd hq
  refine ⟨hs.pending, hs.relinked, ?stopped, ?echoSkb⟩
  case stopped =>
    intro c' hc'
    have hne : c' ≠ c := by
      rintro rfl
      rcases hc' with hc' | ⟨status, hc'⟩
      · exact hfree hc'
      · exact htaken status hc'
    simp only [modify_of_ne hne]
    exact hs.stopped c' hc'
  case echoSkb =>
    intro c' hc' ht d' hd'
    obtain ⟨rfl, d₀, hd₀, rfl⟩ | ⟨-, hd'⟩ := modify_eq_some.mp hd'
    · obtain rfl := Option.some.inj (hd₀.symm.trans hd)
      rw [hf, he]
    · exact hs.echoSkb c' hc' ht d' hd'

/-- A frame that is sent while the entry is not in hand keeps the invariant. -/
theorem Inv.sent (hs : Inv s) {c : ℕ} {d : NetDevice} (hd : s.net.netdev c = some d)
    (hq : d.queueStopped = false) (hC : s.handler ≠ .called c) (skb : Skb) :
    Inv
      { s with
        net := (s.net.modify c .netifStopQueue).registered c skb
        owed := s.owed ++ [c]
        relinked := s.relinked || s.net.replies.linked (.reply c) } := by
  obtain ⟨hfree, htaken, -⟩ := hs.free hd hq
  have hheld : c ∉ s.handler.held := by
    cases hh : s.handler with
    | idle => exact List.not_mem_nil
    | taken c' status => exact fun h => htaken status (by rw [hh, List.mem_singleton.mp h])
    | called c' => exact fun h => hC (by rw [hh, List.mem_singleton.mp h])
  have hnot : c ∉ s.handler.held ++ s.owed := fun h => (List.mem_append.mp h).elim hheld hfree
  constructor
  case pending =>
    rw [← List.append_assoc]
    exact Pending.registered (modify_pending.mpr hs.pending) hnot skb
  case relinked =>
    have hl := mt (hs.pending.linked_iff c).mp hnot
    rw [hs.relinked, Bool.false_or]
    exact Bool.eq_false_of_not_eq_true hl
  case stopped =>
    intro c' hc'
    by_cases hne : c' = c
    · subst hne
      exact ⟨(d.netifStopQueue.putEcho skb).netdevSentQueue skb.frameLen, by simp [hd], rfl⟩
    · simp only [registered_of_ne hne, modify_of_ne hne]
      refine hs.stopped c' (hc'.imp_left fun h => ?_)
      exact (List.mem_append.mp h).resolve_right fun h => hne (List.mem_singleton.mp h)
  case echoSkb =>
    intro c' hc' ht d' hd'
    rw [List.mem_append, not_or, List.mem_singleton] at hc'
    rw [registered_of_ne hc'.2, modify_of_ne hc'.2] at hd'
    exact hs.echoSkb c' hc'.1 ht d' hd'

/-- The handler takes the entry of the channel whose frame is answered. -/
theorem Inv.take (hs : Inv s) {status : UInt8} (h : step bus s (.take status) = some s') :
    Inv s' := by
  rw [step] at h
  split at h
  case h_2 => cases h
  case h_1 c rest hidle ho =>
    have hp := hs.pending
    rw [hidle, ho] at hp
    have hne : ¬ ListHead.listEmpty s.net.replies .listHead = true :=
      mt hp.listEmpty.mp (List.cons_ne_nil c rest)
    rw [if_neg hne, hp.firstReply] at h
    simp only [Handler.held, List.nil_append, List.head?_cons, Option.some.injEq] at h
    subst h
    have hstopped := hs.stopped
    have hecho := hs.echoSkb
    rw [ho] at hstopped hecho
    refine ⟨hp, hs.relinked, ?stopped, ?echoSkb⟩
    case stopped =>
      rintro c' (hc' | ⟨status', hc'⟩)
      · exact hstopped c' (.inl (List.mem_cons_of_mem _ hc'))
      · have hcc : c = c' := (Handler.taken.inj hc').1
        exact hstopped c' (.inl (hcc ▸ List.mem_cons_self))
    case echoSkb =>
      intro c' hc' ht
      have hne : c' ≠ c := fun h => ht status (by rw [h])
      refine hecho c' (fun h => ?_) (fun status' h => ?_)
      · exact (List.mem_cons.mp h).elim hne hc'
      · rw [hidle] at h
        cases h

theorem Inv.callback (hs : Inv s) (h : step bus s .callback = some s') : Inv s' := by
  rw [step] at h
  split at h
  case h_2 => cases h
  case h_1 c status htaken =>
    rw [Option.some.injEq] at h
    subst h
    have hp := hs.pending
    rw [htaken] at hp
    have hc : c ∉ s.owed := (List.nodup_cons.mp hp.nodup).1
    refine ⟨hp, hs.relinked, ?stopped, ?echoSkb⟩
    case stopped =>
      rintro c' (hc' | ⟨_, hc'⟩)
      · have hne : c' ≠ c := fun h => hc (h ▸ hc')
        simp only [modify_of_ne hne]
        exact hs.stopped c' (.inl hc')
      · cases hc'
    case echoSkb =>
      intro c' hc' _ d hd
      obtain ⟨rfl, d₀, -, rfl⟩ | ⟨hne, hd⟩ := modify_eq_some.mp hd
      · exact netSendCallback_echoSkb status d₀
      · refine hs.echoSkb c' hc' (fun status' h => ?_) d hd
        rw [htaken] at h
        exact hne (Handler.taken.inj h).1.symm

theorem Inv.del (hs : Inv s) (h : step bus s .del = some s') : Inv s' := by
  rw [step] at h
  split at h
  case h_2 => cases h
  case h_1 c hcalled =>
    rw [Option.some.injEq] at h
    subst h
    have hp := hs.pending
    rw [hcalled] at hp
    refine ⟨Pending.delReply hp, hs.relinked, ?stopped, ?echoSkb⟩
    case stopped =>
      rintro c' (hc' | ⟨_, hc'⟩)
      · exact hs.stopped c' (.inl hc')
      · cases hc'
    case echoSkb =>
      intro c' hc' _
      refine hs.echoSkb c' hc' fun status h => ?_
      rw [hcalled] at h
      cases h

/-- **One step**: a step that keeps apart keeps the invariant. -/
theorem inv_step (bus : Bus) (s : St) (e : Event) (s' : St) (hs : Inv s) (hC : Apart s e)
    (h : step bus s e = some s') : Inv s' := by
  cases e with
  | xmit c skb o =>
    obtain ⟨d, hd, hq, ⟨-, f, hf, rfl⟩ | ⟨hsent, rfl⟩⟩ := step_xmit hs h
    · exact hs.quiet hd hq hf
    · exact hs.sent hd hq (hC hsent.1 hsent.2) skb
  | take status => exact hs.take h
  | callback => exact hs.callback h
  | del => exact hs.del h

/-- A frame that is sent while the entry is in hand appends it again. -/
theorem relinked_of_not_apart {e : Event} (hs : Inv s) (hC : ¬ Apart s e)
    (h : step bus s e = some s') : s'.relinked = true := by
  cases e with
  | take status => exact absurd trivial hC
  | callback => exact absurd trivial hC
  | del => exact absurd trivial hC
  | xmit c skb o =>
    simp only [Apart, not_forall, not_not] at hC
    obtain ⟨hi, herr, hcalled⟩ := hC
    obtain ⟨d, -, -, ⟨hno, -⟩ | ⟨-, rfl⟩⟩ := step_xmit hs h
    · exact absurd ⟨hi, herr⟩ hno
    · have hp := hs.pending
      rw [hcalled] at hp
      have hl : s.net.replies.linked (.reply c) = true := (hp.linked_iff c).mpr List.mem_cons_self
      rw [hl, Bool.or_true]

end Steps

/-- **The entries are registered** exactly when no frame of a channel is sent between
the callback of the channel and the deletion of its entry. -/
theorem registered_iff (bus : Bus) {s t : St} (hs : Start s) {es : List Event}
    (hr : run (step bus) s es = some t) :
    Always (step bus) Registered s es ↔ Meets (step bus) Apart s es := by
  refine @always_iff_meets _ _ (step bus) Apart Inv Registered (inv_step bus)
    (fun _ => Inv.registered) ?_
    s t es hs.inv hr
  intro s e s' hi hC hstep hP
  have hre := relinked_of_not_apart hi hC hstep
  rw [hP.relinked] at hre
  cases hre

/-! ### One channel -/

/-- A channel that waits for nothing. -/
def oneChannel : St := ⟨.ready 1, .idle, [], false⟩

theorem start_oneChannel : Start oneChannel where
  pending := ready_pending 1
  echoSkb := fun _ _ => ready_echoSkb
  handler := rfl
  owed := rfl
  relinked := rfl

/-- The next frame is sent when the entry is deleted. -/
theorem registered_after :
    Always (step .can) Registered oneChannel
      [.xmit 0 emptySkb .ok, .take GURU_STATUS_DONE, .callback, .del, .xmit 0 emptySkb .ok] := by
  apply (registered_iff .can start_oneChannel rfl).mpr
  exact .cons rfl (fun _ _ => nofun) (.cons rfl trivial (.cons rfl trivial (.cons rfl trivial
    (.cons rfl (fun _ _ => nofun) trivial))))

/-- The next frame is sent when the queue is woken: its entry is taken out with that of
the frame before it. -/
theorem not_registered_between :
    ¬ Always (step .can) Registered oneChannel
      [.xmit 0 emptySkb .ok, .take GURU_STATUS_DONE, .callback, .xmit 0 emptySkb .ok, .del] := by
  intro h
  obtain ⟨cs, hcs, hcount⟩ := (h.last rfl).listed rfl
  have hmem : (0 : ℕ) ∈ cs := List.count_pos_iff.mp (by rw [hcount 0]; decide)
  have hlinked := (hcs.linked_iff 0).mpr hmem
  exact absurd hlinked (by decide)

end Relink

end CanGuru
