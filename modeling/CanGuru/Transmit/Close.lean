import CanGuru.Lib.Machine
import CanGuru.Driver
import CanGuru.Channel

/-!
# Closing a channel

`ndo_stop` stops the queue and frees the echo, and leaves the reply entry of a frame
that is on the wire in the list. The answer wakes the queue of the closed channel
then, and a frame that is sent after the channel was opened again appends the entry
a second time, or is completed by the answer to the older one.

## The model

Any number of channels share a message layer. `ndo_open`, `ndo_stop`,
`ndo_start_xmit` and the handling of a send status are one step each. The device
answers the messages in any order, at any time or never. What was opened, stopped
and sent is kept in order, so that it can be said of two frames that a channel was
stopped between them, and one was opened after that.

## What is proved

`ended_iff` — in a run closing ends the transmit session exactly when no channel is
closed while its entry is in the list, and no answer to a frame that was sent before
an `ndo_stop` is handled while the first entry is that of a frame sent after a later
`ndo_open`.
-/

namespace CanGuru

open Machine MsgNet

namespace Close

/-- What has happened to a channel. -/
inductive Op where
  /-- `ndo_open` of channel `c`. -/
  | opened (c : ℕ)
  /-- `ndo_stop` of channel `c`. -/
  | stop (c : ℕ)
  /-- Channel `c` put a message on the wire. -/
  | sent (c : ℕ)
  deriving DecidableEq

/-- The channels of a message layer, and the device. -/
structure St where
  /-- The message layer. -/
  net : MsgNet
  /-- The last of `ndo_open` and `ndo_stop` on the channel was `ndo_stop`. -/
  closed : ℕ → Bool
  /-- What has happened, in order. -/
  history : List Op
  /-- The messages the device has not answered: where they stand in the history. -/
  owed : List ℕ

/-- The steps. -/
inductive Event where
  /-- `ndo_open` of channel `c`. -/
  | opened (c : ℕ) (openErr : ℤ) (conf o : SendOutcome)
  /-- `ndo_stop` of channel `c`. -/
  | stop (c : ℕ) (o : SendOutcome)
  /-- `ndo_start_xmit` of channel `c`. -/
  | xmit (c : ℕ) (skb : Skb) (o : XmitOutcome)
  /-- The answer to message `k` arrives and is handled. -/
  | answer (k : ℕ) (status : UInt8)

/-- What a step does, where it can happen. The network core opens a channel that is
down, closes one that is up, and calls `ndo_start_xmit` of one that is up and whose
queue is running. -/
def step (bus : Bus) (s : St) : Event → Option St
  | .opened c openErr conf o =>
    match s.net.netdev c with
    | none => none
    | some d =>
      if d.up then none
      else
        let (err, d, _) := bus.opsOpen openErr conf o d
        some
          { s with
            net := s.net.modify c fun _ => { d with up := err = 0 }
            closed := Function.update s.closed c false
            history := s.history ++ [.opened c] }
  | .stop c o =>
    match s.net.netdev c with
    | none => none
    | some d =>
      if !d.up then none
      else
        some
          { s with
            net := s.net.modify c fun d => { (bus.opsClose o d).1 with up := false }
            closed := Function.update s.closed c true
            history := s.history ++ [.stop c] }
  | .xmit c skb o =>
    match s.net.netdev c with
    | none => none
    | some d =>
      if !d.up || d.queueStopped then none
      else
        let (net, out) := startXmit bus.send o c skb s.net
        some
          { s with
            net := net
            history := s.history ++ out.map fun _ => .sent c
            owed := s.owed ++ out.map fun _ => s.history.length }
  | .answer k status =>
    if k < s.owed.length then
      some { s with net := s.net.sendCallback status, owed := s.owed.eraseIdx k }
    else none

/-- Channels that were never open. -/
structure Start (s : St) : Prop where
  /-- No reply is pending. -/
  pending : s.net.Pending []
  /-- No channel was closed. -/
  closed : ∀ c, s.closed c = false
  /-- Nothing has happened. -/
  history : s.history = []
  /-- No message is on the wire. -/
  owed : s.owed = []

/-- Channel `c` sent a frame after an `ndo_open` that is later than an `ndo_stop` after
message `i`. -/
def Later (s : St) (i c : ℕ) : Prop :=
  ∃ j k l, i < j ∧ j < k ∧ k < l ∧ (∃ c', s.history[j]? = some (.stop c')) ∧
    (∃ c', s.history[k]? = some (.opened c')) ∧ s.history[l]? = some (.sent c)

/-- **Closing ends a session**: what holds of a state. -/
structure Ended (s : St) : Prop where
  /-- An entry is in the list at most once, and not if its channel is closed. -/
  listed : ∃ cs, s.net.Pending cs ∧ (∀ c, cs.count c ≤ 1) ∧ ∀ c, s.closed c = true → c ∉ cs
  /-- The queue of a closed channel is stopped. -/
  stopped : ∀ c d, s.closed c = true → s.net.netdev c = some d → d.queueStopped = true

/-- **Closing ends a session**: what holds of a step. The answer to a message does not wake
the queue, change the counters or take the echo of a later frame. -/
def Untouched (bus : Bus) (s : St) : Event → Prop
  | .answer k status => ∀ s', step bus s (.answer k status) = some s' → ∀ i, s.owed[k]? = some i →
      ∀ c d d', Later s i c → s.net.netdev c = some d → s'.net.netdev c = some d' →
        d'.queueStopped = d.queueStopped ∧ d'.stats = d.stats ∧ d'.echoSkb = d.echoSkb
  | _ => True

/-- A channel is closed when its entry is not in the list, and the answer to a message is
not handled while the first entry is that of a later frame. -/
def Drained (s : St) : Event → Prop
  | .stop c _ => s.net.replies.linked (.reply c) = false
  | .answer k _ => ∀ i c, s.owed[k]? = some i → s.net.firstReply = some c → ¬ Later s i c
  | _ => True

/-- The invariant. -/
structure Inv (s : St) : Prop where
  /-- The list is sound, and its channels are up with their queues stopped. -/
  pending : ∃ cs, s.net.Pending cs ∧
    ∀ c ∈ cs, ∃ d, s.net.netdev c = some d ∧ d.up = true ∧ d.queueStopped = true
  /-- A closed channel is down, and its queue is stopped. -/
  closed : ∀ c d, s.closed c = true → s.net.netdev c = some d → d.up = false ∧ d.queueStopped = true

theorem Start.inv {s : St} (h : Start s) : Inv s where
  pending := ⟨[], h.pending, fun c hc => absurd hc List.not_mem_nil⟩
  closed := by
    intro c d hc
    rw [h.closed] at hc
    cases hc

/-- **The invariant gives the property.** -/
theorem Inv.ended {s : St} (h : Inv s) : Ended s := by
  obtain ⟨cs, hp, hlisted⟩ := h.pending
  refine ⟨⟨cs, hp, ?count, ?closed⟩, fun c d hc hd => (h.closed c d hc hd).2⟩
  case count => exact fun c => List.nodup_iff_count_le_one.mp hp.nodup c
  case closed =>
    intro c hc hmem
    obtain ⟨d, hd, hup, -⟩ := hlisted c hmem
    rw [(h.closed c d hc hd).1] at hup
    cases hup

/-! ### The steps -/

section Steps

variable {bus : Bus} {s s' : St}

/-- A channel that is down or whose queue runs is not in the list. -/
theorem Inv.not_mem (hs : Inv s) {cs : List ℕ} (hp : s.net.Pending cs) {c : ℕ} {d : NetDevice}
    (hd : s.net.netdev c = some d) (hfree : d.up = false ∨ d.queueStopped = false) : c ∉ cs := by
  intro hc
  obtain ⟨cs', hp', hlisted⟩ := hs.pending
  obtain ⟨d', hd', hup, hq⟩ := hlisted c ((hp'.linked_iff c).mp ((hp.linked_iff c).mpr hc))
  rw [hd, Option.some.injEq] at hd'
  subst hd'
  rcases hfree with hdown | hruns
  · rw [hdown] at hup
    cases hup
  · rw [hruns] at hq
    cases hq

theorem Inv.opened (hs : Inv s) {c : ℕ} {openErr : ℤ} {conf o : SendOutcome}
    (h : step bus s (.opened c openErr conf o) = some s') : Inv s' := by
  obtain ⟨cs, hp, hlisted⟩ := hs.pending
  rw [step] at h
  split at h
  case h_1 => cases h
  case h_2 d hd =>
    split at h
    case isTrue => cases h
    case isFalse hup =>
      rw [Option.some.injEq] at h
      subst h
      have hc := hs.not_mem hp hd (.inl (Bool.eq_false_of_not_eq_true hup))
      constructor
      case pending =>
        refine ⟨cs, hp, fun c' hc' => ?_⟩
        have hne : c' ≠ c := fun h => hc (h ▸ hc')
        simp only [modify_of_ne hne]
        exact hlisted c' hc'
      case closed =>
        intro c' d' hclosed hd'
        by_cases hne : c' = c
        · subst hne
          simp at hclosed
        · simp only [modify_of_ne hne, Function.update_of_ne hne] at hclosed hd'
          exact hs.closed c' d' hclosed hd'

theorem step_stop {c : ℕ} {o : SendOutcome} (h : step bus s (.stop c o) = some s') :
    s' =
      { s with
        net := s.net.modify c fun d => { (bus.opsClose o d).1 with up := false }
        closed := Function.update s.closed c true
        history := s.history ++ [.stop c] } := by
  rw [step] at h
  split at h
  case h_1 => cases h
  case h_2 d hd =>
    split at h
    case isTrue => cases h
    case isFalse => exact (Option.some.inj h).symm

/-- Closing a channel whose entry is not in the list keeps the invariant. -/
theorem Inv.stop (hs : Inv s) {c : ℕ} {o : SendOutcome} (hC : Drained s (.stop c o))
    (h : step bus s (.stop c o) = some s') : Inv s' := by
  obtain ⟨cs, hp, hlisted⟩ := hs.pending
  obtain rfl := step_stop h
  have hc : c ∉ cs := by
    intro hc
    have hl := (hp.linked_iff c).mpr hc
    rw [show s.net.replies.linked (.reply c) = false from hC] at hl
    cases hl
  constructor
  case pending =>
    refine ⟨cs, hp, fun c' hc' => ?_⟩
    have hne : c' ≠ c := fun h => hc (h ▸ hc')
    simp only [modify_of_ne hne]
    exact hlisted c' hc'
  case closed =>
    intro c' d' hclosed hd'
    obtain ⟨rfl, d₀, -, rfl⟩ | ⟨hne, hd'⟩ := modify_eq_some.mp hd'
    · exact ⟨rfl, (bus.opsClose_spec o d₀).1⟩
    · simp only [Function.update_of_ne hne] at hclosed
      exact hs.closed c' d' hclosed hd'

/-- An entry that is in the list when its channel is closed is there after it. -/
theorem not_ended_stop {c : ℕ} {o : SendOutcome} (hC : ¬ Drained s (.stop c o))
    (h : step bus s (.stop c o) = some s') : ¬ Ended s' := by
  obtain rfl := step_stop h
  intro hended
  obtain ⟨cs, hp, -, hclosed⟩ := hended.listed
  refine hclosed c (Function.update_self ..) ((hp.linked_iff c).mp ?_)
  exact Bool.eq_true_of_not_eq_false hC

/-- A call of `ndo_start_xmit` changes its channel, or sends the frame and appends the
entry as well. -/
theorem step_xmit {c : ℕ} {skb : Skb} {o : XmitOutcome} (h : step bus s (.xmit c skb o) = some s') :
    ∃ d history owed, s.net.netdev c = some d ∧ d.up = true ∧ d.queueStopped = false ∧
      ((∃ f : NetDevice → NetDevice, s' = { s with net := s.net.modify c f, history := history, owed := owed }) ∨
        s' =
          { s with
            net := (s.net.modify c .netifStopQueue).registered c skb
            history := history
            owed := owed }) := by
  rw [step] at h
  split at h
  case h_1 => cases h
  case h_2 d hd =>
    split at h
    case isTrue => cases h
    case isFalse hfree =>
      simp only [Bool.or_eq_true, Bool.not_eq_eq_eq_not, Bool.not_true, not_or, Bool.not_eq_false,
        Bool.not_eq_true] at hfree
      by_cases hsent : skb.invalid = false ∧ o.send.err = 0
      · by_cases hroom : o.oom = true ∨ d.echoSkb ≠ none
        · obtain ⟨msg, hx⟩ := @startXmit_refused bus _ _ _ hd o hsent.2 hroom skb hsent.1
          rw [hx] at h
          exact ⟨d, _, _, hd, hfree.1, hfree.2, .inl ⟨_, (Option.some.inj h).symm⟩⟩
        · simp only [ne_eq, not_or, Bool.not_eq_true, not_not] at hroom
          obtain ⟨msg, hx⟩ := @startXmit_ok bus _ _ _ hd o hsent.2 hroom.1 hroom.2 skb hsent.1
          rw [hx] at h
          exact ⟨d, _, _, hd, hfree.1, hfree.2, .inr (Option.some.inj h).symm⟩
      · obtain ⟨f, -, hx⟩ := @startXmit_quiet bus _ _ _ hd o skb hsent
        rw [hx] at h
        exact ⟨d, _, _, hd, hfree.1, hfree.2, .inl ⟨f, (Option.some.inj h).symm⟩⟩

theorem Inv.xmit (hs : Inv s) {c : ℕ} {skb : Skb} {o : XmitOutcome}
    (h : step bus s (.xmit c skb o) = some s') : Inv s' := by
  obtain ⟨cs, hp, hlisted⟩ := hs.pending
  obtain ⟨d, history, owed, hd, hup, hq, hcases⟩ := step_xmit h
  have hc := hs.not_mem hp hd (.inr hq)
  -- The channel is not closed, and the others are left alone.
  have hclosed : ∀ {net : MsgNet}, (∀ c' ≠ c, net.netdev c' = s.net.netdev c') →
      ∀ c' d', s.closed c' = true → net.netdev c' = some d' → d'.up = false ∧
          d'.queueStopped = true := by
    intro net hothers c' d' hcl hd'
    have hne : c' ≠ c := by
      rintro rfl
      rw [(hs.closed c' d hcl hd).1] at hup
      cases hup
    exact hs.closed c' d' hcl (hothers c' hne ▸ hd')
  rcases hcases with ⟨f, rfl⟩ | rfl
  · refine ⟨⟨cs, hp, fun c' hc' => ?_⟩, hclosed fun c' hne => modify_of_ne hne _ _⟩
    have hne : c' ≠ c := fun h => hc (h ▸ hc')
    simp only [modify_of_ne hne]
    exact hlisted c' hc'
  · have hothers : ∀ c' ≠ c, ((s.net.modify c .netifStopQueue).registered c skb).netdev c' =
        s.net.netdev c' :=
      fun c' hne => (registered_of_ne hne _ _).trans (modify_of_ne hne _ _)
    refine ⟨⟨cs ++ [c], Pending.registered (modify_pending.mpr hp) hc skb, fun c' hc' => ?_⟩,
      hclosed hothers⟩
    by_cases hne : c' = c
    · subst hne
      exact ⟨(d.netifStopQueue.putEcho skb).netdevSentQueue skb.frameLen, by simp [hd], hup, rfl⟩
    · have hc' := (List.mem_append.mp hc').resolve_right fun h => hne (List.mem_singleton.mp h)
      simp only [hothers c' hne]
      exact hlisted c' hc'

theorem step_answer {k : ℕ} {status : UInt8} (h : step bus s (.answer k status) = some s') :
    k < s.owed.length ∧
    s' = { s with net := s.net.sendCallback status, owed := s.owed.eraseIdx k } := by
  rw [step] at h
  split at h
  case isFalse => cases h
  case isTrue hk => exact ⟨hk, (Option.some.inj h).symm⟩

theorem Inv.answer (hs : Inv s) {k : ℕ} {status : UInt8}
    (h : step bus s (.answer k status) = some s') : Inv s' := by
  obtain ⟨cs, hp, hlisted⟩ := hs.pending
  obtain ⟨-, rfl⟩ := step_answer h
  cases cs with
  | nil =>
    rw [hp.sendCallback_nil]
    exact ⟨⟨[], hp, fun c hc => absurd hc List.not_mem_nil⟩, hs.closed⟩
  | cons c cs =>
    have hc := (List.nodup_cons.mp hp.nodup).1
    rw [hp.sendCallback_cons]
    refine ⟨⟨cs, Pending.delReply (modify_pending.mpr hp), fun c' hc' => ?_⟩,
      fun c' d' hclosed hd' => ?_⟩
    · have hne : c' ≠ c := fun h => hc (h ▸ hc')
      simp only [delReply_netdev, modify_of_ne hne]
      exact hlisted c' (List.mem_cons_of_mem _ hc')
    · have hne : c' ≠ c := by
        rintro rfl
        obtain ⟨d, hd, hup, -⟩ := hlisted c' List.mem_cons_self
        rw [(hs.closed c' d hclosed hd).1] at hup
        cases hup
      rw [delReply_netdev, modify_of_ne hne] at hd'
      exact hs.closed c' d' hclosed hd'

/-- A status touches the channel of the first entry only. -/
theorem Inv.untouched (hs : Inv s) {e : Event} (hC : Drained s e) : Untouched bus s e := by
  cases e with
  | answer k status =>
    intro s' h i hi c d d' hlater hd hd'
    obtain ⟨cs, hp, -⟩ := hs.pending
    obtain ⟨-, rfl⟩ := step_answer h
    have hsame : (s.net.sendCallback status).netdev c = s.net.netdev c := by
      cases cs with
      | nil => rw [hp.sendCallback_nil]
      | cons c₀ cs =>
        have hne : c ≠ c₀ := by
          rintro rfl
          exact hC i c hi hp.firstReply hlater
        rw [hp.sendCallback_cons, delReply_netdev, modify_of_ne hne]
    have hdd' : d' = d := Option.some.inj ((hd'.symm.trans hsame).trans hd)
    rw [hdd']
    exact ⟨rfl, rfl, rfl⟩
  | _ => trivial

/-- An answer that is handled while a later frame waits wakes its queue. -/
theorem not_untouched_answer (hs : Inv s) {k : ℕ} {status : UInt8}
    (hC : ¬ Drained s (.answer k status)) (h : step bus s (.answer k status) = some s') :
    ¬ Untouched bus s (.answer k status) := by
  intro hu
  simp only [Drained, not_forall, not_not] at hC
  obtain ⟨i, c, hi, hfirst, hlater⟩ := hC
  obtain ⟨cs, hp, hlisted⟩ := hs.pending
  have hc : c ∈ cs := List.mem_of_mem_head? (hp.firstReply.symm.trans hfirst)
  obtain ⟨d, hd, -, hq⟩ := hlisted c hc
  have hd' : (s.net.sendCallback status).netdev c = some (netSendCallback status d) := by
    rw [sendCallback_of_first hfirst, delReply_netdev, modify_self, hd]
    rfl
  have hkept := hu s' h i hi c d _ hlater hd (by rw [(step_answer h).2]; exact hd')
  rw [hq] at hkept
  cases hkept.1

end Steps

/-- **One step**: a step that is drained keeps the invariant. -/
theorem inv_step (bus : Bus) (s : St) (e : Event) (s' : St) (hs : Inv s) (hC : Drained s e)
    (h : step bus s e = some s') : Inv s' := by
  cases e with
  | opened c openErr conf o => exact hs.opened h
  | stop c o => exact hs.stop hC h
  | xmit c skb o => exact hs.xmit h
  | answer k status => exact hs.answer h

/-- **Closing ends a session** in a run exactly when no channel is closed while its entry
is in the list, and no answer is handled while the first entry is that of a frame sent
after a later stop and open. -/
theorem ended_iff (bus : Bus) {s t : St} (hs : Start s) {es : List Event}
    (hr : run (step bus) s es = some t) :
    Always (step bus) Ended s es ∧ Meets (step bus) (Untouched bus) s es ↔
      Meets (step bus) Drained s es := by
  refine always_and_meets_iff (inv_step bus) (fun _ => Inv.ended) (fun _ _ h => h.untouched)
    ?_ hs.inv hr
  intro s e s' hi hC h hu
  cases e with
  | opened c openErr conf o => exact absurd trivial hC
  | stop c o => exact not_ended_stop hC h
  | xmit c skb o => exact absurd trivial hC
  | answer k status => exact absurd hu (not_untouched_answer hi hC h)

/-! ### One channel -/

/-- A channel that was never open. -/
def oneChannel : St := ⟨.ready 1, fun _ => false, [], []⟩

theorem start_oneChannel : Start oneChannel := ⟨ready_pending 1, fun _ => rfl, rfl, rfl⟩

/-- A channel is closed after the answer to its frame. -/
theorem ended_after :
    Always (step .can) Ended oneChannel
        [.opened 0 0 .ok .ok, .xmit 0 emptySkb .ok, .answer 0 GURU_STATUS_DONE, .stop 0 .ok] ∧
      Meets (step .can) (Untouched .can) oneChannel
        [.opened 0 0 .ok .ok, .xmit 0 emptySkb .ok, .answer 0 GURU_STATUS_DONE, .stop 0 .ok] := by
  apply (ended_iff .can start_oneChannel rfl).mpr
  refine .cons rfl trivial (.cons rfl trivial (.cons rfl ?_ (.cons rfl rfl trivial)))
  rintro i c - - ⟨j, k, l, -, -, -, ⟨c', hj⟩, -⟩
  rcases j with _ | _ | j <;> cases hj

/-- A channel is closed with a frame on the wire, and its entry stays in the list. -/
theorem not_ended_in_flight :
    ¬ (Always (step .can) Ended oneChannel [.opened 0 0 .ok .ok, .xmit 0 emptySkb .ok, .stop 0 .ok] ∧
      Meets (step .can) (Untouched .can) oneChannel [.opened 0 0 .ok .ok, .xmit 0 emptySkb .ok, .stop 0 .ok]) := by
  rintro ⟨h, -⟩
  obtain ⟨cs, hcs, -, hclosed⟩ := (h.last rfl).listed
  have hlinked := mt (hcs.linked_iff 0).mp (hclosed 0 rfl)
  exact hlinked (by decide)

end Close

end CanGuru
