import CanGuru.Lib.Machine
import CanGuru.Channel
import CanGuru.Driver

/-!
# Whose frame a send status answers

A send status carries no channel. `canguru_send_callback` gives it to the channel at
the head of the list of pending replies, which is that of the frame answered if the
entries are appended in the order in which the messages were submitted. Nothing
makes it so: `canguru_start_xmit` submits first and appends later, and between the
two the transmit routine of another channel can do both.

## The model

Any number of channels share a message layer. A call of `ndo_start_xmit` is two
steps, up to the submission and from there on, and its echo is kept; the device
answers the messages in the order of their submission, and not before the call of the
channel is over.

## What is proved

`attributed_of_run` — in every run in which no channel appends its entry after one
that submitted later, every state is such that a send status completes the frame it
answers and touches no other channel.
-/

namespace CanGuru

open Machine MsgNet

namespace Attribution

/-- The channels of a message layer, and the device. -/
structure St where
  /-- The message layer. -/
  net : MsgNet
  /-- Where the call of `ndo_start_xmit` of each channel stands. -/
  pc : ℕ → Pc
  /-- The channels whose messages are not answered yet, in the order of submission. -/
  owed : List ℕ

/-- The steps. -/
inductive Event where
  /-- `ndo_start_xmit` of channel `c` runs up to the submission, which ends as `o`. -/
  | submit (c : ℕ) (skb : Skb) (o : SendOutcome)
  /-- The rest of the call of channel `c`. -/
  | append (c : ℕ)
  /-- A send status arrives and is handled. -/
  | answer (status : UInt8)

/-- What a step does, where it can happen. The network core calls `ndo_start_xmit` of
a channel if its queue is running, one call at a time. -/
def step (bus : Bus) (s : St) : Event → Option St
  | .submit c skb o =>
    match s.pc c, s.net.netdev c with
    | .idle, some d =>
      if d.queueStopped then none
      else
        let (pc, net) := xmitEnter c skb s.net
        let (pc, net, out) := xmitPhase bus.send ⟨o, false⟩ c pc net
        some { net := net, pc := Function.update s.pc c pc, owed := s.owed ++ out.map fun _ => c }
    | _, _ => none
  | .append c =>
    match s.pc c with
    | .submitted skb =>
      let (pc, net, out) := xmitRest bus.send .ok c 3 (.submitted skb, s.net, [])
      some { net := net, pc := Function.update s.pc c pc, owed := s.owed ++ out.map fun _ => c }
    | _ => none
  | .answer status =>
    match s.owed with
    | [] => none
    | c :: rest =>
      if s.pc c =
      .idle then some { s with net := s.net.sendCallback status, owed := rest } else none

/-- Channels that wait for nothing. -/
structure Start (s : St) : Prop where
  /-- No reply is pending. -/
  pending : s.net.Pending []
  /-- No call is in progress. -/
  idle : ∀ c, s.pc c = .idle
  /-- No message is on the wire. -/
  owed : s.owed = []
  /-- No echo is kept. -/
  echoSkb : ∀ c d, s.net.netdev c = some d → d.echoSkb = none

/-- **A send status is attributed**: if one can arrive, the entry at the head is that
of the channel whose frame it answers, and no other channel is touched. -/
def Attributed (s : St) : Prop :=
  ∀ c rest, s.owed = c :: rest → s.pc c = .idle → s.net.firstReply = some c ∧
    ∀ status, ∀ c' ≠ c, (s.net.sendCallback status).netdev c' = s.net.netdev c'

/-- The entries are appended in the order of submission: when channel `c` appends
its own, no channel that submitted later has. -/
def InOrder (s : St) : Event → Prop
  | .append c => ∀ before after, s.owed = before ++ c :: after → ∀ c' ∈ after, s.pc c' ≠ .idle
  | _ => True

/-- The channels that have appended their entries, in the order of submission. -/
def appended (s : St) : List ℕ := s.owed.filter fun c => s.pc c = .idle

/-- The invariant. -/
structure Inv (s : St) : Prop where
  /-- The list holds the entries in the order of submission. -/
  pending : s.net.Pending (appended s)
  /-- A channel waits for one answer at a time. -/
  nodup : s.owed.Nodup
  /-- A call in progress has submitted. -/
  pc : ∀ c, s.pc c = .idle ∨ c ∈ s.owed ∧ ∃ skb, s.pc c = .submitted skb
  /-- A channel that waits has stopped its queue. -/
  stopped : ∀ c ∈ s.owed, ∃ d, s.net.netdev c = some d ∧ d.queueStopped = true
  /-- A channel that has not appended its entry keeps no echo. -/
  echoSkb : ∀ c, c ∉ appended s → ∀ d, s.net.netdev c = some d → d.echoSkb = none

theorem Start.inv {s : St} (h : Start s) : Inv s where
  pending := by
    rw [appended, h.owed]
    exact h.pending
  nodup := h.owed ▸ List.nodup_nil
  pc := fun c => .inl (h.idle c)
  stopped := by
    rw [h.owed]
    exact fun c hc => absurd hc List.not_mem_nil
  echoSkb := fun c _ => h.echoSkb c

/-- A call that has submitted waits for the answer. -/
theorem Inv.mem_owed {s : St} (hs : Inv s) {c : ℕ} {skb : Skb} (hpc : s.pc c = .submitted skb) :
    c ∈ s.owed := by
  rcases hs.pc c with hidle | ⟨hc, -⟩
  · rw [hpc] at hidle
    cases hidle
  · exact hc

/-! ### The steps -/

section Steps

variable {bus : Bus} {s s' : St}

/-- A call that starts either puts nothing on the wire or submits its frame. -/
theorem step_submit {c : ℕ} {skb : Skb} {o : SendOutcome}
    (h : step bus s (.submit c skb o) = some s') :
    ∃ d, s.pc c = .idle ∧ s.net.netdev c = some d ∧ d.queueStopped = false ∧
      ((∃ f : NetDevice → NetDevice, (∀ d, (f d).echoSkb = d.echoSkb) ∧ s' = { s with net := s.net.modify c f }) ∨
        s' =
          { net := s.net.modify c .netifStopQueue
            pc := Function.update s.pc c (.submitted skb)
            owed := s.owed ++ [c] }) := by
  rw [step] at h
  split at h
  case h_2 => cases h
  case h_1 d hpc hd =>
    split at h
    case isTrue => cases h
    case isFalse hq =>
      have hidle : Function.update s.pc c .idle = s.pc := by rw [← hpc, Function.update_eq_self]
      refine ⟨d, hpc, hd, Bool.eq_false_of_not_eq_true hq, ?_⟩
      cases hi : skb.invalid with
      | true =>
        simp only [xmitEnter, hi, if_true, xmitPhase_idle, hidle, List.map_nil, List.append_nil,
          Option.some.injEq] at h
        exact .inl ⟨.dropInvalidSkb skb, fun _ => rfl, h.symm⟩
      | false =>
        have hd₁ : (s.net.modify c .netifStopQueue).netdev c = some d.netifStopQueue := by
          rw [modify_self, hd]; rfl
        simp only [xmitEnter, hi, Bool.false_eq_true, if_false] at h
        by_cases herr : o.err = 0
        · obtain ⟨msg, hphase⟩ := @xmitPhase_stopped_ok bus _ _ _ hd₁ ⟨o, false⟩ herr skb
          simp only [hphase, List.map_cons, List.map_nil, Option.some.injEq] at h
          exact .inr h.symm
        · simp only [@xmitPhase_stopped_err bus _ _ _ hd₁ ⟨o, false⟩ herr skb, hidle, List.map_nil,
            List.append_nil, modify_modify, Option.some.injEq] at h
          exact .inl ⟨.netifWakeQueue ∘ .netifStopQueue, fun _ => rfl, h.symm⟩

/-- The rest of a call appends the reply entry. -/
theorem step_append (hs : Inv s) {c : ℕ} (h : step bus s (.append c) = some s') :
    ∃ skb, s.pc c = .submitted skb ∧
      s' = { s with net := s.net.registered c skb, pc := Function.update s.pc c .idle } := by
  rw [step] at h
  split at h
  case h_2 => cases h
  case h_1 skb hpc =>
    have hna : c ∉ appended s := by
      intro ha
      have hidle := of_decide_eq_true (List.mem_filter.mp ha).2
      rw [hpc] at hidle
      cases hidle
    obtain ⟨d, hd, -⟩ := hs.stopped c (hs.mem_owed hpc)
    have hrest := @xmitRest_submitted bus _ _ _ hd .ok rfl (hs.echoSkb c hna d hd) skb
    simp only [hrest, List.map_nil, List.append_nil, Option.some.injEq] at h
    exact ⟨skb, hpc, h.symm⟩

theorem step_answer {status : UInt8} (h : step bus s (.answer status) = some s') :
    ∃ c rest, s.owed = c :: rest ∧ s.pc c = .idle ∧
      s' = { s with net := s.net.sendCallback status, owed := rest } := by
  rw [step] at h
  split at h
  case h_1 => cases h
  case h_2 c rest ho =>
    split at h
    case isTrue hpc => exact ⟨c, rest, ho, hpc, (Option.some.inj h).symm⟩
    case isFalse => cases h

end Steps

/-! ### The invariant -/

/-- A channel that is out of the list may be at any point of its call. -/
theorem filter_update {pc : ℕ → Pc} {c : ℕ} {cs : List ℕ} (hc : c ∉ cs) (p : Pc) :
    (cs.filter fun x => Function.update pc c p x = .idle) = cs.filter fun x => pc x = .idle := by
  refine List.filter_congr fun x hx => ?_
  have hne : x ≠ c := fun h => hc (h ▸ hx)
  rw [Function.update_of_ne hne]

/-- If a status can arrive, the channel it answers is at the head. -/
theorem appended_cons {s : St} {c : ℕ} {rest : List ℕ} (ho : s.owed = c :: rest)
    (hpc : s.pc c = .idle) : appended s = c :: rest.filter fun c => s.pc c = .idle := by
  rw [appended, ho]
  exact List.filter_cons_of_pos (by simpa using hpc)

/-- **The invariant gives the property.** -/
theorem Inv.attributed {s : St} (hs : Inv s) : Attributed s := by
  intro c rest ho hpc
  have hp := hs.pending
  rw [appended_cons ho hpc] at hp
  refine ⟨hp.firstReply, fun status c' hne => ?_⟩
  rw [hp.sendCallback_cons, delReply_netdev, modify_of_ne hne]

/-- A call that puts nothing on the wire keeps the invariant. -/
theorem Inv.quiet {s : St} (hs : Inv s) {c : ℕ} (hc : c ∉ s.owed) {f : NetDevice → NetDevice}
    (hf : ∀ d, (f d).echoSkb = d.echoSkb) : Inv { s with net := s.net.modify c f } where
  pending := modify_pending.mpr hs.pending
  nodup := hs.nodup
  pc := hs.pc
  stopped := by
    intro c' hc'
    have hne : c' ≠ c := fun h => hc (h ▸ hc')
    simp only [modify_of_ne hne]
    exact hs.stopped c' hc'
  echoSkb := by
    intro c' hc' d hd
    obtain ⟨rfl, d₀, hd₀, rfl⟩ | ⟨-, hd⟩ := modify_eq_some.mp hd
    · rw [hf]
      exact hs.echoSkb c' hc' d₀ hd₀
    · exact hs.echoSkb c' hc' d hd

theorem Inv.submit {s : St} (hs : Inv s) {c : ℕ} (hc : c ∉ s.owed) {d : NetDevice}
    (hd : s.net.netdev c = some d) (skb : Skb) :
    Inv
      { net := s.net.modify c .netifStopQueue
        pc := Function.update s.pc c (.submitted skb)
        owed := s.owed ++ [c] } := by
  have happended :
    appended ⟨s.net.modify c .netifStopQueue, Function.update s.pc c (.submitted skb),
    s.owed ++ [c]⟩ =
      appended s := by
    simp only [appended, List.filter_append, filter_update hc]
    simp
  constructor
  case pending => rw [happended]; exact hs.pending
  case nodup => exact List.nodup_append.mpr ⟨hs.nodup, List.nodup_singleton c, fun a ha b hb => by
    rintro rfl
    exact hc (List.mem_singleton.mp hb ▸ ha)⟩
  case pc =>
    intro c'
    by_cases hne : c' = c
    · subst hne
      exact .inr ⟨List.mem_append_right _ (List.mem_singleton_self c'), skb,
        Function.update_self ..⟩
    · simp only [Function.update_of_ne hne]
      rcases hs.pc c' with hidle | ⟨hc', hsub⟩
      · exact .inl hidle
      · exact .inr ⟨List.mem_append_left _ hc', hsub⟩
  case stopped =>
    intro c' hc'
    by_cases hne : c' = c
    · subst hne
      exact ⟨d.netifStopQueue, by rw [modify_self, hd]; rfl, rfl⟩
    · simp only [modify_of_ne hne]
      exact hs.stopped c' ((List.mem_append.mp hc').resolve_right fun h => hne (List.mem_singleton.mp h))
  case echoSkb =>
    rw [happended]
    have hquiet : Inv { s with net := s.net.modify c .netifStopQueue } := hs.quiet hc fun _ => rfl
    exact hquiet.echoSkb

theorem Inv.append {s : St} (hs : Inv s) {c : ℕ} (hC : InOrder s (.append c)) {skb : Skb}
    (hpc : s.pc c = .submitted skb) :
    Inv { s with net := s.net.registered c skb, pc := Function.update s.pc c .idle } := by
  obtain ⟨before, after, ho⟩ := List.append_of_mem (hs.mem_owed hpc)
  have hnodup := hs.nodup
  rw [ho, List.nodup_append, List.nodup_cons] at hnodup
  have hbefore : c ∉ before := fun h => hnodup.2.2 c h c List.mem_cons_self rfl
  have hlate : (after.filter fun c => s.pc c = .idle) = [] :=
    List.filter_eq_nil_iff.mpr fun c' hc' hidle =>
      hC before after ho c' hc' (of_decide_eq_true hidle)
  -- The entries appended so far are those of the channels before `c`.
  have hold : appended s = before.filter fun c => s.pc c = .idle := by
    rw [appended, ho, List.filter_append, List.filter_cons_of_neg (by simp [hpc]), hlate,
      List.append_nil]
  have hnew : appended ⟨s.net.registered c skb, Function.update s.pc c .idle, s.owed⟩ =
      (before.filter fun c => s.pc c = .idle) ++ [c] := by
    simp only [appended, ho, List.filter_append, filter_update hbefore]
    rw [List.filter_cons_of_pos (by simp), filter_update hnodup.2.1.1, hlate]
  have hnot : c ∉ appended s := hold ▸ fun h => hbefore (List.mem_filter.mp h).1
  constructor
  case pending =>
    rw [hnew, ← hold]
    exact hs.pending.registered hnot skb
  case nodup => exact hs.nodup
  case pc =>
    intro c'
    by_cases hne : c' = c
    · subst hne
      exact .inl (Function.update_self ..)
    · simp only [Function.update_of_ne hne]
      exact hs.pc c'
  case stopped =>
    intro c' hc'
    by_cases hne : c' = c
    · subst hne
      obtain ⟨d, hd, hq⟩ := hs.stopped c' hc'
      exact ⟨(d.putEcho skb).netdevSentQueue skb.frameLen, by rw [registered_self, hd]; rfl, hq⟩
    · simp only [registered_of_ne hne]
      exact hs.stopped c' hc'
  case echoSkb =>
    rw [hnew, ← hold]
    intro c' hc' d hd
    rw [List.mem_append, not_or, List.mem_singleton] at hc'
    rw [registered_of_ne hc'.2] at hd
    exact hs.echoSkb c' hc'.1 d hd

theorem Inv.answer {s : St} (hs : Inv s) {c : ℕ} {rest : List ℕ} (ho : s.owed = c :: rest)
    (hpc : s.pc c = .idle) (status : UInt8) :
    Inv { s with net := s.net.sendCallback status, owed := rest } := by
  have hp := hs.pending
  rw [appended_cons ho hpc] at hp
  have hnodup := hs.nodup
  rw [ho, List.nodup_cons] at hnodup
  rw [hp.sendCallback_cons]
  constructor
  case pending => exact Pending.delReply (modify_pending.mpr hp)
  case nodup => exact hnodup.2
  case pc =>
    intro c'
    rcases hs.pc c' with hidle | ⟨hc', hsub⟩
    · exact .inl hidle
    · rw [ho, List.mem_cons] at hc'
      rcases hc' with rfl | hc'
      · exact .inl hpc
      · exact .inr ⟨hc', hsub⟩
  case stopped =>
    intro c' hc'
    have hne : c' ≠ c := fun h => hnodup.1 (h ▸ hc')
    simp only [delReply_netdev, modify_of_ne hne]
    exact hs.stopped c' (ho ▸ List.mem_cons_of_mem _ hc')
  case echoSkb =>
    intro c' hc' d hd
    obtain ⟨rfl, d₀, -, rfl⟩ | ⟨hne, hd⟩ := modify_eq_some.mp hd
    · exact netSendCallback_echoSkb status d₀
    · refine hs.echoSkb c' ?_ d hd
      rw [appended_cons ho hpc, List.mem_cons, not_or]
      exact ⟨hne, hc'⟩

theorem Inv.not_mem_owed {s : St} (hs : Inv s) {c : ℕ} {d : NetDevice}
    (hd : s.net.netdev c = some d) (hq : d.queueStopped = false) : c ∉ s.owed :=
  mt (hs.stopped c) (not_stopped hd hq)

/-- **One step**: a step in order keeps the invariant. -/
theorem inv_step {bus : Bus} (s : St) (e : Event) (s' : St) (hs : Inv s) (hC : InOrder s e)
    (h : step bus s e = some s') : Inv s' := by
  cases e with
  | submit c skb o =>
    obtain ⟨d, -, hd, hq, ⟨f, hf, rfl⟩ | rfl⟩ := step_submit h
    · exact hs.quiet (hs.not_mem_owed hd hq) hf
    · exact hs.submit (hs.not_mem_owed hd hq) hd skb
  | append c =>
    obtain ⟨skb, hpc, rfl⟩ := step_append hs h
    exact hs.append hC hpc
  | answer status =>
    obtain ⟨c, rest, ho, hpc, rfl⟩ := step_answer h
    exact hs.answer ho hpc status

/-- **Every state of a run in order is attributed.** -/
theorem attributed_of_run {bus : Bus} {s : St} (hs : Start s) {es : List Event}
    (hC : Meets (step bus) InOrder s es) : Always (step bus) Attributed s es :=
  (always_of_meets inv_step hs.inv hC).mono fun _ hi => hi.attributed

/-! ### Two channels -/

/-- Two channels that wait for nothing. -/
def twoChannels : St := ⟨.ready 2, fun _ => .idle, []⟩

theorem start_twoChannels : Start twoChannels where
  pending := ready_pending 2
  idle := fun _ => rfl
  owed := rfl
  echoSkb := fun _ _ => ready_echoSkb

/-- Two channels submit, and append in the order in which they submitted. -/
theorem attributed_in_turn :
    Always (step .can) Attributed twoChannels
      [.submit 0 emptySkb .ok, .submit 1 emptySkb .ok, .append 0, .append 1,
        .answer GURU_STATUS_DONE] := by
  have h0 : ∀ before after, [0, 1] = before ++ 0 :: after → ∀ c' ∈ after, c' = 1 := by
    intro before after h
    rcases before with _ | ⟨a, _ | ⟨b, before⟩⟩ <;> simp at h
    simp [← h]
  have h1 : ∀ before after, [0, 1] = before ++ 1 :: after → after = [] := by
    intro before after h
    rcases before with _ | ⟨a, _ | ⟨b, before⟩⟩ <;> simp at h
    exact h.2
  apply attributed_of_run start_twoChannels
  refine .cons rfl trivial (.cons rfl trivial (.cons rfl ?_ (.cons rfl ?_ (.cons rfl trivial trivial))))
  · intro before after ho c' hc'
    rw [h0 before after ho c' hc']
    decide
  · intro before after ho c' hc'
    rw [h1 before after ho] at hc'
    exact absurd hc' List.not_mem_nil

/-- Two channels submit, and append in the other order: the status for channel 0
completes the frame of channel 1. -/
theorem not_attributed_crossed :
    ¬ Always (step .can) Attributed twoChannels
      [.submit 0 emptySkb .ok, .submit 1 emptySkb .ok, .append 1, .append 0] := by
  intro h
  have hlast := (h.last rfl 0 [1] rfl rfl).1
  exact absurd hlast (by decide)

end Attribution

end CanGuru
