import CanGuru.Lib.Machine
import CanGuru.Channel
import CanGuru.Driver

/-!
# Completions that are lost

A call of `ndo_start_xmit` submits the message of a frame first and appends the reply
entry later. The answer to the message may be handled in between: the list is empty
then, the answer is thrown away, and the queue that the call has stopped is never
woken.

## The model

One channel of either bus stays open. A call runs in pieces (`Pc`), every kernel call
in it succeeds, and the device answers each message once, at any time from its
submission on. An answer is handled when it arrives.

## What is proved

`notLost_iff` — a run goes only through states in which a stopped queue has a reply
entry and an answer to come, and throws no answer away, exactly when no answer is
handled between the submission of its frame and the append of its entry.
-/

namespace CanGuru

open Machine MsgNet

namespace Completion

/-- A channel and the device. -/
structure St where
  /-- The message layer. -/
  net : MsgNet
  /-- Where the call of `ndo_start_xmit` stands. -/
  pc : Pc
  /-- The frames whose messages the device has not answered, in order. -/
  owed : List Skb
  /-- An answer found the list empty. -/
  discarded : Bool

/-- The steps. -/
inductive Event where
  /-- A call of `ndo_start_xmit` starts. -/
  | call (skb : Skb)
  /-- The next piece of the call. -/
  | piece
  /-- The answer to the first message arrives and is handled. -/
  | answer (status : UInt8)

/-- The frame of a call that has stopped the queue and not submitted. -/
def frameOf : Pc → List Skb
  | .stopped skb => [skb]
  | _ => []

/-- What a step does to the channel `c`, where it can happen. -/
def step (bus : Bus) (c : ℕ) (s : St) : Event → Option St
  | .call skb =>
    match s.pc, s.net.netdev c with
    | .idle, some d =>
      if d.queueStopped then none
      else
        let (pc, net) := xmitEnter c skb s.net
        some { s with net := net, pc := pc }
    | _, _ => none
  | .piece =>
    if s.pc = .idle then none
    else
      let (pc, net, out) := xmitPhase bus.send .ok c s.pc s.net
      some { s with net := net, pc := pc, owed := s.owed ++ (frameOf s.pc).take out.length }
  | .answer status =>
    match s.owed with
    | [] => none
    | _ :: rest =>
      some
        { s with
          net := s.net.sendCallback status
          owed := rest
          discarded := s.discarded || ListHead.listEmpty s.net.replies .listHead }

/-- A channel that is open and waits for nothing. -/
structure Start (c : ℕ) (s : St) : Prop where
  /-- No reply is pending. -/
  pending : s.net.Pending []
  /-- The queue runs, and no echo is kept. -/
  channel : ∃ d, s.net.netdev c = some d ∧ d.queueStopped = false ∧ d.echoSkb = none
  /-- No call is in progress. -/
  pc : s.pc = .idle
  /-- No message is on the wire. -/
  owed : s.owed = []
  /-- No answer was thrown away. -/
  discarded : s.discarded = false

/-- **No completion is lost**: if no call is in progress and the queue is stopped, the
reply entry is in the list and the device owes the answer for the frame whose echo is
kept; and no answer was thrown away. -/
structure NotLost (c : ℕ) (s : St) : Prop where
  /-- A stopped queue can be woken. -/
  wakes : s.pc = .idle → ∀ d, s.net.netdev c = some d → d.queueStopped = true →
    s.net.replies.linked (.reply c) = true ∧ ∃ skb, d.echoSkb = some skb ∧ s.owed = [skb]
  /-- No answer was thrown away. -/
  discarded : s.discarded = false

/-- No answer is handled between the submission of its frame and the append of its
entry. -/
def InTime (s : St) : Event → Prop
  | .answer _ => (∀ skb, s.pc ≠ .submitted skb) ∧ ∀ frameLen, s.pc ≠ .echoed frameLen
  | _ => True

/-! ### The invariant -/

/-- The channel waits for nothing: its queue is stopped or runs. -/
structure Quiet (c : ℕ) (stopped : Bool) (s : St) : Prop where
  /-- No reply is pending. -/
  pending : s.net.Pending []
  /-- No echo is kept. -/
  channel : ∃ d, s.net.netdev c = some d ∧ d.queueStopped = stopped ∧ d.echoSkb = none
  /-- No message is on the wire. -/
  owed : s.owed = []

/-- The message of a frame is on the wire: its echo is kept or not yet, its entry is
pending or not yet. -/
structure Waiting (c : ℕ) (skb : Skb) (echo : Option Skb) (cs : List ℕ) (s : St) : Prop where
  /-- The pending replies. -/
  pending : s.net.Pending cs
  /-- The queue is stopped. -/
  channel : ∃ d, s.net.netdev c = some d ∧ d.queueStopped = true ∧ d.echoSkb = echo
  /-- The device owes one answer. -/
  owed : s.owed = [skb]

/-- What holds at each point of a call. -/
def At (c : ℕ) (s : St) : Pc → Prop
  | .idle => Quiet c false s ∨ ∃ skb, Waiting c skb (some skb) [c] s
  | .stopped _ => Quiet c true s
  | .submitted skb => Waiting c skb none [] s
  | .echoed _ => ∃ skb, Waiting c skb (some skb) [] s
  | .linked _ => Quiet c false s ∨ ∃ skb, Waiting c skb (some skb) [c] s

/-- The invariant. -/
structure Inv (c : ℕ) (s : St) : Prop where
  /-- What holds where the call stands. -/
  here : At c s s.pc
  /-- No answer was thrown away. -/
  discarded : s.discarded = false

theorem Start.inv {c : ℕ} {s : St} (h : Start c s) : Inv c s where
  here := by
    rw [h.pc]
    exact .inl ⟨h.pending, h.channel, h.owed⟩
  discarded := h.discarded

/-- **The invariant gives the property.** -/
theorem Inv.notLost {c : ℕ} {s : St} (h : Inv c s) : NotLost c s where
  wakes := by
    intro hpc d hd hq
    have hhere := h.here
    rw [hpc] at hhere
    rcases hhere with hquiet | ⟨skb, hwait⟩
    · obtain ⟨d', hd', hq', -⟩ := hquiet.channel
      exact absurd ⟨d, hd, hq⟩ (not_stopped hd' hq')
    · obtain ⟨d', hd', -, he⟩ := hwait.channel
      rw [hd, Option.some.injEq] at hd'
      exact ⟨(hwait.pending.linked_iff c).mpr (List.mem_singleton_self c), skb,
        hd' ▸ he, hwait.owed⟩
  discarded := h.discarded

/-! ### The steps -/

section Steps

variable {bus : Bus} {c : ℕ} {s s' : St}

/-- A call that starts drops its frame or stops the queue. -/
theorem Inv.call (hs : Inv c s) {skb : Skb} (h : step bus c s (.call skb) = some s') :
    Inv c s' := by
  rw [step] at h
  split at h
  case h_2 => cases h
  case h_1 d hpc hd =>
    split at h
    case isTrue => cases h
    case isFalse hq =>
      have hquiet : Quiet c false s := by
        have hhere := hs.here
        rw [hpc] at hhere
        rcases hhere with hquiet | ⟨_, hwait⟩
        · exact hquiet
        · obtain ⟨d', hd', hq', -⟩ := hwait.channel
          exact absurd ⟨d', hd', hq'⟩ (not_stopped hd (Bool.eq_false_of_not_eq_true hq))
      obtain ⟨d', hd', hq', he⟩ := hquiet.channel
      rw [Option.some.injEq] at h
      subst h
      refine ⟨?_, hs.discarded⟩
      cases hi : skb.invalid with
      | true =>
        simp only [xmitEnter, hi, if_true]
        exact .inl ⟨hquiet.pending, ⟨d'.dropInvalidSkb skb, by rw [modify_self, hd']; rfl, hq', he⟩,
          hquiet.owed⟩
      | false =>
        simp only [xmitEnter, hi, Bool.false_eq_true, if_false]
        exact ⟨hquiet.pending, ⟨d'.netifStopQueue, by rw [modify_self, hd']; rfl, rfl, he⟩,
          hquiet.owed⟩

/-- A piece of a call leads to the next point. -/
theorem Inv.piece (hs : Inv c s) (h : step bus c s .piece = some s') : Inv c s' := by
  rw [step] at h
  split at h
  case isTrue => cases h
  case isFalse hne =>
    rw [Option.some.injEq] at h
    subst h
    refine ⟨?_, hs.discarded⟩
    have hhere := hs.here
    generalize hpc : s.pc = pc at hhere hne
    cases pc with
    | idle => exact absurd rfl hne
    | stopped skb =>
      obtain ⟨d, hd, hq, he⟩ := Quiet.channel hhere
      obtain ⟨msg, hphase⟩ := @xmitPhase_stopped_ok bus _ _ _ hd .ok rfl skb
      simp only [hphase, frameOf, List.length_singleton, List.take_succ_cons, List.take_nil]
      exact ⟨hhere.pending, hhere.channel, by rw [hhere.owed]; rfl⟩
    | submitted skb =>
      obtain ⟨d, hd, hq, he⟩ := Waiting.channel hhere
      simp only [@xmitPhase_submitted_ok bus _ _ _ hd .ok rfl he skb, frameOf, List.length_nil,
        List.take_nil, List.append_nil]
      exact ⟨skb, hhere.pending, ⟨d.putEcho skb, by rw [modify_self, hd]; rfl, hq, rfl⟩, hhere.owed⟩
    | echoed frameLen =>
      obtain ⟨skb, hwait⟩ := hhere
      obtain ⟨d, hd, hq, he⟩ := hwait.channel
      simp only [@xmitPhase_echoed bus _ _ _ hd, frameOf, List.length_nil, List.take_nil,
        List.append_nil]
      exact .inr ⟨skb, hwait.pending.waitSendReply List.not_mem_nil, ⟨d, hd, hq, he⟩, hwait.owed⟩
    | linked frameLen =>
      rcases hhere with hquiet | ⟨skb, hwait⟩
      · obtain ⟨d, hd, hq, he⟩ := hquiet.channel
        simp only [@xmitPhase_linked bus _ _ _ hd, frameOf, List.length_nil, List.take_nil,
          List.append_nil]
        exact .inl ⟨hquiet.pending,
          ⟨d.netdevSentQueue frameLen, by rw [modify_self, hd]; rfl, hq, he⟩, hquiet.owed⟩
      · obtain ⟨d, hd, hq, he⟩ := hwait.channel
        simp only [@xmitPhase_linked bus _ _ _ hd, frameOf, List.length_nil, List.take_nil,
          List.append_nil]
        exact .inr
          ⟨skb, hwait.pending, ⟨d.netdevSentQueue frameLen, by rw [modify_self, hd]; rfl, hq, he⟩,
            hwait.owed⟩

theorem step_answer {status : UInt8} (h : step bus c s (.answer status) = some s') :
    ∃ skb rest, s.owed = skb :: rest ∧
      s' =
        { s with
          net := s.net.sendCallback status
          owed := rest
          discarded := s.discarded || ListHead.listEmpty s.net.replies .listHead } := by
  rw [step] at h
  split at h
  case h_1 => cases h
  case h_2 skb rest ho => exact ⟨skb, rest, ho, (Option.some.inj h).symm⟩

/-- An answer that finds the entry completes the frame. -/
theorem Waiting.answer {skb : Skb} (hw : Waiting c skb (some skb) [c] s) {status : UInt8}
    (h : step bus c s (.answer status) = some s') :
    Quiet c false s' ∧ s'.discarded = s.discarded := by
  obtain ⟨skb', rest, ho, rfl⟩ := step_answer h
  obtain ⟨d, hd, -, -⟩ := hw.channel
  have hrest : rest = [] := (List.cons.inj (ho.symm.trans hw.owed)).2
  have hfound : ListHead.listEmpty s.net.replies .listHead = false := by
    simpa using mt hw.pending.listEmpty.mp (List.cons_ne_nil c [])
  constructor
  · simp only [hw.pending.sendCallback_cons]
    exact ⟨Pending.delReply (modify_pending.mpr hw.pending),
      ⟨netSendCallback status d, by rw [delReply_netdev, modify_self, hd]; rfl, rfl, netSendCallback_echoSkb status d⟩,
      hrest⟩
  · rw [hfound, Bool.or_false]

theorem Inv.answer (hs : Inv c s) {status : UInt8} (hC : InTime s (.answer status))
    (h : step bus c s (.answer status) = some s') : Inv c s' := by
  obtain ⟨skb, rest, ho, hs'⟩ := step_answer h
  have hpc' : s'.pc = s.pc := hs' ▸ rfl
  have hhere := hs.here
  have hquiet : ∀ {stopped}, ¬ Quiet c stopped s :=
    fun hq => List.cons_ne_nil skb rest (ho.symm.trans hq.owed)
  obtain ⟨hsub, hecho⟩ := hC
  generalize hpc : s.pc = pc at hhere hsub hecho
  cases pc with
  | idle =>
    obtain ⟨_, hwait⟩ := hhere.resolve_left hquiet
    obtain ⟨hq, hdis⟩ := hwait.answer h
    exact ⟨by rw [hpc', hpc]; exact .inl hq, hdis.trans hs.discarded⟩
  | stopped skb => exact absurd hhere hquiet
  | submitted skb => exact absurd rfl (hsub skb)
  | echoed frameLen => exact absurd rfl (hecho frameLen)
  | linked frameLen =>
    obtain ⟨_, hwait⟩ := hhere.resolve_left hquiet
    obtain ⟨hq, hdis⟩ := hwait.answer h
    exact ⟨by rw [hpc', hpc]; exact .inl hq, hdis.trans hs.discarded⟩

/-- **One step**: a step in time keeps the invariant. -/
theorem inv_step (bus : Bus) (c : ℕ) (s : St) (e : Event) (s' : St) (hs : Inv c s) (hC : InTime s e)
    (h : step bus c s e = some s') : Inv c s' := by
  cases e with
  | call skb => exact hs.call h
  | piece => exact hs.piece h
  | answer status => exact hs.answer hC h

/-- An answer that is not in time is thrown away. -/
theorem discarded_of_not_inTime {e : Event} (hs : Inv c s) (hC : ¬ InTime s e)
    (h : step bus c s e = some s') : s'.discarded = true := by
  cases e with
  | call skb => exact absurd trivial hC
  | piece => exact absurd trivial hC
  | answer status =>
    obtain ⟨skb, rest, ho, rfl⟩ := step_answer h
    have hempty : s.net.Pending [] := by
      have hhere := hs.here
      rw [InTime] at hC
      generalize s.pc = pc at hhere hC
      cases pc with
      | submitted skb => exact hhere.pending
      | echoed frameLen =>
        obtain ⟨skb, hwait⟩ := hhere
        exact hwait.pending
      | idle => simp at hC
      | stopped skb => simp at hC
      | linked frameLen => simp at hC
    simp only [hempty.listEmpty.mpr rfl, Bool.or_true]

end Steps

/-- **No completion is lost** exactly when no answer is handled between the submission
of its frame and the append of its entry. -/
theorem notLost_iff (bus : Bus) {c : ℕ} {s t : St} (hs : Start c s) {es : List Event}
    (hr : run (step bus c) s es = some t) :
    Always (step bus c) (NotLost c) s es ↔ Meets (step bus c) InTime s es := by
  refine @always_iff_meets _ _ (step bus c) InTime (Inv c) (NotLost c) (inv_step bus c)
    (fun _ => Inv.notLost) ?_
    s t es hs.inv hr
  intro s e s' hi hC hstep hP
  have hdis := discarded_of_not_inTime hi hC hstep
  rw [hP.discarded] at hdis
  cases hdis

/-! ### One frame -/

/-- Channel 0, open and waiting for nothing. -/
def openChannel : St := ⟨.ready 1, .idle, [], false⟩

theorem start_openChannel : Start 0 openChannel where
  pending := ready_pending 1
  channel := ⟨.create 0, rfl, rfl, rfl⟩
  pc := rfl
  owed := rfl
  discarded := rfl

/-- An answer is in time once the entry is appended. -/
theorem inTime_of_linked {s : St} {frameLen : ℕ} (h : s.pc = .linked frameLen) (status : UInt8) :
    InTime s (.answer status) := by
  simp [InTime, h]

/-- The answer comes when the entry is appended. -/
theorem notLost_late :
    Always (step .lin 0) (NotLost 0) openChannel
      [.call emptySkb, .piece, .piece, .piece, .answer GURU_STATUS_DONE, .piece] := by
  apply (notLost_iff .lin start_openChannel rfl).mpr
  exact .cons rfl trivial (.cons rfl trivial (.cons rfl trivial (.cons rfl trivial (.cons rfl (inTime_of_linked rfl _)
    (.cons rfl trivial trivial)))))

/-- The answer comes right after the submission: the queue is never woken. -/
theorem not_notLost_early :
    ¬ Always (step .can 0) (NotLost 0) openChannel
      [.call emptySkb, .piece, .answer GURU_STATUS_DONE, .piece, .piece, .piece] := by
  intro h
  obtain ⟨-, skb, -, howed⟩ := (h.last rfl).wakes rfl _ rfl rfl
  cases howed

end Completion

end CanGuru
