import CanGuru.Lib.Machine
import CanGuru.Lib.ListRace
import CanGuru.Driver
import CanGuru.Channel

/-!
# Replies that are appended without a lock

The channels of a message layer share `send_reply_list`. `ndo_start_xmit` of one appends its
entry while that of another does the same, and while the handler of a send status takes an
entry out: the network core keeps only the calls for one channel apart. Everywhere else an
append and a deletion are one step each; this module says when that is right, and what happens
when it is not.

## The model

Calls of `ndo_start_xmit`, any number of them at a time, one for each channel, and one handler.
The call is cut where `xmitPhase` cuts it, and `list_add_tail` and `list_del` into their loads
and stores, which take effect in the order of the program. A status may come at any time.

## What is proved

* `listed_of_run` — **the list is a queue** in every run in which the pieces that touch the
  same pointers stay apart: no unusable pointer is followed, the statuses go to the channels in
  the order in which these stored to the head, and when nothing is in progress the list is that
  of the channels that wait.
* `append_alone`, `handle_alone` — the pieces that nothing disturbs are `waitSendReply` and
  `sendCallback`.
* `deaf_of_run` — **a list that is broken stays broken**: once an entry was appended behind the
  last one while that was being deleted, and everything has come to its end, the list looks
  empty for ever. No frame is completed any more, and every channel appends once more at most.
-/

namespace CanGuru

open Machine MsgNet ListHead

namespace ReplyRace

/-- Where the handler of a send status stands. -/
inductive Handler where
  /-- No status is being handled. -/
  | idle
  /-- The list is not empty. -/
  | found (status : UInt8)
  /-- The entry of channel `c` was taken. -/
  | taken (c : ℕ) (status : UInt8)
  /-- The callback has run, and `list_del` stands at `d`. -/
  | del (d : DelPc ReplyNode)
  deriving DecidableEq

/-- Where `list_del` stands. -/
def Handler.pc : Handler → DelPc ReplyNode
  | .del d => d
  | _ => .idle

/-- After a piece of `list_del`. -/
def Handler.ofDel : DelPc ReplyNode → Handler
  | .idle => .idle
  | d => .del d

/-- The channel whose entry is in the list though its frame is completed. -/
def Handler.called : Handler → List ℕ
  | .del (.start (.reply c)) => [c]
  | _ => []

/-- A call has its frame in hand and has not appended the entry. -/
def Sending : Pc → Prop
  | .stopped _ | .submitted _ | .echoed _ => True
  | _ => False

/-- The channels of a message layer and the handler. -/
structure St where
  /-- The message layer. -/
  net : MsgNet
  /-- Where the call of `ndo_start_xmit` of each channel stands. -/
  pc : ℕ → Pc
  /-- Where its `list_add_tail` stands, in a call at `Pc.echoed`. -/
  add : ReplyNode → TailPc ReplyNode
  /-- The handler. -/
  handler : Handler
  /-- The channels that stored their entries to the head, in this order. -/
  appended : List ℕ
  /-- The channels whose callbacks have run, in this order. -/
  completed : List ℕ

/-- The steps. -/
inductive Event where
  /-- `ndo_start_xmit` of channel `c` is called. -/
  | call (c : ℕ) (skb : Skb)
  /-- The next piece of the call, up to the append and after it. -/
  | piece (c : ℕ) (o : XmitOutcome)
  /-- The next load or store of its `list_add_tail`. -/
  | access (c : ℕ)
  /-- A send status arrives. -/
  | status (status : UInt8)
  /-- The next piece of the handler. -/
  | handle

/-- What a step does, where it can happen. -/
def step (bus : Bus) (s : St) : Event → Option St
  | .call c skb =>
    match s.pc c, s.net.netdev c with
    | .idle, some d =>
      if d.queueStopped then none
      else
        let (pc, net) := xmitEnter c skb s.net
        some { s with net := net, pc := Function.update s.pc c pc }
    | _, _ => none
  | .piece c o =>
    match s.pc c with
    | .idle => none
    | .echoed _ => none
    | pc =>
      let (pc, net, _) := xmitPhase bus.send o c pc s.net
      some { s with net := net, pc := Function.update s.pc c pc }
  | .access c =>
    match s.pc c with
    | .echoed frameLen =>
      let a := s.add (.reply c)
      let (a', replies) := tailNext .listHead (.reply c) s.net.replies a
      some
        { s with
          net := { s.net with replies := replies }
          pc := if a' = .idle then Function.update s.pc c (.linked frameLen) else s.pc
          add := Function.update s.add (.reply c) a'
          appended := match a with | .loaded _ => s.appended ++ [c] | _ => s.appended }
    | _ => none
  | .status status =>
    match s.handler with
    | .idle =>
      some (if listEmpty s.net.replies .listHead then s else { s with handler := .found status })
    | _ => none
  | .handle =>
    match s.handler with
    | .idle => none
    | .found status =>
      match s.net.firstReply with
      | some c => some { s with handler := .taken c status }
      | none => some { s with net := { s.net with replies := { s.net.replies with oops := true } }, handler := .idle }
    | .taken c status =>
      some
        { s with
          net := s.net.modify c (netSendCallback status)
          handler := .del (.start (.reply c))
          completed := s.completed ++ [c] }
    | .del d =>
      let (d, replies) := delNext s.net.replies d
      some { s with net := { s.net with replies := replies }, handler := .ofDel d }

/-- Channels that wait for nothing. -/
structure Start (s : St) : Prop where
  /-- No reply is pending. -/
  pending : s.net.Pending []
  /-- No call is in progress. -/
  pc : ∀ c, s.pc c = .idle
  /-- Nothing is being appended. -/
  add : s.add = fun _ => .idle
  /-- No status is being handled. -/
  handler : s.handler = .idle
  /-- Nothing was appended or completed. -/
  lists : s.appended = [] ∧ s.completed = []

/-- **The pieces that touch the same pointers stay apart.** `h->prev` is not loaded while another
channel is about to store to it, nor while the last entry is being deleted, nor by an append of
an entry that is still being taken out; no entry is linked behind one that does not point at
the head yet, nor behind the head while the handler is about to store there; and an entry is
not deleted while another is being linked behind it. -/
def Apart (s : St) : Event → Prop
  | .access c => TailApart .listHead (.reply c) s.add s.handler.pc (s.add (.reply c))
  | .handle => DelApart s.add s.handler.pc
  | _ => True

/-- The channels that appended and are not completed. -/
def St.waiting (s : St) : List ℕ := s.appended.drop s.completed.length

/-- **The list is a queue.** -/
structure Listed (s : St) : Prop where
  /-- No pointer that holds nothing usable was followed. -/
  sound : s.net.replies.oops = false
  /-- The channels are completed in the order in which they appended. -/
  order : s.completed <+: s.appended
  /-- The entry that is taken is that of the channel that has waited longest. -/
  taken : ∀ c status, s.handler = .taken c status → s.waiting.head? = some c
  /-- A status is thrown away only before that channel is done with its append. -/
  empty : s.handler = .idle → listEmpty s.net.replies .listHead = true →
    ∀ c, s.waiting.head? = some c →
    s.add (.reply c) ≠ .idle
  /-- When nothing is in progress the list is that of the channels that wait. -/
  pending : s.handler = .idle → (∀ c, s.add (.reply c) = .idle) → s.net.Pending s.waiting

/-! ### The invariant -/

/-- The invariant, with the channels `cs` waiting. -/
structure Inv (s : St) (cs : List ℕ) : Prop where
  /-- Every channel that appended is completed or waits. -/
  account : s.appended = s.completed ++ cs
  /-- The list. -/
  racing : Racing .listHead ((s.handler.called ++ cs).map .reply) s.net.replies s.add s.handler.pc
  /-- The first entry is linked when it was found. -/
  found : ∀ status, s.handler = .found status → ∃ c rest, cs = c :: rest ∧ s.add (.reply c) = .idle
  /-- It is the one that is taken. -/
  taken : ∀ c status, s.handler = .taken c status → ∃ rest, cs = c :: rest ∧
    s.add (.reply c) = .idle
  /-- A channel that waits or is about to has stopped its queue. -/
  stopped : ∀ c, c ∈ cs ∨ Sending (s.pc c) → ∃ d, s.net.netdev c = some d ∧ d.queueStopped = true
  /-- A channel that has not begun to append does not wait. -/
  fresh : ∀ c, Sending (s.pc c) → s.add (.reply c) = .idle → c ∉ cs
  /-- Only a call that has put its echo appends. -/
  adding : ∀ c, s.add (.reply c) ≠ .idle → ∃ frameLen, s.pc c = .echoed frameLen

theorem Start.inv {s : St} (h : Start s) : Inv s [] where
  account := by rw [h.lists.1, h.lists.2]; rfl
  racing := by
    rw [h.handler, h.add]
    exact Holds.racing h.pending
  found status hf := by
    rw [h.handler] at hf
    cases hf
  taken c status ht := by
    rw [h.handler] at ht
    cases ht
  stopped c hc := by
    rw [h.pc] at hc
    exact hc.elim (fun hc => absurd hc List.not_mem_nil) False.elim
  fresh _ _ _ := List.not_mem_nil
  adding c hc := by
    rw [h.add] at hc
    exact absurd rfl hc

section Steps

variable {bus : Bus} {s s' : St} {cs : List ℕ} {c : ℕ}

theorem Inv.waiting (h : Inv s cs) : s.waiting = cs := by
  rw [St.waiting, h.account, List.drop_left]

/-- An entry in the list that does not lag is linked. -/
theorem Inv.linked (h : Inv s cs) (hc : c ∈ cs) (hlags : ¬ (s.add (.reply c)).Lags) :
    s.add (.reply c) = .idle := by
  refine TailPc.eq_idle hlags fun p hp => h.racing.not_mem hp (List.mem_cons_of_mem _ ?_)
  exact List.mem_map_of_mem (List.mem_append_right _ hc)

theorem Inv.notAdding (h : Inv s cs) (hpc : ∀ frameLen, s.pc c ≠ .echoed frameLen) :
    s.add (.reply c) = .idle := by
  by_contra hne
  obtain ⟨frameLen, hlen⟩ := h.adding c hne
  exact hpc frameLen hlen

/-- **The invariant gives the property.** -/
theorem Inv.listed (h : Inv s cs) : Listed s where
  sound := h.racing.sound
  order := ⟨cs, h.account.symm⟩
  taken c status ht := by
    obtain ⟨rest, hcs, -⟩ := h.taken c status ht
    rw [h.waiting, hcs]
    rfl
  empty hidle hempty c hc hadd := by
    rw [h.waiting] at hc
    obtain ⟨rest, rfl⟩ : ∃ rest, cs = c :: rest := by
      cases cs with
      | nil => cases hc
      | cons c' rest => exact ⟨rest, by rw [Option.some.inj hc]⟩
    have hr := h.racing
    rw [hidle] at hr
    have hfirst := hr.listFirst (by rw [hadd]; exact id)
    rw [listEmpty, show s.net.replies.next .listHead = some (.reply c) from hfirst] at hempty
    simp at hempty
  pending hidle hadd := by
    have hr := h.racing
    rw [hidle] at hr
    rw [h.waiting]
    refine hr.holds fun n => ?_
    cases n with
    | listHead =>
      obtain ⟨full, hl⟩ := hr.lagging
      exact hl.head
    | reply c => exact hadd c

theorem Inv.free (h : Inv s cs) {d : NetDevice} (hd : s.net.netdev c = some d)
    (hq : d.queueStopped = false) : c ∉ cs :=
  fun hc => not_stopped hd hq (h.stopped c (.inl hc))

/-- A step of a channel that leaves the list alone. -/
theorem Inv.channel (h : Inv s cs) {p : Pc} {net : MsgNet} (hrep : net.replies = s.net.replies)
    (hother : ∀ c' ≠ c, net.netdev c' = s.net.netdev c')
    (hpc : ∀ frameLen, s.pc c ≠ .echoed frameLen)
    (hstopped : c ∈ cs ∨ Sending p → ∃ d, net.netdev c = some d ∧ d.queueStopped = true)
    (hfresh : Sending p → c ∉ cs) :
    Inv { s with net := net, pc := Function.update s.pc c p } cs := by
  refine ⟨h.account, ?_, h.found, h.taken, fun c' hc' => ?_, fun c' hc' hadd => ?_,
    fun c' hadd => ?_⟩
  · show Racing .listHead _ net.replies s.add s.handler.pc
    rw [hrep]
    exact h.racing
  · by_cases hcc : c' = c
    · subst hcc
      simp only [Function.update_self] at hc'
      exact hstopped hc'
    · simp only [Function.update_of_ne hcc] at hc'
      show ∃ d, net.netdev c' = some d ∧ d.queueStopped = true
      rw [hother c' hcc]
      exact h.stopped c' hc'
  · by_cases hcc : c' = c
    · subst hcc
      simp only [Function.update_self] at hc'
      exact hfresh hc'
    · simp only [Function.update_of_ne hcc] at hc'
      exact h.fresh c' hc' hadd
  · obtain ⟨frameLen, hlen⟩ := h.adding c' hadd
    have hcc : c' ≠ c := fun he => hpc frameLen (he ▸ hlen)
    exact ⟨frameLen, (Function.update_of_ne hcc ..).trans hlen⟩

/-- What the start of a call does: a call that goes on has stopped its queue. -/
theorem xmitEnter_kept {m : MsgNet} {d : NetDevice} (hd : m.netdev c = some d) (skb : Skb) :
    (xmitEnter c skb m).2.replies = m.replies ∧
      (∀ c' ≠ c, (xmitEnter c skb m).2.netdev c' = m.netdev c') ∧
      (Sending (xmitEnter c skb m).1 → ∃ d', (xmitEnter c skb m).2.netdev c = some d' ∧
      d'.queueStopped = true) := by
  unfold xmitEnter
  split
  case isTrue => exact ⟨rfl, fun c' hc' => modify_of_ne hc' .., False.elim⟩
  case isFalse =>
    refine ⟨rfl, fun c' hc' => modify_of_ne hc' .., fun _ => ⟨d.netifStopQueue, ?_, rfl⟩⟩
    rw [modify_self, hd]
    rfl

theorem step_call {skb : Skb} (hs : step bus s (.call c skb) = some s') :
    ∃ d, s.pc c = .idle ∧ s.net.netdev c = some d ∧ d.queueStopped = false ∧
      s' =
        { s with
          net := (xmitEnter c skb s.net).2
          pc := Function.update s.pc c (xmitEnter c skb s.net).1 } := by
  rw [step] at hs
  split at hs
  case h_2 => cases hs
  case h_1 d hpc hd =>
    split at hs
    case isTrue => cases hs
    case isFalse hq =>
      exact ⟨d, hpc, hd, Bool.eq_false_of_not_eq_true hq, (Option.some.inj hs).symm⟩

theorem Inv.call (h : Inv s cs) {skb : Skb} (hs : step bus s (.call c skb) = some s') :
    Inv s' cs := by
  obtain ⟨d, hpc, hd, hq, rfl⟩ := step_call hs
  obtain ⟨hrep, hother, hstopped⟩ := xmitEnter_kept hd skb
  have hfree := h.free hd hq
  refine h.channel hrep hother (fun _ he => ?_) (fun hc => ?_) fun _ => hfree
  · rw [hpc] at he
    cases he
  · exact hstopped (hc.resolve_left hfree)

/-- What a piece of a call does that is not in `list_add_tail`: a call that goes on with its
frame had it before, and its queue is as it was. -/
theorem xmitPhase_kept {m : MsgNet} {pc : Pc} (o : XmitOutcome)
    (hpc : ∀ frameLen, pc ≠ .echoed frameLen) :
    (xmitPhase bus.send o c pc m).2.1.replies = m.replies ∧
      (∀ c' ≠ c, (xmitPhase bus.send o c pc m).2.1.netdev c' = m.netdev c') ∧
      (Sending (xmitPhase bus.send o c pc m).1 → Sending pc) ∧
      (¬ Sending pc ∨ Sending (xmitPhase bus.send o c pc m).1 → ∀ d, m.netdev c = some d →
        ∃ d', (xmitPhase bus.send o c pc m).2.1.netdev c = some d' ∧
          d'.queueStopped = d.queueStopped) := by
  cases hd : m.netdev c with
  | none =>
    rw [xmitPhase, hd]
    exact ⟨rfl, fun _ _ => rfl, id, fun _ _ hd' => by cases hd'⟩
  | some d =>
    cases pc with
    | idle =>
      rw [xmitPhase_idle]
      exact ⟨rfl, fun _ _ => rfl, id, fun _ d' hd' => ⟨d', hd.trans hd', rfl⟩⟩
    | stopped skb =>
      by_cases herr : o.send.err = 0
      · obtain ⟨msg, hx⟩ := @xmitPhase_stopped_ok bus m c d hd o herr skb
        rw [hx]
        exact ⟨rfl, fun _ _ => rfl, fun _ => trivial, fun _ d' hd' => ⟨d', hd.trans hd', rfl⟩⟩
      · rw [@xmitPhase_stopped_err bus m c d hd o herr skb]
        exact ⟨rfl, fun c' hc' => modify_of_ne hc' .., False.elim,
          fun hno => hno.elim (absurd trivial) False.elim⟩
    | submitted skb =>
      have hkept := (d.canPutEchoSkb_kept o.oom skb skb.frameLen).2
      simp only [xmitPhase, hd]
      split
      all_goals
        refine ⟨rfl, fun c' hc' => modify_of_ne hc' .., fun _ => trivial, fun _ d' hd' => ?_⟩
        rw [← Option.some.inj hd']
        exact ⟨_, by rw [modify_self, hd]; rfl, hkept⟩
    | echoed frameLen => exact absurd rfl (hpc frameLen)
    | linked frameLen =>
      rw [@xmitPhase_linked bus m c d hd]
      refine ⟨rfl, fun c' hc' => modify_of_ne hc' .., False.elim, fun _ d' hd' => ?_⟩
      rw [← Option.some.inj hd']
      exact ⟨d.netdevSentQueue frameLen, by rw [modify_self, hd]; rfl, rfl⟩

theorem step_piece {o : XmitOutcome} (hs : step bus s (.piece c o) = some s') :
    s.pc c ≠ .idle ∧ (∀ frameLen, s.pc c ≠ .echoed frameLen) ∧
      s' =
        { s with
          net := (xmitPhase bus.send o c (s.pc c) s.net).2.1
          pc := Function.update s.pc c (xmitPhase bus.send o c (s.pc c) s.net).1 } := by
  rw [step] at hs
  split at hs
  case h_1 => cases hs
  case h_2 => cases hs
  case h_3 hidle hechoed => exact ⟨hidle, hechoed, (Option.some.inj hs).symm⟩

/-- A call goes on, before its append or after it. -/
theorem Inv.piece (h : Inv s cs) {o : XmitOutcome} (hs : step bus s (.piece c o) = some s') :
    Inv s' cs := by
  obtain ⟨-, hpc, rfl⟩ := step_piece hs
  obtain ⟨hrep, hother, hsend, hkept⟩ := @xmitPhase_kept bus c s.net (s.pc c) o hpc
  have hfresh : Sending (s.pc c) → c ∉ cs := fun hc => h.fresh c hc (h.notAdding hpc)
  refine h.channel hrep hother hpc (fun hc => ?_) fun hc => hfresh (hsend hc)
  obtain ⟨d, hd, hq⟩ := h.stopped c (hc.imp_right hsend)
  have hon : ¬ Sending (s.pc c) ∨ Sending (xmitPhase bus.send o c (s.pc c) s.net).1 :=
    hc.imp_left fun hc hsend => hfresh hsend hc
  obtain ⟨d', hd', hq'⟩ := hkept hon d hd
  exact ⟨d', hd', hq'.trans hq⟩

theorem step_access (hs : step bus s (.access c) = some s') :
    ∃ frameLen, s.pc c = .echoed frameLen ∧ s' =
      { s with
        net := { s.net with replies := (tailNext .listHead (.reply c) s.net.replies (s.add (.reply c))).2 }
        pc :=
          if (tailNext .listHead (.reply c) s.net.replies (s.add (.reply c))).1 = .idle then
            Function.update s.pc c (.linked frameLen)
          else s.pc
        add := Function.update s.add (.reply c) (tailNext .listHead (.reply c) s.net.replies (s.add (.reply c))).1
        appended := match s.add (.reply c) with | .loaded _ => s.appended ++ [c] | _ => s.appended } := by
  rw [step] at hs
  split at hs
  case h_1 frameLen hpc => exact ⟨frameLen, hpc, (Option.some.inj hs).symm⟩
  case h_2 => cases hs

theorem Inv.grown (h : Inv s cs) (c : ℕ) : ∃ cs', (match s.add (.reply c) with
      | .loaded _ => s.appended ++ [c]
      | _ => s.appended) = s.completed ++ cs' ∧
    ListHead.grown (.reply c) ((s.handler.called ++ cs).map .reply) (s.add (.reply c)) =
      (s.handler.called ++ cs').map .reply ∧
    cs <+: cs' ∧ ∀ c' ∈ cs', c' ∈ cs ∨ c' = c := by
  cases s.add (.reply c) with
  | loaded p =>
    refine ⟨cs ++ [c], ?_, ?_, List.prefix_append .., fun c' hc' => by simpa using hc'⟩
    · show s.appended ++ [c] = _
      rw [h.account, List.append_assoc]
    · simp [ListHead.grown]
  | _ => exact ⟨cs, h.account, rfl, List.prefix_rfl, fun _ hc => .inl hc⟩

/-- **An access of `list_add_tail`.** -/
theorem Inv.access (h : Inv s cs) (hap : Apart s (.access c))
    (hs : step bus s (.access c) = some s') : ∃ cs', Inv s' cs' := by
  obtain ⟨frameLen, hpc, rfl⟩ := step_access hs
  have hsend : Sending (s.pc c) := by rw [hpc]; trivial
  have hnew : s.add (.reply c) = .idle →
      ReplyNode.reply c ∉ .listHead :: (s.handler.called ++ cs).map .reply := by
    intro hidle hmem
    have hhand : s.handler.pc.hand ≠ some (.reply c) := by
      rw [Apart, hidle] at hap
      exact hap.2.2
    have hin : c ∈ s.handler.called ++ cs := by simpa using hmem
    rcases List.mem_append.mp hin with hc | hc
    · refine hhand ?_
      unfold Handler.called at hc
      split at hc
      case h_1 c' hdel =>
        rw [hdel, List.mem_singleton.mp hc]
        rfl
      case h_2 => cases hc
    · exact h.fresh c hsend hidle hc
  have hracing := h.racing.tail hnew hap
  obtain ⟨cs', haccount, hgrown, hprefix, hmem⟩ := h.grown c
  rw [hgrown] at hracing
  -- the first entry was linked before, and is another one
  have hfirst : ∀ {c₀ rest}, cs = c₀ :: rest → s.add (.reply c₀) = .idle →
    ∃ rest', cs' = c₀ :: rest' ∧
      ∀ a, Function.update s.add (.reply c) a (.reply c₀) = .idle := by
    intro c₀ rest hcs hidle
    obtain ⟨ys, rfl⟩ := hprefix
    have hne : c₀ ≠ c := by
      rintro rfl
      exact h.fresh c₀ hsend hidle (hcs ▸ List.mem_cons_self)
    refine ⟨rest ++ ys, by rw [hcs]; rfl, fun a => ?_⟩
    rw [Function.update_of_ne (by simpa using hne), hidle]
  refine ⟨cs', haccount, hracing, fun status hf => ?_, fun c' status ht => ?_, fun c' hc' => ?_,
    fun c' hc' hadd hcs => ?_, fun c' hadd => ?_⟩
  · obtain ⟨c₀, rest, hcs, hidle⟩ := h.found status hf
    obtain ⟨rest', hcs', hupdate⟩ := hfirst hcs hidle
    exact ⟨c₀, rest', hcs', hupdate _⟩
  · obtain ⟨rest, hcs, hidle⟩ := h.taken c' status ht
    obtain ⟨rest', hcs', hupdate⟩ := hfirst hcs hidle
    exact ⟨rest', hcs', hupdate _⟩
  · by_cases hcc : c' = c
    · rw [hcc]
      exact h.stopped c (.inr hsend)
    · refine h.stopped c' (hc'.imp (fun hin => (hmem c' hin).resolve_right hcc) fun hin => ?_)
      dsimp only at hin
      split at hin
      · rwa [Function.update_of_ne hcc] at hin
      · exact hin
  · by_cases hcc : c' = c
    · subst hcc
      dsimp only at hc' hadd
      rw [Function.update_self] at hadd
      rw [if_pos hadd, Function.update_self] at hc'
      exact hc'
    · have hold : Sending (s.pc c') := by
        dsimp only at hc'
        split at hc'
        · rwa [Function.update_of_ne hcc] at hc'
        · exact hc'
      have hadd' : s.add (.reply c') = .idle := by
        dsimp only at hadd
        rwa [Function.update_of_ne (by simpa using hcc)] at hadd
      exact h.fresh c' hold hadd' ((hmem c' hcs).resolve_right hcc)
  · dsimp only at hadd ⊢
    by_cases hcc : c' = c
    · subst hcc
      rw [Function.update_self] at hadd
      rw [if_neg hadd]
      exact ⟨frameLen, hpc⟩
    · rw [Function.update_of_ne (by simpa using hcc)] at hadd
      obtain ⟨len, hlen⟩ := h.adding c' hadd
      refine ⟨len, ?_⟩
      split
      · rwa [Function.update_of_ne hcc]
      · exact hlen

/-- A status that finds an entry finds one that is linked. -/
theorem Inv.status (h : Inv s cs) {status : UInt8} (hs : step bus s (.status status) = some s') :
    Inv s' cs := by
  rw [step] at hs
  split at hs
  case h_2 => cases hs
  case h_1 hidle =>
    obtain rfl := Option.some.inj hs
    split
    case isTrue => exact h
    case isFalse hne =>
      have hr := h.racing
      rw [hidle] at hr
      have hcalled : (Handler.found status).called = s.handler.called := by rw [hidle]; rfl
      have hpc : (Handler.found status).pc = s.handler.pc := by rw [hidle]; rfl
      refine ⟨h.account, ?_, fun _ _ => ?_, nofun, h.stopped, h.fresh, h.adding⟩
      · show Racing .listHead (((Handler.found status).called ++ cs).map .reply)
          s.net.replies s.add _
        rw [hcalled, hpc]
        exact h.racing
      · cases cs with
        | nil => exact absurd (hr.listEmpty nofun) hne
        | cons c rest =>
          refine ⟨c, rest, rfl, h.linked List.mem_cons_self fun hlags => hne (hr.listEmpty ?_)⟩
          rintro x hx
          rw [← Option.some.inj hx]
          exact hlags

@[simp] theorem pc_ofDel (d : DelPc ReplyNode) : (Handler.ofDel d).pc = d := by
  cases d <;> rfl

/-- A piece of `list_del` takes the entry out once it has begun. -/
theorem called_ofDel (l : Links ReplyNode) (d : DelPc ReplyNode) :
    (Handler.ofDel (delNext l d).1).called = [] := by
  cases d with
  | start x => rw [delNext]; split <;> rfl
  | next x q => rw [delNext]; split <;> rfl
  | _ => rfl

/-- **A piece of the handler.** -/
theorem Inv.handle (h : Inv s cs) (hap : Apart s .handle) (hs : step bus s .handle = some s') :
    ∃ cs', Inv s' cs' := by
  rw [step] at hs
  split at hs
  case h_1 => cases hs
  case h_2 status hf =>
    obtain ⟨c, rest, rfl, hidle⟩ := h.found status hf
    have hr := h.racing
    rw [hf] at hr
    have hfirst : s.net.firstReply = some c := by
      rw [MsgNet.firstReply, hr.listFirst (by rw [hidle]; exact id)]
    rw [hfirst] at hs
    obtain rfl := Option.some.inj hs
    refine ⟨c :: rest, h.account, hr, fun _ hf => (by cases hf), fun c' status' ht => ?_, h.stopped, h.fresh, h.adding⟩
    obtain ⟨rfl, -⟩ := Handler.taken.inj ht
    exact ⟨rest, rfl, hidle⟩
  case h_3 c status ht =>
    obtain rfl := Option.some.inj hs
    obtain ⟨rest, rfl, hidle⟩ := h.taken c status ht
    have hr := h.racing
    rw [ht] at hr
    have hnot : c ∉ rest := by
      have hnd : (c :: rest).Nodup := ((List.nodup_cons.mp hr.nodup).2).of_map
      exact (List.nodup_cons.mp hnd).1
    refine ⟨rest, ?_, hr.start hidle, fun _ hf => (by cases hf), fun _ _ ht => (by cases ht),
      fun c' hc' => ?_, fun c' hc' hadd hin => ?_, h.adding⟩
    · show s.appended = s.completed ++ [c] ++ rest
      rw [h.account, List.append_assoc]
      rfl
    · have hne : c' ≠ c := by
        rintro rfl
        exact hc'.elim hnot fun hsend => h.fresh c' hsend hidle List.mem_cons_self
      show ∃ d, (s.net.modify c (netSendCallback status)).netdev c' = some d ∧ d.queueStopped = true
      rw [modify_of_ne hne]
      exact h.stopped c' (hc'.imp_left (List.mem_cons_of_mem _))
    · exact h.fresh c' hc' hadd (List.mem_cons_of_mem _ hin)
  case h_4 d hd =>
    have hs : s' =
        { s with
          net := { s.net with replies := (delNext s.net.replies d).2 }
          handler := .ofDel (delNext s.net.replies d).1 } := (Option.some.inj hs).symm
    subst hs
    have hr := h.racing
    have hpc : s.handler.pc = d := by
      rw [hd]
      rfl
    rw [hpc, hd] at hr
    rw [Apart, hpc] at hap
    have hshrunk : shrunk (((Handler.del d).called ++ cs).map ReplyNode.reply) d =
        cs.map .reply := by
      cases d with
      | start x =>
        cases x with
        | listHead =>
          have hfirst := hr.deleting.first .listHead rfl
          simp [Handler.called] at hfirst
        | reply c => rfl
      | _ => rfl
    have hdel := hr.del hap
    rw [hshrunk] at hdel
    refine ⟨cs, h.account, ?_, fun status hf => ?_, fun c status ht => ?_, h.stopped,
      h.fresh, h.adding⟩
    · show Racing .listHead (((Handler.ofDel (delNext s.net.replies d).1).called ++ cs).map .reply) _ s.add _
      rw [called_ofDel, pc_ofDel]
      exact hdel
    · dsimp only at hf
      unfold Handler.ofDel at hf
      split at hf <;> cases hf
    · dsimp only at ht
      unfold Handler.ofDel at ht
      split at ht <;> cases ht

/-- **One step** in which the pieces stay apart keeps the invariant. -/
theorem inv_step (bus : Bus) (s : St) (e : Event) (s' : St) (h : ∃ cs, Inv s cs) (hap : Apart s e)
    (hs : step bus s e = some s') : ∃ cs, Inv s' cs := by
  obtain ⟨cs, h⟩ := h
  cases e with
  | call c skb => exact ⟨cs, h.call hs⟩
  | piece c o => exact ⟨cs, h.piece hs⟩
  | access c => exact h.access hap hs
  | status status => exact ⟨cs, h.status hs⟩
  | handle => exact h.handle hap hs

/-- **The list is a queue** in every run in which the pieces stay apart. -/
theorem listed_of_run (bus : Bus) {t : St} {es : List Event} (hs : Start s)
    (hap : Meets (step bus) Apart s es) (hr : run (step bus) s es = some t) : Listed t := by
  obtain ⟨cs, h⟩ := (always_of_meets (inv_step bus) ⟨[], hs.inv⟩ hap).last hr
  exact h.listed

/-! ### Alone -/

/-- **The accesses of an append that nothing disturbs make `waitSendReply`.** -/
theorem append_alone {frameLen : ℕ} (hpc : s.pc c = .echoed frameLen)
    (hadd : s.add (.reply c) = .idle) (hp : (s.net.replies.prev .listHead).isSome) :
    run (step bus) s (List.replicate 5 (.access c)) = some
      { s with
        net := s.net.waitSendReply c
        pc := Function.update s.pc c (.linked frameLen)
        appended := s.appended ++ [c] } := by
  obtain ⟨p, hp⟩ := Option.isSome_iff_exists.mp hp
  have hself : Function.update s.add (.reply c) .idle = s.add := by
    rw [← hadd, Function.update_eq_self]
  simp [List.replicate, run, step, hpc, hadd, tailNext, hp, waitSendReply, listAddTail, hself]

/-- **The pieces of a handler that nothing disturbs make `sendCallback`.** -/
theorem handle_alone (hidle : s.handler = .idle) (hfirst : s.net.firstReply = some c)
    (hp : (s.net.replies.prev (.reply c)).isSome) (hq : (s.net.replies.next (.reply c)).isSome) (status : UInt8) :
    run (step bus) s (.status status :: List.replicate 8 .handle) = some
      { s with net := s.net.sendCallback status, completed := s.completed ++ [c] } := by
  obtain ⟨p, hp⟩ := Option.isSome_iff_exists.mp hp
  obtain ⟨q, hq⟩ := Option.isSome_iff_exists.mp hq
  have hne : listEmpty s.net.replies .listHead = false := by
    rw [listEmpty, show s.net.replies.next .listHead = some (.reply c) from firstReply_eq_some hfirst]
    simp
  rw [sendCallback_of_first hfirst]
  simp [List.replicate, run, step, hidle, hne, hfirst, delNext, hp, hq, Handler.ofDel,
    MsgNet.modify, delReply, listDel]

/-! ### A list that looks empty -/

/-- **The list looks empty and is not**: the head points at itself, but back at an entry. -/
structure Deaf (s : St) : Prop where
  /-- The head points at itself. -/
  head : s.net.replies.next .listHead = some .listHead
  /-- It points back at an entry. -/
  tail : ∃ n, n ≠ .listHead ∧ s.net.replies.prev .listHead = some n
  /-- No entry is being linked behind the head. -/
  behind : ∀ c, (s.add (.reply c)).behind ≠ some .listHead
  /-- No status is being handled. -/
  handler : s.handler = .idle

/-- A channel has stopped its queue. -/
def Stopped (s : St) (c : ℕ) : Prop := ∃ d, s.net.netdev c = some d ∧ d.queueStopped = true

/-- **A channel appends once at most**, with `n` the times it had appended before. -/
structure Once (n c : ℕ) (s : St) : Prop where
  /-- It has not appended yet, or it has and waits. -/
  once : s.appended.count c = n ∧ ¬ (s.add (.reply c)).Lags ∧
    (s.pc c = .idle ∨ Sending (s.pc c) ∧ Stopped s c) ∨
    s.appended.count c = n + 1 ∧ Stopped s c ∧
      (s.pc c = .idle ∨ (∃ frameLen, s.pc c = .linked frameLen) ∨ (s.add (.reply c)).Lags)
  /-- Only a call that has put its echo appends. -/
  adding : s.add (.reply c) ≠ .idle → ∃ frameLen, s.pc c = .echoed frameLen

/-- A step of one channel leaves the others alone. -/
structure Others (c : ℕ) (s s' : St) : Prop where
  /-- Their devices. -/
  netdev : ∀ c' ≠ c, s'.net.netdev c' = s.net.netdev c'
  /-- Their calls. -/
  pc : ∀ c' ≠ c, s'.pc c' = s.pc c' ∧ s'.add (.reply c') = s.add (.reply c')
  /-- How often they have appended. -/
  appended : ∀ c' ≠ c, s'.appended.count c' = s.appended.count c'

theorem Once.others {n c' : ℕ} (h : Once n c' s) (ho : Others c s s') (hc : c' ≠ c) :
    Once n c' s' := by
  obtain ⟨hpc, hadd⟩ := ho.pc c' hc
  refine ⟨?_, ?_⟩
  · rw [Stopped, ho.netdev c' hc, hpc, hadd, ho.appended c' hc]
    exact h.once
  · rw [hpc, hadd]
    exact h.adding

/-- A list that looks empty stays so when nothing is done to it. -/
theorem Deaf.congr (h : Deaf s) (hrep : s'.net.replies = s.net.replies) (hadd : s'.add = s.add)
    (hhandler : s'.handler = s.handler) : Deaf s' := by
  refine ⟨?_, ?_, ?_, hhandler.trans h.handler⟩
  · rw [hrep]
    exact h.head
  · rw [hrep]
    exact h.tail
  · rw [hadd]
    exact h.behind

/-- What a step of channel `c` does while the list looks empty. -/
structure Silent (c : ℕ) (s s' : St) : Prop where
  /-- The list looks empty. -/
  deaf : Deaf s'
  /-- The other channels are left alone. -/
  others : Others c s s'
  /-- Nothing is completed. -/
  completed : s'.completed = s.completed
  /-- The channel appends once at most. -/
  once : ∀ n, Once n c s → Once n c s'
  /-- It was in a call, or its queue ran. -/
  busy : s.pc c ≠ .idle ∨ ¬ Stopped s c

theorem Deaf.call (h : Deaf s) {skb : Skb} (hs : step bus s (.call c skb) = some s') :
    Silent c s s' := by
  obtain ⟨d, hpc, hd, hq, rfl⟩ := step_call hs
  obtain ⟨hrep, hother, hstopped⟩ := xmitEnter_kept hd skb
  have hrun : ¬ Stopped s c := not_stopped hd hq
  refine ⟨h.congr hrep rfl rfl,
    ⟨hother, fun c' hc' => ⟨Function.update_of_ne hc' .., rfl⟩, fun _ _ => rfl⟩, rfl,
    fun n hn => ⟨?_, fun hadd => ?_⟩, .inr hrun⟩
  · obtain ⟨hcount, hlags, -⟩ := hn.once.resolve_right fun hlate => hrun hlate.2.1
    refine .inl ⟨hcount, hlags, ?_⟩
    show Function.update s.pc c (xmitEnter c skb s.net).1 c = .idle ∨
      Sending (Function.update s.pc c _ c) ∧ _
    rw [Function.update_self]
    by_cases hi : skb.invalid
    · left
      simp [xmitEnter, hi]
    · have hsend : Sending (xmitEnter c skb s.net).1 := by
        simp only [xmitEnter, hi, Bool.false_eq_true, if_false]
        trivial
      exact .inr ⟨hsend, hstopped hsend⟩
  · obtain ⟨frameLen, hlen⟩ := hn.adding hadd
    rw [hpc] at hlen
    cases hlen

/-- A piece of a call ends it, or it goes on. -/
theorem xmitPhase_ends {m : MsgNet} {d : NetDevice} {pc : Pc} (hd : m.netdev c = some d)
    (o : XmitOutcome) (hpc : ∀ frameLen, pc ≠ .echoed frameLen) :
    (xmitPhase bus.send o c pc m).1 = .idle ∨ Sending (xmitPhase bus.send o c pc m).1 := by
  cases pc with
  | idle =>
    rw [xmitPhase_idle]
    exact .inl rfl
  | stopped skb =>
    simp only [xmitPhase, hd]
    split
    · exact .inl rfl
    · exact .inr trivial
  | submitted skb =>
    simp only [xmitPhase, hd]
    split
    · exact .inl rfl
    · exact .inr trivial
  | echoed frameLen => exact absurd rfl (hpc frameLen)
  | linked frameLen =>
    rw [@xmitPhase_linked bus m c d hd]
    exact .inl rfl

/-- A call goes on, before its append or after it. -/
theorem Deaf.piece (h : Deaf s) {o : XmitOutcome} (hs : step bus s (.piece c o) = some s') :
    Silent c s s' := by
  obtain ⟨hidle, hpc, rfl⟩ := step_piece hs
  obtain ⟨hrep, hother, hsend, hkept⟩ := @xmitPhase_kept bus c s.net (s.pc c) o hpc
  refine ⟨h.congr hrep rfl rfl,
    ⟨hother, fun c' hc' => ⟨Function.update_of_ne hc' .., rfl⟩, fun _ _ => rfl⟩, rfl,
    fun n hn => ?_, .inl hidle⟩
  have hadd : s.add (.reply c) = .idle := by_contra fun hadd =>
    (hn.adding hadd).elim fun frameLen hlen => hpc frameLen hlen
  -- the queue is stopped in any case, and the call ends or goes on with its frame
  obtain ⟨d, hd, hq⟩ : Stopped s c := by
    rcases hn.once with ⟨-, -, hno | ⟨-, hstopped⟩⟩ | ⟨-, hstopped, -⟩
    · exact absurd hno hidle
    · exact hstopped
    · exact hstopped
  refine ⟨?_, fun hadd' => absurd hadd hadd'⟩
  show _ ∧ _ ∧ (Function.update s.pc c _ c = .idle ∨ Sending (Function.update s.pc c _ c) ∧ _) ∨
    _ ∧ _ ∧ (Function.update s.pc c _ c = .idle ∨
      (∃ frameLen, Function.update s.pc c _ c = .linked frameLen) ∨ _)
  rw [Function.update_self]
  have hgo : (¬ Sending (s.pc c) ∨ Sending (xmitPhase bus.send o c (s.pc c) s.net).1) →
      Stopped { s with
        net := (xmitPhase bus.send o c (s.pc c) s.net).2.1
        pc := Function.update s.pc c (xmitPhase bus.send o c (s.pc c) s.net).1 } c := by
    intro hon
    obtain ⟨d', hd', hq'⟩ := hkept hon d hd
    exact ⟨d', hd', hq'.trans hq⟩
  have hends := @xmitPhase_ends bus c s.net d (s.pc c) hd o hpc
  rcases hn.once with ⟨hcount, hlags, -⟩ | ⟨hcount, -, hlate⟩
  · exact .inl ⟨hcount, hlags, hends.imp_right fun hs' => ⟨hs', hgo (.inr hs')⟩⟩
  · have hlinked : ∃ frameLen, s.pc c = .linked frameLen := by
      rcases hlate with hno | hlinked | hlags
      · exact absurd hno hidle
      · exact hlinked
      · rw [hadd] at hlags
        exact hlags.elim
    obtain ⟨frameLen, hlinked⟩ := hlinked
    have hnot : ¬ Sending (s.pc c) := by
      rw [hlinked]
      exact id
    exact .inr ⟨hcount, hgo (.inl hnot), hends.elim .inl fun hs' => absurd (hsend hs') hnot⟩

theorem others_access (hs : step bus s (.access c) = some s') : Others c s s' := by
  obtain ⟨frameLen, -, rfl⟩ := step_access hs
  refine ⟨fun _ _ => rfl, fun c' hc' => ⟨?_, ?_⟩, fun c' hc' => ?_⟩
  · dsimp only
    split
    · exact Function.update_of_ne hc' ..
    · rfl
  · exact Function.update_of_ne (by simpa using hc') ..
  · dsimp only
    split
    · rw [List.count_append, List.count_singleton, beq_eq_false_iff_ne.mpr hc'.symm]
      rfl
    · rfl

/-- An access keeps the head as it is, or points it back at another entry. -/
theorem tailNext_deaf {l : Links ReplyNode} {a : TailPc ReplyNode}
    (hhead : l.next .listHead = some .listHead)
    (htail : ∃ n, n ≠ .listHead ∧ l.prev .listHead = some n) (hbehind : a.behind ≠ some .listHead) :
    (tailNext .listHead (.reply c) l a).2.next .listHead = some .listHead ∧
      (∃ n, n ≠ .listHead ∧ (tailNext .listHead (.reply c) l a).2.prev .listHead = some n) ∧
      (tailNext .listHead (.reply c) l a).1.behind ≠ some .listHead := by
  obtain ⟨n, hn, hprev⟩ := htail
  cases a with
  | idle =>
    have hpiece : tailNext .listHead (.reply c) l .idle = (.loaded n, l) := by
      simp [tailNext, hprev]
    rw [hpiece]
    exact ⟨hhead, ⟨n, hn, hprev⟩, by simpa [TailPc.behind] using hn⟩
  | loaded p => exact ⟨hhead, ⟨.reply c, by simp, by simp [tailNext, Links.setPrev]⟩, hbehind⟩
  | headPrev p => exact ⟨by simpa [tailNext, Links.setNext] using hhead, ⟨n, hn, hprev⟩, hbehind⟩
  | nodeNext p => exact ⟨hhead, ⟨n, hn, by simpa [tailNext, Links.setPrev] using hprev⟩, hbehind⟩
  | nodePrev p =>
    have hp : ReplyNode.listHead ≠ p := fun he => hbehind (by rw [← he]; rfl)
    exact ⟨by simpa [tailNext, Links.setNext, Function.update_of_ne hp] using hhead, ⟨n, hn, hprev⟩,
      by simp [tailNext, TailPc.behind]⟩

/-- An access of a channel that appends once at most. -/
theorem Once.access {n : ℕ} (h : Once n c s) (hprev : (s.net.replies.prev .listHead).isSome)
    (hs : step bus s (.access c) = some s') : Once n c s' := by
  obtain ⟨frameLen, hpc, rfl⟩ := step_access hs
  obtain ⟨p, hp⟩ := Option.isSome_iff_exists.mp hprev
  have hsend : Sending (s.pc c) := by
    rw [hpc]
    trivial
  have honce : s.appended.count c = n ∧ ¬ (s.add (.reply c)).Lags ∧ Stopped s c ∨
      s.appended.count c = n + 1 ∧ Stopped s c ∧ (s.add (.reply c)).Lags := by
    rcases h.once with ⟨hcount, hlags, hidle | ⟨-, hstopped⟩⟩ | ⟨hcount, hstopped, hidle |
      ⟨len, hlinked⟩ | hlags⟩
    · rw [hpc] at hidle
      cases hidle
    · exact .inl ⟨hcount, hlags, hstopped⟩
    · rw [hpc] at hidle
      cases hidle
    · rw [hpc] at hlinked
      cases hlinked
    · exact .inr ⟨hcount, hstopped, hlags⟩
  have hearly (hno : ¬ (s.add (.reply c)).Lags) : s.appended.count c = n ∧ Stopped s c := by
    obtain ⟨hcount, -, hstopped⟩ := honce.resolve_right fun hlate => hno hlate.2.2
    exact ⟨hcount, hstopped⟩
  have hlate (hlags : (s.add (.reply c)).Lags) : s.appended.count c = n + 1 ∧ Stopped s c := by
    obtain ⟨hcount, hstopped, -⟩ := honce.resolve_left fun hearly => hearly.2.1 hlags
    exact ⟨hcount, hstopped⟩
  cases hadd : s.add (.reply c) <;> rw [hadd] at hearly hlate
  case idle =>
    obtain ⟨hcount, hstopped⟩ := hearly id
    refine ⟨.inl ⟨hcount, ?_, .inr ⟨?_, hstopped⟩⟩, fun _ => ⟨frameLen, ?_⟩⟩
    · simp [tailNext, hp, TailPc.Lags]
    · simpa [tailNext, hp] using hsend
    · simpa [tailNext, hp] using hpc
  case loaded q =>
    obtain ⟨hcount, hstopped⟩ := hearly id
    refine ⟨.inr ⟨?_, hstopped, .inr (.inr ?_)⟩, fun _ => ⟨frameLen, hpc⟩⟩
    · show (s.appended ++ [c]).count c = n + 1
      rw [List.count_append, hcount, List.count_singleton_self]
    · show (Function.update s.add (.reply c) _ _).Lags
      rw [Function.update_self]
      trivial
  case nodePrev q =>
    obtain ⟨hcount, hstopped⟩ := hlate trivial
    refine ⟨.inr ⟨hcount, hstopped, .inr (.inl ⟨frameLen, Function.update_self ..⟩)⟩,
      fun hno => absurd ?_ hno⟩
    exact Function.update_self ..
  case headPrev q | nodeNext q =>
    obtain ⟨hcount, hstopped⟩ := hlate trivial
    refine ⟨.inr ⟨hcount, hstopped, .inr (.inr ?_)⟩, fun _ => ⟨frameLen, hpc⟩⟩
    show (Function.update s.add (.reply c) _ _).Lags
    rw [Function.update_self]
    trivial

theorem Deaf.access (h : Deaf s) (hs : step bus s (.access c) = some s') : Silent c s s' := by
  have hprev : (s.net.replies.prev .listHead).isSome := by
    obtain ⟨n, -, hn⟩ := h.tail
    rw [hn]
    rfl
  have hothers := others_access hs
  have honce := fun n (hn : Once n c s) => hn.access hprev hs
  obtain ⟨frameLen, hpc, rfl⟩ := step_access hs
  obtain ⟨hhead, htail, hbehind⟩ :=
    @tailNext_deaf c s.net.replies (s.add (.reply c)) h.head h.tail (h.behind c)
  refine ⟨⟨hhead, htail, fun c' => ?_, h.handler⟩, hothers, rfl, honce, .inl (by rw [hpc]; nofun)⟩
  by_cases hcc : c' = c
  · subst hcc
    show (Function.update s.add (.reply c') _ (.reply c')).behind ≠ _
    rwa [Function.update_self]
  · rw [(hothers.pc c' hcc).2]
    exact h.behind c'

/-- **One step**: a list that looks empty stays so, and the step is that of one channel or
changes nothing. -/
theorem Deaf.step (h : Deaf s) {e : Event} (hs : step bus s e = some s') :
    s' = s ∨ ∃ c, Silent c s s' := by
  cases e with
  | call c skb => exact .inr ⟨c, h.call hs⟩
  | piece c o => exact .inr ⟨c, h.piece hs⟩
  | access c => exact .inr ⟨c, h.access hs⟩
  | status status =>
    rw [ReplyRace.step, h.handler] at hs
    have hempty : listEmpty s.net.replies .listHead = true := by simpa [listEmpty] using h.head
    simp only [hempty, if_true, Option.some.injEq] at hs
    exact .inl hs.symm
  | handle =>
    rw [ReplyRace.step, h.handler] at hs
    cases hs

/-- What a run cannot change once the list looks empty. -/
structure After (s₀ s : St) : Prop where
  /-- The list looks empty. -/
  deaf : Deaf s
  /-- Nothing is completed. -/
  completed : s.completed = s₀.completed
  /-- Every channel appends once at most. -/
  once : ∀ c, Once (s₀.appended.count c) c s
  /-- A channel that has stopped its queue and is in no call is left as it is. -/
  still : ∀ c, s₀.pc c = .idle → Stopped s₀ c → s.pc c = .idle ∧ s.net.netdev c = s₀.net.netdev c

theorem After.step {s₀ : St} (h : After s₀ s) {e : Event} (hs : ReplyRace.step bus s e = some s') :
    After s₀ s' := by
  obtain rfl | ⟨c, hc⟩ := h.deaf.step hs
  · exact h
  refine ⟨hc.deaf, hc.completed.trans h.completed, fun c' => ?_, fun c' hidle hstopped => ?_⟩
  · by_cases hcc : c' = c
    · exact hcc ▸ hc.once _ (hcc ▸ h.once c')
    · exact (h.once c').others hc.others hcc
  · obtain ⟨hpc, hdev⟩ := h.still c' hidle hstopped
    have hcc : c' ≠ c := by
      rintro rfl
      refine hc.busy.elim (absurd hpc) fun hno => hno ?_
      rw [Stopped, hdev]
      exact hstopped
    exact ⟨(hc.others.pc c' hcc).1.trans hpc, (hc.others.netdev c' hcc).trans hdev⟩

/-- **A list that is broken stays broken.** From a state in which the list looks empty and is
not, with no call in progress, no frame is completed any more whatever happens: a channel that
waits is left as it is for ever, and every other one appends once more at most. -/
theorem deaf_of_run (bus : Bus) {t : St} {es : List Event} (hd : Deaf s) (hpc : ∀ c, s.pc c = .idle)
    (hadd : ∀ c, s.add (.reply c) = .idle) (hr : run (step bus) s es = some t) :
    t.completed = s.completed ∧ (∀ c, Stopped s c → t.net.netdev c = s.net.netdev c) ∧
      ∀ c, t.appended.count c ≤ s.appended.count c + 1 := by
  have hafter : After s s := by
    refine ⟨hd, rfl, fun c => ⟨.inl ⟨rfl, ?_, .inl (hpc c)⟩, fun hno => absurd (hadd c) hno⟩,
      fun c hidle _ => ⟨hidle, rfl⟩⟩
    rw [hadd]
    exact id
  have h := inv_of_run (fun _ _ _ h hs => After.step h hs) hafter hr
  refine ⟨h.completed, fun c hstopped => (h.still c (hpc c) hstopped).2, fun c => ?_⟩
  rcases (h.once c).once with ⟨hcount, -⟩ | ⟨hcount, -⟩
  · exact hcount.trans_le (Nat.le_succ _)
  · exact hcount.le

end Steps

/-! ### Two channels -/

/-- Two channels that wait for nothing. -/
def twoChannels : St := ⟨.ready 2, fun _ => .idle, fun _ => .idle, .idle, [], []⟩

theorem start_twoChannels : Start twoChannels := ⟨ready_pending 2, fun _ => rfl, rfl, rfl, rfl, rfl⟩

/-- Channel `c` is called and gets as far as its append. -/
def prepare (c : ℕ) : List Event := [.call c emptySkb, .piece c .ok, .piece c .ok]

/-- Channel 1 begins its append while channel 0 is at its own. -/
def mixed : List Event :=
  prepare 0 ++ prepare 1 ++ [.access 0, .access 0, .access 1, .access 1, .access 0, .access 0,
    .access 0] ++
    List.replicate 3 (.access 1)

theorem apart_mixed : Meets (step .can) Apart twoChannels mixed := by
  refine .cons rfl trivial (.cons rfl trivial (.cons rfl trivial (.cons rfl trivial (.cons rfl trivial
    (.cons rfl trivial (.cons rfl ?_ (.cons rfl trivial (.cons rfl ?_ (.cons rfl trivial (.cons rfl trivial
      (.cons rfl trivial (.cons rfl ?_ (.cons rfl trivial (.cons rfl trivial (.cons rfl ?_ trivial)))))))))))))))
  · exact ⟨fun _ _ => nofun, nofun, nofun⟩
  · refine ⟨fun m p => ?_, nofun, nofun⟩
    rcases m with _ | _ | m <;> nofun
  · exact ⟨id, fun _ => rfl⟩
  · exact ⟨id, nofun⟩

/-- The list has both entries. -/
theorem listed_mixed : ∃ t, run (step .can) twoChannels mixed = some t ∧ t.net.Pending [0, 1] := by
  obtain ⟨t, ht, hhandler, hadd, hwaiting⟩ : ∃ t, run (step .can) twoChannels mixed = some t ∧
    t.handler = .idle ∧
      (∀ c, t.add (.reply c) = .idle) ∧ t.waiting = [0, 1] := by
    refine ⟨_, rfl, rfl, fun c => ?_, rfl⟩
    rcases c with _ | _ | c <;> rfl
  refine ⟨t, ht, ?_⟩
  rw [← hwaiting]
  exact (listed_of_run .can start_twoChannels apart_mixed ht).pending hhandler hadd

/-- The entry of channel 1 is appended behind that of channel 0 while this is being deleted. -/
def crossed : List Event :=
  prepare 0 ++ List.replicate 5 (.access 0) ++ [.piece 0 .ok] ++ prepare 1 ++
    [.status GURU_STATUS_DONE] ++
    List.replicate 4 .handle ++ [.access 1] ++ [.handle] ++ [.access 1] ++
      List.replicate 3 .handle ++
      List.replicate 3 (.access 1) ++ [.piece 1 .ok]

/-- Channel 0 sends another frame, and a status arrives. -/
def later : List Event :=
  prepare 0 ++ List.replicate 5 (.access 0) ++ [.piece 0 .ok, .status GURU_STATUS_DONE]

/-- Neither channel is completed after that. -/
theorem deaf_crossed : ∃ s t, run (step .can) twoChannels crossed = some s ∧
    run (step .can) s later = some t ∧ t.completed = [0] ∧ t.appended = [0, 1, 0] := by
  obtain ⟨s, t, hs, ht, hdeaf, hpc, hadd, hcompleted, happended⟩ : ∃ s t,
    run (step .can) twoChannels crossed = some s ∧
      run (step .can) s later = some t ∧ Deaf s ∧ (∀ c, s.pc c = .idle) ∧
        (∀ c, s.add (.reply c) = .idle) ∧
      s.completed = [0] ∧ t.appended = [0, 1, 0] := by
    refine ⟨_, _, rfl, rfl, ⟨rfl, ⟨.reply 1, nofun, rfl⟩, fun c => ?_, rfl⟩, fun c => ?_,
      fun c => ?_, rfl, rfl⟩
    · rcases c with _ | _ | c <;> nofun
    · rcases c with _ | _ | c <;> rfl
    · rcases c with _ | _ | c <;> rfl
  exact ⟨s, t, hs, ht, (deaf_of_run .can hdeaf hpc hadd ht).1.trans hcompleted, happended⟩

end ReplyRace

end CanGuru
