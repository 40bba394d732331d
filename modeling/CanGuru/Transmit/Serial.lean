import CanGuru.Transmit.ReplyRace

/-!
# Calls that overlap are calls in a row

Most modules take a call of `ndo_start_xmit` and the dispatch of a send status as one step each,
while in truth the calls of several channels and the handler go on at the same time. This module
says when the first view is right.

## The model

The machine of `CanGuru.Transmit.ReplyRace`, in which calls and the handler are cut into loads and
stores, beside one in which `startXmit` and `sendCallback` are steps on the same channels.

## What is proved

`serial_of_run` — **every run in which the pieces that touch the same pointers stay apart is a run
of whole calls and whole handlers**, once nothing is in progress: it leaves every channel and the
list as that run does. Each channel has the same frames in the same order, and the handlers have
the same statuses in the same order, without those that found no entry. A call that sends its
frame takes the place at which it stored to the head, and a handler that at which its callback
runs.
-/

namespace CanGuru

open Machine MsgNet ListHead

namespace ReplyRace

/-- The steps of whole calls and handlers. -/
inductive Whole where
  /-- `ndo_start_xmit` of channel `c`. -/
  | xmit (c : ℕ) (skb : Skb) (o : XmitOutcome)
  /-- The handler of a send status. -/
  | status (status : UInt8)

/-- What a step does, where it can happen. -/
def serial (bus : Bus) (m : MsgNet) : Whole → Option MsgNet
  | .xmit c skb o =>
    match m.netdev c with
    | none => none
    | some d => if d.queueStopped then none else some (startXmit bus.send o c skb m).1
  | .status status => some (m.sendCallback status)

/-- The frame that channel `c` is called with. -/
def Event.frame (c : ℕ) : Event → Option Skb
  | .call c' skb => if c' = c then some skb else none
  | .piece _ _ | .access _ | .status _ | .handle => none

/-- The status that arrives. -/
def Event.answer : Event → Option UInt8
  | .status st => some st
  | .call _ _ | .piece _ _ | .access _ | .handle => none

/-- The frame that channel `c` is called with. -/
def Whole.frame (c : ℕ) : Whole → Option Skb
  | .xmit c' skb _ => if c' = c then some skb else none
  | .status _ => none

/-- The status that is handled. -/
def Whole.answer : Whole → Option UInt8
  | .xmit _ _ _ => none
  | .status st => some st

/-- The status the handler has in hand, before its callback. -/
def Handler.held : Handler → List UInt8
  | .found status | .taken _ status => [status]
  | _ => []

/-! ### One channel -/

/-- **A channel in the middle of a call**, beside the same channel where calls are whole: the
call stands at `p`, its `list_add_tail` at `a`, and it has `hand` in hand if it has not appended.
The channel is `x` here and `y` there. -/
def Beside (p : Pc) (a : TailPc ReplyNode) (x : Option NetDevice) (hand : Option Skb)
    (y : Option NetDevice) : Prop :=
  match p with
  | .idle => hand = none ∧ y = x
  | .stopped skb | .submitted skb =>
    hand = some skb ∧ skb.invalid = false ∧ ∃ d, y = some d ∧ d.queueStopped = false ∧
      x = some d.netifStopQueue
  | .echoed frameLen =>
    (¬ a.Lags → ∃ skb, frameLen = skb.frameLen ∧ hand = some skb ∧ skb.invalid = false ∧
      ∃ d, y = some d ∧ d.queueStopped = false ∧ d.echoSkb = none ∧
        x = some (d.netifStopQueue.putEcho skb)) ∧
    (a.Lags → hand = none ∧ y = x.map (.netdevSentQueue frameLen))
  | .linked frameLen => hand = none ∧ y = x.map (.netdevSentQueue frameLen)

/-- **A state and its past**, beside a state and its past where calls and handlers are whole. -/
structure Sim (s : St) (es : List Event) (m : MsgNet) (ws : List Whole) : Prop where
  /-- The list. -/
  inv : ∃ cs, Inv s cs
  /-- The list where calls are whole. -/
  pending : m.Pending s.waiting
  /-- The message layers have as many channels. -/
  ifaceCount : m.ifaceCount = s.net.ifaceCount
  /-- The channels, and the frames they were called with. -/
  chan : ∀ c, ∃ hand, Beside (s.pc c) (s.add (.reply c)) (s.net.netdev c) hand (m.netdev c) ∧
    es.filterMap (Event.frame c) = ws.filterMap (Whole.frame c) ++ hand.toList
  /-- The statuses. -/
  statuses : (ws.filterMap Whole.answer ++ s.handler.held).Sublist (es.filterMap Event.answer)
  /-- Each of them completed a frame. -/
  completed : (ws.filterMap Whole.answer).length = s.completed.length

theorem Start.sim {s : St} (h : Start s) : Sim s [] s.net [] where
  inv := ⟨[], h.inv⟩
  pending := by
    rw [h.inv.waiting]
    exact h.pending
  ifaceCount := rfl
  chan c := ⟨none, by rw [h.pc]; exact ⟨rfl, rfl⟩, rfl⟩
  statuses := by
    rw [h.handler]
    exact List.Sublist.refl _
  completed := by
    rw [h.lists.2]
    rfl

/-- A step of channel `c`. -/
structure Moves (c : ℕ) (s s' : St) : Prop where
  /-- The other channels are left alone. -/
  others : ∀ c' ≠ c, s'.pc c' = s.pc c' ∧ s'.add (.reply c') = s.add (.reply c') ∧
    s'.net.netdev c' = s.net.netdev c'
  /-- So is the handler. -/
  handler : s'.handler = s.handler ∧ s'.completed = s.completed
  /-- No channel comes or goes. -/
  ifaceCount : s'.net.ifaceCount = s.net.ifaceCount

section Steps

variable {bus : Bus} {s s' : St} {es : List Event} {m m' : MsgNet} {ws ws' : List Whole}
    {c : ℕ} {e : Event}

theorem Moves.pc (p : Pc) : Moves c s { s with pc := Function.update s.pc c p } where
  others _ hc := ⟨Function.update_of_ne hc .., rfl, rfl⟩
  handler := ⟨rfl, rfl⟩
  ifaceCount := rfl

theorem Moves.modify (p : Pc) (f : NetDevice → NetDevice) :
    Moves c s { s with net := s.net.modify c f, pc := Function.update s.pc c p } where
  others _ hc := ⟨Function.update_of_ne hc .., rfl, modify_of_ne hc ..⟩
  handler := ⟨rfl, rfl⟩
  ifaceCount := rfl

/-- An access of `list_add_tail`, after which the call stands as `p` says. -/
theorem Moves.access {p : ℕ → Pc} (hp : ∀ c' ≠ c, p c' = s.pc c') (l : Links ReplyNode)
    (a : TailPc ReplyNode) (appended : List ℕ) :
    Moves c s
      { s with
        net := { s.net with replies := l }
        pc := p
        add := Function.update s.add (.reply c) a
        appended := appended } where
  others c' hc := ⟨hp c' hc, Function.update_of_ne (by simpa using hc) .., rfl⟩
  handler := ⟨rfl, rfl⟩
  ifaceCount := rfl

/-- A step of channel `c`, beside whole calls of it. -/
theorem Sim.moves (h : Sim s es m ws) (hinv : ∃ cs, Inv s' cs) (hm : Moves c s s')
    (hframe : ∀ c' ≠ c, e.frame c' = none) (hanswer : e.answer = none)
    (hws : ∀ w ∈ ws', ∃ skb o, w = .xmit c skb o) (hothers : ∀ c' ≠ c, m'.netdev c' = m.netdev c')
    (hcount : m'.ifaceCount = m.ifaceCount) (hpending : m'.Pending s'.waiting)
    (hand hand' : Option Skb)
    (hframes : es.filterMap (Event.frame c) = ws.filterMap (Whole.frame c) ++ hand.toList)
    (hold : hand.toList ++ (e.frame c).toList = ws'.filterMap (Whole.frame c) ++ hand'.toList)
    (hbeside : Beside (s'.pc c) (s'.add (.reply c)) (s'.net.netdev c) hand' (m'.netdev c)) :
    Sim s' (es ++ [e]) m' (ws ++ ws') := by
  have hsingle : ∀ {β : Type} (f : Event → Option β), [e].filterMap f = (f e).toList := by
    intro β f
    rw [List.filterMap_cons, List.filterMap_nil]
    cases f e <;> rfl
  have hnone : ws'.filterMap Whole.answer = [] := List.filterMap_eq_nil_iff.mpr fun w hw => by
    obtain ⟨skb, o, rfl⟩ := hws w hw
    rfl
  refine ⟨hinv, hpending, hcount.trans (h.ifaceCount.trans hm.ifaceCount.symm),
    fun c' => ?_, ?_, ?_⟩
  · by_cases hc : c' = c
    · subst hc
      refine ⟨hand', hbeside, ?_⟩
      rw [List.filterMap_append, hsingle, hframes, List.append_assoc, hold, List.filterMap_append,
        List.append_assoc]
    · obtain ⟨hand₁, hb, hf⟩ := h.chan c'
      obtain ⟨hpc, hadd, hnet⟩ := hm.others c' hc
      refine ⟨hand₁, by rw [hpc, hadd, hnet, hothers c' hc]; exact hb, ?_⟩
      have hskip :
          ws'.filterMap (Whole.frame c') = [] := List.filterMap_eq_nil_iff.mpr fun w hw => by
        obtain ⟨skb, o, rfl⟩ := hws w hw
        exact if_neg (Ne.symm hc)
      rw [List.filterMap_append, hsingle, hframe c' hc, List.filterMap_append, hskip,
        List.append_nil, hf]
      exact List.append_nil _
  · rw [List.filterMap_append, hnone, List.append_nil, hm.handler.1, List.filterMap_append,
      hsingle, hanswer]
    simpa using h.statuses
  · rw [List.filterMap_append, hnone, List.append_nil, hm.handler.2]
    exact h.completed

/-- A step of channel `c` that is no whole call. -/
theorem Sim.stay (h : Sim s es m ws) (hinv : ∃ cs, Inv s' cs) (hm : Moves c s s')
    (hwaiting : s'.waiting = s.waiting) (hframe : ∀ c' ≠ c, e.frame c' = none)
    (hanswer : e.answer = none) {hand hand' : Option Skb}
    (hframes : es.filterMap (Event.frame c) = ws.filterMap (Whole.frame c) ++ hand.toList)
    (hold : hand.toList ++ (e.frame c).toList = hand'.toList)
    (hbeside : Beside (s'.pc c) (s'.add (.reply c)) (s'.net.netdev c) hand' (m.netdev c)) :
    ∃ ws' m', run (serial bus) m ws' = some m' ∧ Sim s' (es ++ [e]) m' (ws ++ ws') :=
  ⟨[], m, rfl,
    h.moves hinv hm hframe hanswer nofun (fun _ _ => rfl) rfl (hwaiting ▸ h.pending) hand hand'
    hframes hold hbeside⟩

/-- A step of channel `c` that is the whole call with its frame. -/
theorem Sim.whole (h : Sim s es m ws) (hinv : ∃ cs, Inv s' cs) (hm : Moves c s s') {d : NetDevice}
    (hd : m.netdev c = some d) (hq : d.queueStopped = false) (o : XmitOutcome) {skb : Skb}
    (hm' : (startXmit bus.send o c skb m).1 = m') (hothers : ∀ c' ≠ c, m'.netdev c' = m.netdev c')
    (hcount : m'.ifaceCount = m.ifaceCount) (hpending : m'.Pending s'.waiting)
    (hframe : ∀ c' ≠ c, e.frame c' = none) (hanswer : e.answer = none) {hand : Option Skb}
    (hframes : es.filterMap (Event.frame c) = ws.filterMap (Whole.frame c) ++ hand.toList)
    (hold : hand.toList ++ (e.frame c).toList = [skb])
    (hbeside : Beside (s'.pc c) (s'.add (.reply c)) (s'.net.netdev c) none (m'.netdev c)) :
    ∃ ws' m', run (serial bus) m ws' = some m' ∧ Sim s' (es ++ [e]) m' (ws ++ ws') := by
  refine ⟨[.xmit c skb o], m', by simp [run, serial, hd, hq, hm'], ?_⟩
  have hws : ∀ w ∈ [Whole.xmit c skb o], ∃ skb o, w = .xmit c skb o :=
    fun w hw => ⟨skb, o, List.mem_singleton.mp hw⟩
  refine h.moves hinv hm hframe hanswer hws hothers hcount hpending hand none hframes ?_ hbeside
  rw [hold]
  simp [Whole.frame]

/-- A call gives its frame up: it is a whole one. -/
theorem Sim.giveUp (h : Sim s es m ws) {f g : NetDevice → NetDevice} (hinv : ∃ cs, Inv s' cs)
    (hs' : s' = { s with net := s.net.modify c f, pc := Function.update s.pc c .idle })
    {d : NetDevice} (hd : m.netdev c = some d) (hq : d.queueStopped = false)
    (o : XmitOutcome) {skb : Skb} (hm' : (startXmit bus.send o c skb m).1 = m.modify c g)
    (hsame : (m.netdev c).map g = (s.net.netdev c).map f)
    (hframe : ∀ c' ≠ c, e.frame c' = none) (hanswer : e.answer = none) {hand : Option Skb}
    (hframes : es.filterMap (Event.frame c) = ws.filterMap (Whole.frame c) ++ hand.toList)
    (hold : hand.toList ++ (e.frame c).toList = [skb]) :
    ∃ ws' m', run (serial bus) m ws' = some m' ∧ Sim s' (es ++ [e]) m' (ws ++ ws') := by
  subst hs'
  refine h.whole hinv (.modify _ _) hd hq o hm' (fun c' hc => modify_of_ne hc ..)
    rfl (modify_pending.mpr h.pending)
    hframe hanswer hframes hold ?_
  show Beside (Function.update s.pc c .idle c) _ ((s.net.modify c _).netdev c)
    _ ((m.modify c _).netdev c)
  rw [Function.update_self, modify_self, modify_self]
  exact ⟨rfl, hsame⟩

/-- A call starts: an invalid buffer is a whole call. -/
theorem Sim.call (h : Sim s es m ws) {skb : Skb} (hs : step bus s (.call c skb) = some s') :
    ∃ ws' m', run (serial bus) m ws' = some m' ∧ Sim s' (es ++ [.call c skb]) m' (ws ++ ws') := by
  obtain ⟨cs, hi⟩ := h.inv
  have hinv : ∃ cs, Inv s' cs := ⟨cs, hi.call hs⟩
  obtain ⟨d, hpc, hd, hq, hs'⟩ := step_call hs
  obtain ⟨hand, hb, hframes⟩ := h.chan c
  rw [hpc] at hb
  obtain ⟨rfl, hy⟩ := hb
  have hdm : m.netdev c = some d := hy.trans hd
  have hframe : ∀ c' ≠ c, (Event.call c skb).frame c' = none := fun c' hc => if_neg hc.symm
  have hself : (Event.call c skb).frame c = some skb := if_pos rfl
  cases hinvalid : skb.invalid with
  | true =>
    have henter : xmitEnter c skb s.net = (.idle, s.net.modify c (.dropInvalidSkb skb)) := by
      simp [xmitEnter, hinvalid]
    rw [henter] at hs'
    refine h.giveUp hinv hs' hdm hq .ok ?_ (congrArg _ hy) hframe rfl hframes (by rw [hself]; rfl)
    rw [startXmit_invalid hdm .ok hinvalid]
  | false =>
    have henter : xmitEnter c skb s.net = (.stopped skb, s.net.modify c .netifStopQueue) := by
      simp [xmitEnter, hinvalid]
    rw [henter] at hs'
    subst hs'
    have hold : none.toList ++ ((Event.call c skb).frame c).toList = (some skb).toList := by
      rw [hself]; rfl
    refine h.stay hinv (.modify _ _) rfl hframe rfl hframes hold ?_
    show Beside (Function.update s.pc c (.stopped skb) c) _ ((s.net.modify c _).netdev c) (some skb)
      (m.netdev c)
    rw [Function.update_self, modify_self, hd]
    exact ⟨rfl, hinvalid, d, hdm, hq, rfl⟩

/-- A piece of a call that is not in `list_add_tail`: a call that gives its frame up is a whole
one. -/
theorem Sim.piece (h : Sim s es m ws) {o : XmitOutcome} (hs : step bus s (.piece c o) = some s') :
    ∃ ws' m', run (serial bus) m ws' = some m' ∧ Sim s' (es ++ [.piece c o]) m' (ws ++ ws') := by
  obtain ⟨cs, hi⟩ := h.inv
  have hinv : ∃ cs, Inv s' cs := ⟨cs, hi.piece hs⟩
  obtain ⟨hidle, hechoed, hs'⟩ := step_piece hs
  obtain ⟨hand, hb, hframes⟩ := h.chan c
  have hframe : ∀ c' ≠ c, (Event.piece c o).frame c' = none := fun _ _ => rfl
  have hand_self : hand.toList ++ ((Event.piece c o).frame c).toList = hand.toList := List.append_nil _
  cases hpc : s.pc c with
  | idle => exact absurd hpc hidle
  | echoed frameLen => exact absurd hpc (hechoed frameLen)
  | stopped skb =>
    rw [hpc] at hb hs'
    obtain ⟨rfl, hvalid, d, hdm, hq, hx⟩ := hb
    by_cases herr : o.send.err = 0
    · obtain ⟨msg, hphase⟩ := @xmitPhase_stopped_ok bus s.net c _ hx o herr skb
      rw [hphase] at hs'
      subst hs'
      refine h.stay hinv (.pc _) rfl hframe rfl hframes hand_self ?_
      show Beside (Function.update s.pc c (.submitted skb) c) _ (s.net.netdev c) _ (m.netdev c)
      rw [Function.update_self]
      exact ⟨rfl, hvalid, d, hdm, hq, hx⟩
    · rw [@xmitPhase_stopped_err bus s.net c _ hx o herr skb] at hs'
      refine h.giveUp hinv hs' hdm hq o ?_ (by rw [hdm, hx]; rfl) hframe rfl hframes hand_self
      rw [startXmit_err hdm herr hvalid]
  | submitted skb =>
    rw [hpc] at hb hs'
    obtain ⟨rfl, hvalid, d, hdm, hq, hx⟩ := hb
    by_cases hroom : o.oom = false ∧ d.echoSkb = none
    · obtain ⟨hoom, he⟩ := hroom
      rw [@xmitPhase_submitted_ok bus s.net c _ hx o hoom he skb] at hs'
      subst hs'
      refine h.stay hinv (.modify _ _) rfl hframe rfl hframes hand_self ?_
      show Beside (Function.update s.pc c (.echoed skb.frameLen) c) _ ((s.net.modify c _).netdev c)
        _ (m.netdev c)
      rw [Function.update_self, modify_self, hx]
      have hadd : s.add (.reply c) = .idle := hi.notAdding (by rw [hpc]; nofun)
      exact ⟨fun _ => ⟨skb, rfl, rfl, hvalid, d, hdm, hq, he, rfl⟩,
        fun hlags => absurd hlags (by rw [hadd]; exact id)⟩
    · have hno : o.oom = true ∨ d.echoSkb ≠ none := by
        by_cases hoom : o.oom = true
        · exact .inl hoom
        · exact .inr fun he => hroom ⟨Bool.eq_false_of_not_eq_true hoom, he⟩
      rw [xmitPhase_refused hx hno skb] at hs'
      obtain ⟨msg, hwhole⟩ := @startXmit_refused bus m c d hdm ⟨.ok, o.oom⟩ rfl hno skb hvalid
      refine h.giveUp hinv hs' hdm hq ⟨.ok, o.oom⟩ ?_ (by rw [hdm, hx]; rfl) hframe rfl hframes hand_self
      rw [hwhole]
  | linked frameLen =>
    rw [hpc] at hb hs'
    obtain ⟨rfl, hy⟩ := hb
    cases hx : s.net.netdev c with
    | none =>
      have hphase :
          xmitPhase bus.send o c (.linked frameLen) s.net = (.linked frameLen, s.net, []) := by
        rw [xmitPhase, hx]
      rw [hphase] at hs'
      subst hs'
      refine h.stay hinv (.pc _) rfl hframe rfl hframes hand_self ?_
      show Beside (Function.update s.pc c (.linked frameLen) c) _ (s.net.netdev c) _ (m.netdev c)
      rw [Function.update_self]
      exact ⟨rfl, hy⟩
    | some d =>
      rw [@xmitPhase_linked bus s.net c d hx] at hs'
      subst hs'
      refine h.stay hinv (.modify _ _) rfl hframe rfl hframes hand_self ?_
      show Beside (Function.update s.pc c .idle c) _ ((s.net.modify c _).netdev c) _ (m.netdev c)
      rw [Function.update_self, modify_self]
      exact ⟨rfl, hy⟩

/-- **An access of `list_add_tail`**: the store to the head is a whole call. -/
theorem Sim.access (h : Sim s es m ws) (hap : Apart s (.access c))
    (hs : step bus s (.access c) = some s') :
    ∃ ws' m', run (serial bus) m ws' = some m' ∧ Sim s' (es ++ [.access c]) m' (ws ++ ws') := by
  obtain ⟨cs, hi⟩ := h.inv
  have hinv : ∃ cs, Inv s' cs := hi.access hap hs
  have hsound : s'.net.replies.oops = false := hinv.choose_spec.racing.sound
  obtain ⟨frameLen, hpc, hs'⟩ := step_access hs
  obtain ⟨hand, hb, hframes⟩ := h.chan c
  rw [hpc] at hb
  obtain ⟨hearly, hlate⟩ := hb
  have hframe : ∀ c' ≠ c, (Event.access c).frame c' = none := fun _ _ => rfl
  have hand_self : hand.toList ++ ((Event.access c).frame c).toList = hand.toList :=
    List.append_nil _
  -- an access that does not append, after which the call stands as `p` says
  have hquiet {a : TailPc ReplyNode} {l : Links ReplyNode} {p : ℕ → Pc}
      (hs' : s' = { s with net := { s.net with replies := l }, pc := p, add := Function.update s.add (.reply c) a })
      (hp : ∀ c' ≠ c,
        p c' = s.pc c') (hbeside : Beside (p c) a (s.net.netdev c) hand (m.netdev c)) :
      ∃ ws' m', run (serial bus) m ws' = some m' ∧ Sim s' (es ++ [.access c]) m' (ws ++ ws') := by
    subst hs'
    refine h.stay hinv (.access hp l a s.appended) rfl hframe rfl hframes hand_self ?_
    show Beside (p c) (Function.update s.add (.reply c) a (.reply c)) _ _ _
    rw [Function.update_self]
    exact hbeside
  cases hadd : s.add (.reply c) <;> rw [hadd] at hearly hlate hs'
  case idle =>
    cases hprev : s.net.replies.prev .listHead with
    | none =>
      have htail : tailNext .listHead (.reply c) s.net.replies .idle =
          (.idle, { s.net.replies with oops := true }) := by simp [tailNext, hprev]
      rw [hs', htail] at hsound
      cases hsound
    | some q =>
      have htail :
          tailNext .listHead (.reply c) s.net.replies .idle = (.loaded q, s.net.replies) := by
        simp [tailNext, hprev]
      rw [htail] at hs'
      refine hquiet hs' (fun _ _ => rfl) ?_
      rw [if_neg (fun h => by cases h), hpc]
      exact ⟨fun _ => hearly id, False.elim⟩
  case loaded q =>
    obtain ⟨skb, rfl, rfl, hvalid, d, hdm, hq, he, hx⟩ := hearly id
    obtain ⟨msg, hwhole⟩ := @startXmit_ok bus m c d hdm .ok rfl rfl he skb hvalid
    have hnot : c ∉ s.waiting := by
      have hmem := hi.racing.not_mem hadd
      rw [hi.waiting]
      exact fun hc =>
        hmem (List.mem_cons_of_mem _ (List.mem_map_of_mem (List.mem_append_right _ hc)))
    have hwaiting : s'.waiting = s.waiting ++ [c] := by
      rw [hs', hi.waiting]
      show (s.appended ++ [c]).drop s.completed.length = cs ++ [c]
      rw [hi.account, List.append_assoc, List.drop_left]
    have hpending : ((m.modify c .netifStopQueue).registered c skb).Pending s'.waiting := by
      rw [hwaiting]
      exact Pending.registered (modify_pending.mpr h.pending) hnot skb
    subst hs'
    refine h.whole hinv (.access (fun _ _ => rfl) _ _ _) hdm hq .ok (by rw [hwhole])
      (fun c' hc => (registered_of_ne hc ..).trans (modify_of_ne hc ..)) rfl hpending hframe
        rfl hframes hand_self ?_
    show Beside (s.pc c) (Function.update s.add (.reply c) (.headPrev q) (.reply c))
      (s.net.netdev c) _ _
    rw [Function.update_self, hpc, registered_self, modify_self, hdm, hx]
    exact ⟨fun hno => absurd trivial hno, fun _ => ⟨rfl, rfl⟩⟩
  case headPrev q =>
    refine hquiet hs' (fun _ _ => rfl) ?_
    rw [tailNext, if_neg (fun h => by cases h), hpc]
    exact ⟨fun hno => absurd trivial hno, fun _ => hlate trivial⟩
  case nodeNext q =>
    refine hquiet hs' (fun _ _ => rfl) ?_
    rw [tailNext, if_neg (fun h => by cases h), hpc]
    exact ⟨fun hno => absurd trivial hno, fun _ => hlate trivial⟩
  case nodePrev q =>
    refine hquiet hs' (fun c' hc => ?_) ?_
    · rw [tailNext, if_pos rfl]
      exact Function.update_of_ne hc ..
    · rw [tailNext, if_pos rfl, Function.update_self]
      exact hlate trivial

theorem Sim.status (h : Sim s es m ws) {status : UInt8}
    (hs : step bus s (.status status) = some s') : Sim s' (es ++ [.status status]) m ws := by
  obtain ⟨cs, hi⟩ := h.inv
  have hinv : ∃ cs, Inv s' cs := ⟨cs, hi.status hs⟩
  have hframes (c : ℕ) : (es ++ [Event.status status]).filterMap (Event.frame c) =
      es.filterMap (Event.frame c) := by
    rw [List.filterMap_append]
    exact List.append_nil _
  have hanswers : (es ++ [Event.status status]).filterMap Event.answer =
      es.filterMap Event.answer ++ [status] :=
    List.filterMap_append
  rw [step] at hs
  split at hs
  case h_2 => cases hs
  case h_1 hidle =>
    have hbefore := h.statuses
    rw [hidle] at hbefore
    have hbefore : (ws.filterMap Whole.answer).Sublist (es.filterMap Event.answer) := by
      simpa [Handler.held] using hbefore
    have hs' := (Option.some.inj hs).symm
    split at hs'
    case isTrue =>
      subst hs'
      refine ⟨hinv, h.pending, h.ifaceCount, fun c => ?_, ?_, h.completed⟩
      · rw [hframes]
        exact h.chan c
      · rw [hanswers, hidle]
        simpa [Handler.held] using hbefore.trans (List.sublist_append_left ..)
    case isFalse =>
      subst hs'
      refine ⟨hinv, h.pending, h.ifaceCount, fun c => ?_, ?_, h.completed⟩
      · rw [hframes]
        exact h.chan c
      · rw [hanswers]
        exact hbefore.append (List.Sublist.refl _)

theorem held_ofDel (d : DelPc ReplyNode) : (Handler.ofDel d).held = [] := by
  cases d <;> rfl

/-- The byte queue and a status do not get into each other's way. -/
theorem netSendCallback_netdevSentQueue (status : UInt8) (bytes : ℕ) (d : NetDevice) :
    netSendCallback status (d.netdevSentQueue bytes) =
      (netSendCallback status d).netdevSentQueue bytes := by
  cases he : d.echoSkb <;>
    simp [netSendCallback, NetDevice.canGetEchoSkb, NetDevice.netdevSentQueue, he] <;> rfl

/-- A channel that waits has no frame in hand, and is completed here as it is there. -/
theorem Beside.complete {p : Pc} {a : TailPc ReplyNode} {x y : Option NetDevice} {hand : Option Skb}
    (h : Beside p a x hand y) (hp : Sending p → a ≠ .idle) (ha : a = .idle) (status : UInt8) :
    Beside p a (x.map (netSendCallback status)) hand (y.map (netSendCallback status)) := by
  cases p with
  | idle =>
    obtain ⟨rfl, rfl⟩ := h
    exact ⟨rfl, rfl⟩
  | stopped skb => exact absurd ha (hp trivial)
  | submitted skb => exact absurd ha (hp trivial)
  | echoed frameLen => exact absurd ha (hp trivial)
  | linked frameLen =>
    obtain ⟨rfl, rfl⟩ := h
    refine ⟨rfl, ?_⟩
    rw [Option.map_map, Option.map_map]
    exact congrArg (fun f => x.map f) (funext fun d => netSendCallback_netdevSentQueue status frameLen d)

/-- **A piece of the handler**: its callback is a whole handler. -/
theorem Sim.handle (h : Sim s es m ws) (hap : Apart s .handle) (hs : step bus s .handle = some s') :
    ∃ ws' m', run (serial bus) m ws' = some m' ∧ Sim s' (es ++ [.handle]) m' (ws ++ ws') := by
  obtain ⟨cs, hi⟩ := h.inv
  have hinv : ∃ cs, Inv s' cs := hi.handle hap hs
  have hframes (c : ℕ) : (es ++ [Event.handle]).filterMap (Event.frame c) =
      es.filterMap (Event.frame c) := by
    rw [List.filterMap_append]
    exact List.append_nil _
  have hanswers : (es ++ [Event.handle]).filterMap Event.answer = es.filterMap Event.answer := by
    rw [List.filterMap_append]
    exact List.append_nil _
  -- a piece that does nothing to the channels
  have hquiet {l : Links ReplyNode} {handler : Handler}
      (hs' : s' = { s with net := { s.net with replies := l }, handler := handler })
      (hheld : handler.held = s.handler.held) :
      ∃ ws' m', run (serial bus) m ws' = some m' ∧ Sim s' (es ++ [.handle]) m' (ws ++ ws') := by
    subst hs'
    refine ⟨[], m, rfl, ?_⟩
    rw [List.append_nil]
    refine ⟨hinv, h.pending, h.ifaceCount, fun c => ?_, ?_, h.completed⟩
    · rw [hframes]
      exact h.chan c
    · rw [hanswers]
      show (ws.filterMap Whole.answer ++ handler.held).Sublist _
      rw [hheld]
      exact h.statuses
  rw [step] at hs
  split at hs
  case h_1 => cases hs
  case h_2 status hf =>
    split at hs
    case h_1 c hc => exact hquiet (Option.some.inj hs).symm (by rw [hf]; rfl)
    case h_2 =>
      have hsound : s'.net.replies.oops = false := hinv.choose_spec.racing.sound
      rw [← Option.some.inj hs] at hsound
      cases hsound
  case h_3 c status ht =>
    have hs' := (Option.some.inj hs).symm
    obtain ⟨rest, hcs, hadd⟩ := hi.taken c status ht
    have hwaiting : s.waiting = c :: rest := hi.waiting.trans hcs
    have hpending : m.Pending (c :: rest) := hwaiting ▸ h.pending
    have hwhole := hpending.sendCallback_cons status
    refine ⟨[.status status], (m.modify c (netSendCallback status)).delReply c, ?_, ?_⟩
    · rw [← hwhole]
      rfl
    have hbefore := h.statuses
    rw [ht] at hbefore
    have hrest : s'.waiting = rest := by
      rw [hs']
      show s.appended.drop (s.completed ++ [c]).length = rest
      rw [hi.account, hcs, List.append_cons s.completed c rest, List.drop_left]
    subst hs'
    refine ⟨hinv, ?_, h.ifaceCount, fun c' => ?_, ?_, ?_⟩
    · rw [hrest]
      exact Pending.delReply (modify_pending.mpr hpending)
    · obtain ⟨hand, hb, hf⟩ := h.chan c'
      refine ⟨hand, ?_, ?_⟩
      · show Beside (s.pc c') (s.add (.reply c')) ((s.net.modify c _).netdev c')
          _ ((m.modify c _).netdev c')
        by_cases hc : c' = c
        · subst hc
          rw [modify_self, modify_self]
          exact hb.complete (fun hsend hidle => hi.fresh c' hsend hidle (hcs ▸ List.mem_cons_self)) hadd status
        · rw [modify_of_ne hc, modify_of_ne hc]
          exact hb
      · rw [hframes, hf, List.filterMap_append]
        exact congrArg (· ++ hand.toList) (List.append_nil _).symm
    · rw [hanswers, List.filterMap_append]
      simpa [Handler.held, Whole.answer] using hbefore
    · show _ = (s.completed ++ [c]).length
      rw [List.filterMap_append, List.length_append, List.length_append, h.completed]
      rfl
  case h_4 d hd =>
    refine hquiet (Option.some.inj hs).symm ?_
    rw [hd, held_ofDel]
    rfl

/-- **One step** in which the pieces stay apart is a run of whole calls and handlers. -/
theorem sim_step (h : Sim s es m ws) (hap : Apart s e) (hs : step bus s e = some s') :
    ∃ ws' m', run (serial bus) m ws' = some m' ∧ Sim s' (es ++ [e]) m' (ws ++ ws') := by
  cases e with
  | call c skb => exact h.call hs
  | piece c o => exact h.piece hs
  | access c => exact h.access hap hs
  | status status => exact ⟨[], m, rfl, by rw [List.append_nil]; exact h.status hs⟩
  | handle => exact h.handle hap hs

/-- When nothing is in progress the two states are the same. -/
theorem Sim.atRest (h : Sim s es m ws) (hpc : ∀ c, s.pc c = .idle) (hidle : s.handler = .idle) :
    s.net = m := by
  obtain ⟨cs, hi⟩ := h.inv
  have hadd (c : ℕ) : s.add (.reply c) = .idle := hi.notAdding (by rw [hpc]; nofun)
  have hreplies : s.net.replies = m.replies := (hi.listed.pending hidle hadd).unique h.pending
  have hnetdev : s.net.netdev = m.netdev := funext fun c => by
    obtain ⟨hand, hb, -⟩ := h.chan c
    rw [hpc] at hb
    exact hb.2.symm
  show (⟨s.net.ifaceCount, s.net.netdev, s.net.replies⟩ : MsgNet) =
    ⟨m.ifaceCount, m.netdev, m.replies⟩
  rw [h.ifaceCount, hnetdev, hreplies]

end Steps

/-- **A run in which the pieces stay apart is a run of whole calls and handlers.** -/
theorem serial_of_run (bus : Bus) {s t : St} {es : List Event} (hs : Start s)
    (hap : Meets (step bus) Apart s es) (hr : run (step bus) s es = some t)
    (hpc : ∀ c, t.pc c = .idle) (hidle : t.handler = .idle) :
    ∃ ws, run (serial bus) s.net ws = some t.net ∧
      (∀ c, ws.filterMap (Whole.frame c) = es.filterMap (Event.frame c)) ∧
      (ws.filterMap Whole.answer).Sublist (es.filterMap Event.answer) ∧
      (ws.filterMap Whole.answer).length = t.completed.length := by
  obtain ⟨ws, m, hm, h⟩ := sim_of_run (fun _ _ _ _ _ _ h hap hs => sim_step h hap hs) hs.sim hap hr
  rw [List.nil_append, List.nil_append] at h
  refine ⟨ws, ?_, fun c => ?_, ?_, h.completed⟩
  · rw [h.atRest hpc hidle]
    exact hm
  · obtain ⟨hand, hb, hf⟩ := h.chan c
    rw [hpc] at hb
    obtain ⟨rfl, -⟩ := hb
    rw [hf]
    exact (List.append_nil _).symm
  · exact (List.sublist_append_left ..).trans h.statuses

/-- Both calls return, and a status is handled. -/
def returned : List Event :=
  [.piece 0 .ok, .piece 1 .ok, .status GURU_STATUS_DONE] ++ List.replicate 8 .handle

/-- Calls of two channels that overlap are two calls in a row. -/
theorem serial_mixed : ∃ t, run (step .can) twoChannels (mixed ++ returned) = some t ∧
    t.completed = [0] ∧ ∃ ws, run (serial .can) twoChannels.net ws = some t.net ∧
      ∀ c, ws.filterMap (Whole.frame c) = (mixed ++ returned).filterMap (Event.frame c) := by
  obtain ⟨t, ht, hpc, hhandler, hcompleted⟩ : ∃ t,
    run (step .can) twoChannels (mixed ++ returned) = some t ∧
      (∀ c, t.pc c = .idle) ∧ t.handler = .idle ∧ t.completed = [0] := by
    refine ⟨_, rfl, fun c => ?_, rfl, rfl⟩
    rcases c with _ | _ | c <;> rfl
  have hapart : Meets (step .can) Apart twoChannels (mixed ++ returned) := by
    refine apart_mixed.append rfl (.cons rfl trivial (.cons rfl trivial (.cons rfl trivial (.cons rfl trivial
      (.cons rfl trivial (.cons rfl ?_ (.cons rfl trivial (.cons rfl trivial (.cons rfl trivial (.cons rfl trivial
        (.cons rfl trivial trivial)))))))))))
    intro m
    rcases m with _ | _ | _ | m <;> nofun
  obtain ⟨ws, hws, hframes, -⟩ := serial_of_run .can start_twoChannels hapart ht hpc hhandler
  exact ⟨t, ht, hcompleted, ws, hws, hframes⟩

end ReplyRace

end CanGuru
