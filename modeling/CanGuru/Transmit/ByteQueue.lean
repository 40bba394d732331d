import CanGuru.Lib.Machine
import CanGuru.Driver
import CanGuru.Channel

/-!
# The byte queue

`ndo_start_xmit` tells the byte queue of a channel how many bytes it sent, and the
handling of the send status how many are completed, which the kernel requires to be
sent before. The call tells it last, when the reply entry is in the list already, and
`ndo_stop` frees the echo that knows the length of a frame on the wire.

## The model

One channel of a message layer. A call of `ndo_start_xmit` is cut into its pieces, and
every call of the kernel in it succeeds; `ndo_open` and `ndo_stop` are one step each,
and so is the handling of a status, which may be that of any frame whose entry was
appended. The network core stops a channel only when no call is in progress.

## What is proved

`accounted_of_run` — in every run in which a status is handled after its call has told
the byte queue, and before the channel is stopped, what is completed is what was sent.
-/

namespace CanGuru

open Machine MsgNet ListHead

namespace ByteQueue

/-- A channel, with the calls of `ndo_start_xmit` that sent a frame numbered from `0`. -/
structure St where
  /-- Its message layer. -/
  net : MsgNet
  /-- Where the call of `ndo_start_xmit` stands. -/
  pc : Pc
  /-- The calls that are over. -/
  count : ℕ
  /-- Those that were over when the channel was stopped last. -/
  closedAt : ℕ
  /-- The frames whose entry was appended and whose status is not handled, with their
  lengths. -/
  owed : List (ℕ × ℕ)
  /-- The calls of `netdev_sent_queue`, each with its frame. -/
  sent : List (ℕ × ℕ)
  /-- The calls of `netdev_completed_queue`, each with the frame of the status. -/
  completed : List (ℕ × Option ℕ)

/-- The steps. -/
inductive Event where
  /-- `ndo_open`. -/
  | opened (openErr : ℤ) (conf o : SendOutcome)
  /-- `ndo_stop`. -/
  | stop (o : SendOutcome)
  /-- `ndo_start_xmit` is called. -/
  | call (skb : Skb)
  /-- The call goes on with its next piece. -/
  | piece
  /-- The status of frame `k` of those that are owed one is handled. -/
  | answer (k : ℕ) (status : UInt8)

/-- What was told to `netdev_sent_queue`. -/
def sentLog (c : ℕ) (m : MsgNet) : List ℕ := ((m.netdev c).map NetDevice.sentQueue).getD []

/-- What was told to `netdev_completed_queue`. -/
def completedLog (c : ℕ) (m : MsgNet) : List (Option ℕ) :=
  ((m.netdev c).map NetDevice.completedQueue).getD []

/-- The new entries of a log, with frame `k`. -/
def tagged {α : Type} (k : ℕ) (old new : List α) : List (ℕ × α) :=
  (new.drop old.length).map fun a => (k, a)

/-- What a step does, where it can happen. -/
def step (bus : Bus) (c : ℕ) (s : St) : Event → Option St
  | .opened openErr conf o =>
    match s.net.netdev c with
    | none => none
    | some d =>
      if d.up then none
      else
        let (err, d, _) := bus.opsOpen openErr conf o d
        some { s with net := s.net.modify c fun _ => { d with up := err = 0 } }
  | .stop o =>
    match s.net.netdev c with
    | none => none
    | some d =>
      if s.pc ≠ .idle ∨ d.up = false then none
      else
        some
          { s with
            net := s.net.modify c fun d => { (bus.opsClose o d).1 with up := false }
            closedAt := s.count }
  | .call skb =>
    match s.net.netdev c with
    | none => none
    | some d =>
      if s.pc ≠ .idle ∨ d.up = false ∨ d.queueStopped = true then none
      else
        let (pc, net) := xmitEnter c skb s.net
        some { s with pc := pc, net := net }
  | .piece =>
    let (pc, net, _) := xmitPhase bus.send .ok c s.pc s.net
    let s' := { s with pc := pc, net := net, sent := s.sent ++ tagged s.count (sentLog c s.net) (sentLog c net) }
    match s.pc with
    | .idle => none
    | .echoed frameLen => some { s' with owed := s.owed ++ [(s.count, frameLen)] }
    | .linked _ => some { s' with count := s.count + 1 }
    | _ => some s'
  | .answer k status =>
    match s.owed[k]? with
    | none => none
    | some tx =>
      let net := s.net.sendCallback status
      some
        { s with
          net := net
          owed := s.owed.eraseIdx k
          completed := s.completed ++ tagged tx.1 (completedLog c s.net) (completedLog c net) }

/-- A channel that was never open. -/
structure Start (c : ℕ) (s : St) : Prop where
  /-- No reply is pending. -/
  pending : s.net.Pending []
  /-- It is down, and has no echo. -/
  device : ∃ d, s.net.netdev c = some d ∧ d.up = false ∧ d.echoSkb = none
  /-- No call is in progress. -/
  pc : s.pc = .idle
  /-- No status is owed. -/
  owed : s.owed = []
  /-- No call is over. -/
  closedAt : s.closedAt = s.count
  /-- The byte queue was told nothing. -/
  logs : s.sent = [] ∧ sentLog c s.net = [] ∧ s.completed = [] ∧ completedLog c s.net = []

/-- The bytes sent. -/
def sentBytes (c : ℕ) (s : St) : ℕ := (sentLog c s.net).sum

/-- The bytes completed. -/
def completedBytes (c : ℕ) (s : St) : ℕ :=
  ((completedLog c s.net).map fun bytes => bytes.getD 0).sum

/-- **What is completed was sent.** The frame that a completion is said of is that of the status,
by the number of its message. As long as every status is handled in time it is also the one in
the echo slot. -/
structure Accounted (c : ℕ) (s : St) : Prop where
  /-- For every frame, the bytes completed were reported as sent. -/
  each : ∀ k bytes, (k, bytes) ∈ s.completed → ∃ n, bytes = some n ∧ (k, n) ∈ s.sent
  /-- In total, not more bytes are completed than were sent. -/
  le : completedBytes c s ≤ sentBytes c s
  /-- They are all the bytes when no frame is outstanding. -/
  eq : s.owed = [] → s.pc = .idle → completedBytes c s = sentBytes c s

/-- A status is handled after its call told the byte queue, and in the session of its
frame. -/
def InTime (s : St) : Event → Prop
  | .answer k _ => (∀ frameLen, s.pc ≠ .linked frameLen) ∧ ∀ tx, s.owed[k]? = some tx →
    s.closedAt ≤ tx.1
  | _ => True

/-! ### The invariant -/

/-- The frames that the byte queue was told of and whose status is not handled. -/
def St.reported (s : St) : List (ℕ × ℕ) :=
  match s.pc with
  | .linked _ => s.owed.dropLast
  | _ => s.owed

/-- Frames of earlier sessions. -/
def Earlier (s : St) (txs : List (ℕ × ℕ)) : Prop := ∀ tx ∈ txs, tx.1 < s.closedAt

/-- Where the channel stands. -/
inductive Phase (c : ℕ) (s : St) (d : NetDevice) : Prop where
  /-- No frame is on the way, and no call is in progress. -/
  | free (pc : s.pc = .idle) (echoSkb : d.echoSkb = none) (owed : Earlier s s.owed)
  /-- A call has not put its echo yet. -/
  | begun (skb : Skb) (pc : s.pc = .stopped skb ∨ s.pc = .submitted skb) (up : d.up = true)
    (stopped : d.queueStopped = true) (echoSkb : d.echoSkb = none) (owed : Earlier s s.owed)
  /-- A call has put its echo. -/
  | echoed (skb : Skb) (pc : s.pc = .echoed skb.frameLen) (up : d.up = true)
    (stopped : d.queueStopped = true)
    (echoSkb : d.echoSkb = some skb) (owed : Earlier s s.owed)
  /-- A call has appended its entry. -/
  | linked (skb : Skb) (earlier : List (ℕ × ℕ)) (pc : s.pc = .linked skb.frameLen)
    (up : d.up = true)
    (stopped : d.queueStopped = true) (echoSkb : d.echoSkb = some skb)
      (first : s.net.firstReply = some c)
    (owed : s.owed = earlier ++ [(s.count, skb.frameLen)]) (old : Earlier s earlier)
  /-- The call is over, and the frame waits for its status. -/
  | waiting (skb : Skb) (k : ℕ) (earlier : List (ℕ × ℕ)) (pc : s.pc = .idle) (up : d.up = true)
    (stopped : d.queueStopped = true) (echoSkb : d.echoSkb = some skb)
      (first : s.net.firstReply = some c)
    (owed : s.owed = earlier ++ [(k, skb.frameLen)]) (old : Earlier s earlier) (le : k < s.count)

/-- The invariant. -/
structure Inv (c : ℕ) (s : St) : Prop where
  /-- At most the entry of the channel is in the list. -/
  solo : Solo s.net.replies .listHead (.reply c)
  /-- The channel is somewhere. -/
  device : ∃ d, s.net.netdev c = some d ∧ Phase c s d
  /-- The calls of earlier sessions are over. -/
  closedAt : s.closedAt ≤ s.count
  /-- The calls of `netdev_sent_queue`. -/
  sent : s.sent.map Prod.snd = sentLog c s.net
  /-- The calls of `netdev_completed_queue`. -/
  completed : s.completed.map Prod.snd = completedLog c s.net
  /-- What was sent is completed, or its status is not handled. -/
  ledger : ∃ done : List (ℕ × ℕ), s.completed = done.map (fun tx => (tx.1, some tx.2)) ∧
    s.sent.Perm (done ++ s.reported)

theorem Start.inv {c : ℕ} {s : St} (h : Start c s) : Inv c s := by
  obtain ⟨hsent, hsentLog, hcompleted, hcompletedLog⟩ := h.logs
  obtain ⟨d, hd, -, he⟩ := h.device
  refine ⟨h.pending.solo (by simp), ⟨d, hd, .free h.pc he ?_⟩, h.closedAt.le, ?_, ?_, [],
    hcompleted, ?_⟩
  · simp [Earlier, h.owed]
  · rw [hsent, hsentLog]; rfl
  · rw [hcompleted, hcompletedLog]; rfl
  · simp [hsent, St.reported, h.pc, h.owed]

/-- **The invariant gives the property.** -/
theorem Inv.accounted {c : ℕ} {s : St} (h : Inv c s) : Accounted c s := by
  obtain ⟨done, hdone, hperm⟩ := h.ledger
  have hsent : sentBytes c s = (done.map Prod.snd).sum + (s.reported.map Prod.snd).sum := by
    rw [sentBytes, ← h.sent, (hperm.map Prod.snd).sum_eq, List.map_append, List.sum_append]
  have hcompleted : completedBytes c s = (done.map Prod.snd).sum := by
    rw [completedBytes, ← h.completed, hdone, List.map_map, List.map_map]
    rfl
  constructor
  case each =>
    intro k bytes hmem
    rw [hdone] at hmem
    obtain ⟨tx, htx, he⟩ := List.mem_map.mp hmem
    obtain ⟨rfl, rfl⟩ := Prod.mk.inj he
    exact ⟨tx.2, rfl, hperm.mem_iff.mpr (List.mem_append_left _ htx)⟩
  case le => omega
  case eq =>
    intro howed hpc
    have hreported : s.reported = [] := by rw [St.reported, hpc, howed]
    rw [hsent, hcompleted, hreported]
    simp

/-! ### The steps -/

theorem tagged_self {α : Type} (k : ℕ) (l : List α) : tagged k l l = [] := by simp [tagged]

theorem tagged_append {α : Type} (k : ℕ) (l : List α) (a : α) :
    tagged k l (l ++ [a]) = [(k, a)] := by simp [tagged]

theorem sentLog_eq {c : ℕ} {m : MsgNet} {d : NetDevice} (hd : m.netdev c = some d) :
    sentLog c m = d.sentQueue := by
  rw [sentLog, hd]
  rfl

theorem completedLog_eq {c : ℕ} {m : MsgNet} {d : NetDevice} (hd : m.netdev c = some d) :
    completedLog c m = d.completedQueue := by
  rw [completedLog, hd]
  rfl

section Steps

variable {bus : Bus} {c : ℕ} {s s' : St}

/-- A step that tells the byte queue nothing keeps the invariant if the channel is
somewhere after it. -/
theorem Inv.quiet (h : Inv c s) {d : NetDevice} (hd : s.net.netdev c = some d) (d' : NetDevice)
    (hd' : s'.net.netdev c = some d')
    (hqueues : d'.sentQueue = d.sentQueue ∧ d'.completedQueue = d.completedQueue)
    (hsent : s'.sent = s.sent) (hcompleted : s'.completed = s.completed)
    (hreported : s'.reported = s.reported) (hsolo : Solo s'.net.replies .listHead (.reply c))
    (hle : s'.closedAt ≤ s'.count) (hphase : Phase c s' d') : Inv c s' where
  solo := hsolo
  device := ⟨d', hd', hphase⟩
  closedAt := hle
  sent := by rw [hsent, h.sent, sentLog_eq hd, sentLog_eq hd', hqueues.1]
  completed := by rw [hcompleted, h.completed, completedLog_eq hd, completedLog_eq hd', hqueues.2]
  ledger := by
    obtain ⟨done, hdone, hperm⟩ := h.ledger
    exact ⟨done, hcompleted.trans hdone, by rw [hsent, hreported]; exact hperm⟩

/-- An open tells the byte queue nothing and keeps the echo. -/
theorem opsOpen_queues (openErr : ℤ) (conf o : SendOutcome) (d : NetDevice) :
    (bus.opsOpen openErr conf o d).2.1.sentQueue = d.sentQueue ∧
      (bus.opsOpen openErr conf o d).2.1.completedQueue = d.completedQueue := by
  obtain ⟨out, hopen⟩ := bus.opsOpen_eq openErr conf o d
  rw [hopen]
  split_ifs <;> exact ⟨rfl, rfl⟩

theorem opsClose_queues (o : SendOutcome) (d : NetDevice) :
    (bus.opsClose o d).1.sentQueue = d.sentQueue ∧
    (bus.opsClose o d).1.completedQueue = d.completedQueue := by
  obtain ⟨stats, disposed, hclose⟩ := bus.opsClose_eq o d
  rw [hclose]
  exact ⟨rfl, rfl⟩

theorem Inv.opened (h : Inv c s) {openErr : ℤ} {conf o : SendOutcome}
    (hs : step bus c s (.opened openErr conf o) = some s') : Inv c s' := by
  obtain ⟨d, hd, hphase⟩ := h.device
  simp only [step, hd] at hs
  split at hs
  case isTrue => cases hs
  case isFalse hup =>
    obtain rfl := Option.some.inj hs
    cases hphase with
    | free hpc he howed =>
      refine h.quiet hd _ (by rw [modify_self, hd]; rfl) ?_ rfl rfl rfl h.solo h.closedAt (.free hpc ?_ howed)
      · exact opsOpen_queues ..
      · exact (bus.opsOpen_spec openErr conf o d).1.trans he
    | begun skb hpc hup' => exact absurd hup' hup
    | echoed skb hpc hup' => exact absurd hup' hup
    | linked skb earlier hpc hup' => exact absurd hup' hup
    | waiting skb k earlier hpc hup' => exact absurd hup' hup

/-- If no call is in progress, no frame of this session is on the way, or one waits for its
status. -/
theorem Phase.of_idle {d : NetDevice} (h : Phase c s d) (hidle : s.pc = .idle) :
    d.echoSkb = none ∧ Earlier s s.owed ∨
      d.queueStopped = true ∧ ∃ earlier k len, s.owed = earlier ++ [(k, len)] ∧ Earlier s earlier ∧
      k < s.count := by
  cases h with
  | free hpc he howed => exact .inl ⟨he, howed⟩
  | begun skb hpc => rcases hpc with hpc | hpc <;> rw [hidle] at hpc <;> cases hpc
  | echoed skb hpc => rw [hidle] at hpc; cases hpc
  | linked skb earlier hpc => rw [hidle] at hpc; cases hpc
  | waiting skb k earlier hpc hup hq he hfirst howed hold hlt =>
    exact .inr ⟨hq, earlier, k, _, howed, hold, hlt⟩

/-- The frames whose status is owed were sent by calls that are over, if none is in
progress. -/
theorem Phase.owed_lt {d : NetDevice} (h : Phase c s d) (hle : s.closedAt ≤ s.count)
    (hidle : s.pc = .idle) : ∀ tx ∈ s.owed, tx.1 < s.count := by
  intro tx htx
  obtain ⟨-, howed⟩ | ⟨-, earlier, k, len, howed, hold, hlt⟩ := h.of_idle hidle
  · exact (howed tx htx).trans_le hle
  · rw [howed] at htx
    rcases List.mem_append.mp htx with htx | htx
    · exact (hold tx htx).trans_le hle
    · obtain rfl := List.mem_singleton.mp htx
      exact hlt

theorem Inv.stop (h : Inv c s) {o : SendOutcome} (hs : step bus c s (.stop o) = some s') :
    Inv c s' := by
  obtain ⟨d, hd, hphase⟩ := h.device
  simp only [step, hd] at hs
  split at hs
  case isTrue => cases hs
  case isFalse hfree =>
    simp only [ne_eq, not_or, not_not] at hfree
    obtain rfl := Option.some.inj hs
    refine h.quiet hd { (bus.opsClose o d).1 with up := false } (by rw [modify_self, hd]; rfl) (opsClose_queues o d)
      rfl rfl rfl h.solo le_rfl ?_
    exact .free hfree.1 (bus.opsClose_spec o d).2 (hphase.owed_lt h.closedAt hfree.1)

theorem Inv.call (h : Inv c s) {skb : Skb} (hs : step bus c s (.call skb) = some s') :
    Inv c s' := by
  obtain ⟨d, hd, hphase⟩ := h.device
  simp only [step, hd] at hs
  split at hs
  case isTrue => cases hs
  case isFalse hfree =>
    simp only [ne_eq, not_or, not_not, Bool.not_eq_false, Bool.not_eq_true] at hfree
    obtain ⟨hidle, hup, hq⟩ := hfree
    obtain rfl := Option.some.inj hs
    obtain ⟨he, howed⟩ | ⟨hq', -⟩ := hphase.of_idle hidle
    · cases hi : skb.invalid with
      | true =>
        simp only [xmitEnter, hi, if_true]
        exact h.quiet hd (d.dropInvalidSkb skb) (by rw [modify_self, hd]; rfl) ⟨rfl, rfl⟩ rfl rfl
          (by simp [St.reported, hidle]) h.solo h.closedAt (.free rfl he howed)
      | false =>
        simp only [xmitEnter, hi, Bool.false_eq_true, if_false]
        exact h.quiet hd d.netifStopQueue (by rw [modify_self, hd]; rfl) ⟨rfl, rfl⟩ rfl rfl
          (by simp [St.reported, hidle]) h.solo h.closedAt (.begun skb (.inl rfl) hup rfl he howed)
    · rw [hq] at hq'
      cases hq'

theorem Inv.tell (h : Inv c s) {d : NetDevice} (hd : s.net.netdev c = some d) {skb : Skb}
    {earlier : List (ℕ × ℕ)} (hpc : s.pc = .linked skb.frameLen) (hup : d.up = true)
    (hq : d.queueStopped = true) (he : d.echoSkb = some skb) (hfirst : s.net.firstReply = some c)
    (howed : s.owed = earlier ++ [(s.count, skb.frameLen)]) (hold : Earlier s earlier) :
    Inv c { s with
      pc := .idle
      net := s.net.modify c (.netdevSentQueue skb.frameLen)
      sent := s.sent ++
        tagged s.count (sentLog c s.net) (sentLog c (s.net.modify c (.netdevSentQueue skb.frameLen)))
      count := s.count + 1 } := by
  have hd' : (s.net.modify c (.netdevSentQueue skb.frameLen)).netdev c =
      some (d.netdevSentQueue skb.frameLen) := by
    rw [modify_self, hd]; rfl
  have hlog : sentLog c (s.net.modify c (.netdevSentQueue skb.frameLen)) =
      sentLog c s.net ++ [skb.frameLen] := by
    rw [sentLog_eq hd', sentLog_eq hd]
    rfl
  rw [hlog, tagged_append]
  obtain ⟨done, hdone, hperm⟩ := h.ledger
  refine ⟨h.solo, ⟨_, hd', ?_⟩, h.closedAt.trans (Nat.le_succ _), ?_, ?_, done, hdone, ?_⟩
  · exact .waiting skb s.count earlier rfl hup hq he hfirst howed hold (Nat.lt_succ_self _)
  · rw [List.map_append, h.sent, hlog]
    rfl
  · rw [h.completed, completedLog_eq hd, completedLog_eq hd']
    rfl
  · -- The frame was not reported before, and is now.
    have hbefore : s.reported = earlier := by simp [St.reported, hpc, howed]
    rw [hbefore] at hperm
    simp only [St.reported, howed, ← List.append_assoc]
    exact hperm.append_right _

/-- A piece of a call keeps the invariant: the first two tell the byte queue nothing, the
third appends the entry, and the last tells the byte queue. -/
theorem Inv.piece (h : Inv c s) (hs : step bus c s .piece = some s') : Inv c s' := by
  obtain ⟨d, hd, hphase⟩ := h.device
  cases hphase with
  | free hpc => simp [step, hpc] at hs
  | waiting skb k earlier hpc => simp [step, hpc] at hs
  | begun skb hpc hup hq he howed =>
    rcases hpc with hpc | hpc
    · obtain ⟨msg, hx⟩ := @xmitPhase_stopped_ok bus _ _ _ hd .ok rfl skb
      simp only [step, hpc, hx, tagged_self, List.append_nil, Option.some.injEq] at hs
      subst hs
      exact h.quiet hd d hd ⟨rfl, rfl⟩ rfl rfl (by simp [St.reported, hpc]) h.solo h.closedAt
        (.begun skb (.inr rfl) hup hq he howed)
    · have hx := @xmitPhase_submitted_ok bus _ _ _ hd .ok rfl he skb
      have hd' : (s.net.modify c (.putEcho skb)).netdev c = some (d.putEcho skb) := by
        rw [modify_self, hd]; rfl
      have hlog : sentLog c (s.net.modify c (.putEcho skb)) = sentLog c s.net := by
        rw [sentLog_eq hd', sentLog_eq hd]
        rfl
      simp only [step, hpc, hx, hlog, tagged_self, List.append_nil, Option.some.injEq] at hs
      subst hs
      exact h.quiet hd (d.putEcho skb) hd' ⟨rfl, rfl⟩ rfl rfl (by simp [St.reported, hpc])
        h.solo h.closedAt
        (.echoed skb rfl hup hq rfl howed)
  | echoed skb hpc hup hq he howed =>
    have hx := @xmitPhase_echoed bus _ _ _ hd .ok skb.frameLen
    have hlog : sentLog c (s.net.waitSendReply c) = sentLog c s.net := rfl
    simp only [step, hpc, hx, hlog, tagged_self, List.append_nil, Option.some.injEq] at hs
    subst hs
    obtain ⟨hsolo, hfirst⟩ := h.solo.listAddTail
    refine h.quiet hd d hd ⟨rfl, rfl⟩ rfl rfl (by simp [St.reported, hpc]) hsolo h.closedAt ?_
    refine .linked skb s.owed rfl hup hq he ?_ rfl howed
    rw [MsgNet.firstReply]
    simp only [MsgNet.waitSendReply, hfirst]
  | linked skb earlier hpc hup hq he hfirst howed hold =>
    have hx := @xmitPhase_linked bus _ _ _ hd .ok skb.frameLen
    simp only [step, hpc, hx, Option.some.injEq] at hs
    subst hs
    exact h.tell hd hpc hup hq he hfirst howed hold

/-- What is at place `k` of a list and is not one of those before the last is the last. -/
theorem eq_last {α : Type} {xs : List α} {x y : α} {k : ℕ} (h : (xs ++ [x])[k]? = some y)
    (hy : y ∉ xs) : k = xs.length ∧ y = x := by
  by_cases hk : k < xs.length
  · rw [List.getElem?_append_left hk] at h
    exact absurd (List.mem_of_getElem? h) hy
  · obtain ⟨hlt, -⟩ := List.getElem?_eq_some_iff.mp h
    rw [List.length_append, List.length_singleton] at hlt
    have hlen : k = xs.length := by omega
    subst hlen
    exact ⟨rfl, by simpa using h.symm⟩

/-- The status of the frame that waits for it completes the frame, and keeps the
invariant. -/
theorem Inv.complete (h : Inv c s) {d : NetDevice} (hd : s.net.netdev c = some d) (status : UInt8)
    {skb : Skb} {i : ℕ} {earlier : List (ℕ × ℕ)} (hpc : s.pc = .idle) (he : d.echoSkb = some skb)
    (hfirst : s.net.firstReply = some c) (howed : s.owed = earlier ++ [(i, skb.frameLen)])
    (hold : Earlier s earlier) : Inv c { s with
      net := s.net.sendCallback status
      owed := earlier
      completed :=
        s.completed ++ tagged i (completedLog c s.net) (completedLog c (s.net.sendCallback status)) } := by
  have hd' : (s.net.sendCallback status).netdev c = some (netSendCallback status d) := by
    rw [sendCallback_of_first hfirst, delReply_netdev, modify_self, hd]
    rfl
  have hsend := netSendCallback_of_echo he status
  have hlog :
      completedLog c (s.net.sendCallback status) = completedLog c s.net ++ [some skb.frameLen] := by
    rw [completedLog_eq hd', completedLog_eq hd, hsend]
  have hdel : Solo (s.net.sendCallback status).replies .listHead (.reply c) := by
    rw [sendCallback_of_first hfirst]
    exact h.solo.listDel (firstReply_eq_some hfirst)
  obtain ⟨done, hdone, hperm⟩ := h.ledger
  refine ⟨hdel, ⟨_, hd', .free hpc (netSendCallback_echoSkb _ _) hold⟩, h.closedAt, ?_, ?_,
    done ++ [(i, skb.frameLen)], ?_, ?_⟩
  · simp only [h.sent, sentLog_eq hd, sentLog_eq hd', hsend]
  · simp only [hlog, tagged_append, List.map_append, h.completed, List.map_cons, List.map_nil]
  · simp only [hlog, tagged_append, List.map_append, hdone, List.map_cons, List.map_nil]
  · have hbefore : s.reported = earlier ++ [(i, skb.frameLen)] := by simp [St.reported, hpc, howed]
    simp only [St.reported, hpc]
    rw [hbefore] at hperm
    refine hperm.trans ?_
    rw [List.append_assoc]
    exact List.perm_append_comm.append_left done

/-- A status that is handled in time completes the frame that waits for it. -/
theorem Inv.answer (h : Inv c s) {k : ℕ} {status : UInt8} (hC : InTime s (.answer k status))
    (hs : step bus c s (.answer k status) = some s') : Inv c s' := by
  obtain ⟨d, hd, hphase⟩ := h.device
  simp only [step] at hs
  split at hs
  case h_1 => cases hs
  case h_2 tx htx =>
    obtain rfl := Option.some.inj hs
    have hnew : s.closedAt ≤ tx.1 := hC.2 tx htx
    have hmem : tx ∈ s.owed := List.mem_of_getElem? htx
    cases hphase with
    | free hpc he howed => exact absurd hnew (howed tx hmem).not_ge
    | begun skb hpc hup hq he howed => exact absurd hnew (howed tx hmem).not_ge
    | echoed skb hpc hup hq he howed => exact absurd hnew (howed tx hmem).not_ge
    | linked skb earlier hpc => exact absurd hpc (hC.1 _)
    | waiting skb i earlier hpc hup hq he hfirst howed hold hlt =>
      -- The frame is the last one, as the others are of earlier sessions.
      obtain ⟨rfl, rfl⟩ := eq_last (howed ▸ htx) fun hin => absurd hnew (hold tx hin).not_ge
      have howed' : s.owed.eraseIdx earlier.length = earlier := by
        rw [howed, List.eraseIdx_append_of_length_le le_rfl]
        simp
      rw [howed']
      exact h.complete hd status hpc he hfirst howed hold

end Steps

/-- **One step**: a status that is handled in time keeps the invariant, and so does every
other step. -/
theorem inv_step (bus : Bus) (c : ℕ) (s : St) (e : Event) (s' : St) (h : Inv c s) (hC : InTime s e)
    (hs : step bus c s e = some s') : Inv c s' := by
  cases e with
  | opened openErr conf o => exact h.opened hs
  | stop o => exact h.stop hs
  | call skb => exact h.call hs
  | piece => exact h.piece hs
  | answer k status => exact h.answer hC hs

/-- **What is completed was sent** in every run in which a status is handled after its call
has told the byte queue, and before the channel is stopped. -/
theorem accounted_of_run {bus : Bus} {c : ℕ} {s : St} (h : Start c s) {es : List Event}
    (hC : Meets (step bus c) InTime s es) : Always (step bus c) (Accounted c) s es :=
  (always_of_meets (inv_step bus c) h.inv hC).mono fun _ => Inv.accounted

/-! ### One channel -/

/-- A channel that was never open. -/
def oneChannel : St := ⟨.ready 1, .idle, 0, 0, [], [], []⟩

theorem start_oneChannel : Start 0 oneChannel :=
  ⟨ready_pending 1, ⟨.create 0, rfl, rfl, rfl⟩, rfl, rfl, rfl, rfl, rfl, rfl, rfl⟩

/-- A frame of 47 bytes on the wire. -/
def skb : Skb := { emptySkb with frameLen := 47 }

/-- The status comes after the call. -/
theorem accounted_after :
    Always (step .can 0) (Accounted 0) oneChannel
      [.opened 0 .ok .ok, .call skb, .piece, .piece, .piece, .piece,
        .answer 0 GURU_STATUS_DONE] := by
  apply accounted_of_run start_oneChannel
  refine .cons rfl trivial (.cons rfl trivial (.cons rfl trivial (.cons rfl trivial (.cons rfl trivial
    (.cons rfl trivial (.cons rfl ⟨fun n hn => ?_, fun tx _ => Nat.zero_le _⟩ trivial))))))
  cases hn

/-- The status comes before the last piece of the call: 47 bytes are completed of the `0`
that were sent. -/
theorem not_accounted_early :
    ¬ Always (step .can 0) (Accounted 0) oneChannel
      [.opened 0 .ok .ok, .call skb, .piece, .piece, .piece, .answer 0 GURU_STATUS_DONE] := by
  intro h
  exact absurd (h.last rfl).le (by decide)

end ByteQueue

end CanGuru
