import CanGuru.Lib.Machine
import CanGuru.Driver
import CanGuru.Channel

/-!
# Transmission, one step at a time

If a call of `ndo_start_xmit` is over before the device answers its message, and the
device answers in the order of submission, then the list of pending replies is the queue
of the messages that are not answered, and the rest of the driver agrees with it: the
queues, the echoes, the byte queue and the counters of all the channels.

## The model

Any number of CAN channels share a message layer. `ndo_start_xmit` is one step, whose
message is taken or not, and so is the dispatch of a send status, which is a message of
the device with any first byte.

## What is proved

`sequential_of_run` — in every state of every run the list is the queue, and every
channel agrees with it (`Account`). A buffer that is dropped as invalid is counted among
the dropped frames and was never submitted.
-/

namespace CanGuru

open Machine MsgNet

namespace Sequential

/-- The channels of a device, and what is to be remembered of the run. -/
structure St where
  /-- The device. -/
  guru : Guru
  /-- The frames whose message is not answered, each with its channel, in the order of
  submission. -/
  owed : List (ℕ × Skb)
  /-- How many frames of each channel were submitted. -/
  submitted : ℕ → ℕ
  /-- How many buffers of each channel were dropped as invalid. -/
  invalid : ℕ → ℕ
  /-- The statuses, each with the channel of its frame, newest last. -/
  statuses : List (ℕ × UInt8)

/-- The steps. -/
inductive Event where
  /-- `ndo_start_xmit` of channel `c`, whose message is taken or not. -/
  | xmit (c : ℕ) (skb : Skb) (o : SendOutcome)
  /-- The answer to the first message that is not answered. -/
  | answer (msg : GuruData)

/-- What a step does, where it can happen. -/
def step (s : St) : Event → Option St
  | .xmit c skb o =>
    match s.guru.dev.can.netdev c with
    | none => none
    | some d =>
      if d.queueStopped then none
      else
        let (can, out) := canguruStartXmit ⟨o, false⟩ c skb s.guru.dev.can
        some
          { s with
            guru := { s.guru with dev := { s.guru.dev with can := can } }
            owed := s.owed ++ out.map fun _ => (c, skb)
            submitted := Function.update s.submitted c (s.submitted c + out.length)
            invalid := Function.update s.invalid c (s.invalid c + skb.invalid.toNat) }
  | .answer msg =>
    match s.owed with
    | [] => none
    | tx :: rest =>
      if msg.id = CAN_MSG_SEND ∧ msg.dataCount = 1 then
        some
          { s with
            guru := canguruProcessMsgList (runCallback true) s.guru msg
            owed := rest
            statuses := s.statuses ++ [(tx.1, msg.data.getD 0 0)] }
      else none

/-- The channels that wait for an answer, in the order of submission. -/
def St.waiting (s : St) : List ℕ := s.owed.map Prod.fst

/-- The frames of channel `c` that are not answered. -/
def St.outstanding (s : St) (c : ℕ) : List Skb := (s.owed.filter fun tx => tx.1 = c).map Prod.snd

/-- The statuses of the frames of channel `c`. -/
def St.statusesOf (s : St) (c : ℕ) : List UInt8 :=
  (s.statuses.filter fun st => st.1 = c).map Prod.snd

/-- Channels that are open and have sent nothing. -/
structure Start (s : St) : Prop where
  /-- The device has CAN channels, and its handlers. -/
  handlers : ∃ k : DeviceKind, k.hasCan = true ∧ s.guru.msgList = k.msgList
  /-- No reply is pending. -/
  pending : s.guru.dev.can.Pending []
  /-- The channels are up and their queues run. -/
  running : ∀ c d, s.guru.dev.can.netdev c = some d → d.up = true ∧ d.queueStopped = false
  /-- They have sent and dropped nothing. -/
  unused : ∀ c d, s.guru.dev.can.netdev c = some d → d.echoSkb = none ∧ d.sentQueue = [] ∧
    d.completedQueue = [] ∧
    d.stats.txPackets = 0 ∧ d.stats.txErrors = 0 ∧ d.stats.txDropped = 0 ∧ d.disposed = []
  /-- Nothing was submitted, dropped or answered. -/
  fresh : s.owed = [] ∧ (∀ c, s.submitted c = 0) ∧ (∀ c, s.invalid c = 0) ∧ s.statuses = []

/-- What a channel shows of the frames it has sent. -/
structure Account (s : St) (c : ℕ) (d : NetDevice) : Prop where
  /-- Its queue is stopped when it waits for an answer. -/
  stopped : d.queueStopped = true ↔ c ∈ s.waiting
  /-- The echo of its frame is in the slot then. -/
  echoSkb : d.echoSkb ≠ none ↔ c ∈ s.waiting
  /-- The slot was never occupied when a frame was put into it. -/
  put : ∀ e ∈ d.disposed, e.2 ≠ .refused
  /-- At most one frame of it is outstanding. -/
  one : (s.outstanding c).length ≤ 1
  /-- What was sent and is not completed is the length of that frame. -/
  bytes : ∃ done : List ℕ, d.completedQueue = done.map some ∧
    d.sentQueue.sum = done.sum + ((s.outstanding c).map Skb.frameLen).sum
  /-- The frames with the status `GURU_STATUS_DONE`. -/
  txPackets : d.stats.txPackets = (s.statusesOf c).countP fun st => st = GURU_STATUS_DONE
  /-- The frames with the status `GURU_STATUS_ERROR`. -/
  txErrors : d.stats.txErrors = (s.statusesOf c).countP fun st => st = GURU_STATUS_ERROR
  /-- The frames with another status, and the buffers dropped as invalid. -/
  txDropped : d.stats.txDropped =
    ((s.statusesOf c).countP fun st => st ≠ GURU_STATUS_DONE ∧ st ≠ GURU_STATUS_ERROR) + s.invalid c
  /-- Every frame that was submitted is outstanding or counted once. -/
  total : d.stats.txPackets + d.stats.txErrors + d.stats.txDropped + (s.outstanding c).length =
    s.submitted c + s.invalid c

/-- **The list is the queue**, and every channel agrees with it. -/
structure Agrees (s : St) : Prop where
  /-- The list of pending replies is that of the channels that wait, in the order of
  submission. -/
  pending : s.guru.dev.can.Pending s.waiting
  /-- Each of them is in it once. -/
  nodup : s.waiting.Nodup
  /-- What the channels show. -/
  account : ∀ c d, s.guru.dev.can.netdev c = some d → Account s c d

/-! ### One channel -/

/-- A channel, by its outstanding frames, its statuses, and how many frames were submitted
and dropped as invalid. -/
structure Chan (out : List Skb) (sts : List UInt8) (submitted invalid : ℕ)
    (d : NetDevice) : Prop where
  /-- Its queue is stopped while a frame is outstanding. -/
  stopped : d.queueStopped = true ↔ out ≠ []
  /-- That frame is the echo. -/
  echoSkb : d.echoSkb = out.head?
  /-- There is at most one. -/
  one : out.length ≤ 1
  /-- The slot was empty when a frame was put into it. -/
  put : ∀ e ∈ d.disposed, e.2 ≠ .refused
  /-- What is not completed. -/
  bytes : ∃ done : List ℕ, d.completedQueue = done.map some ∧
    d.sentQueue.sum = done.sum + (out.map Skb.frameLen).sum
  /-- The counters. -/
  stats : d.stats.txPackets = (sts.countP fun st => st = GURU_STATUS_DONE) ∧
    d.stats.txErrors = (sts.countP fun st => st = GURU_STATUS_ERROR) ∧
    d.stats.txDropped = (sts.countP fun st => st ≠ GURU_STATUS_DONE ∧
      st ≠ GURU_STATUS_ERROR) + invalid
  /-- The frames that were submitted. -/
  submitted : submitted = sts.length + out.length

section Chan

variable {out : List Skb} {sts : List UInt8} {submitted invalid : ℕ} {d : NetDevice}

theorem Chan.drop (h : Chan out sts submitted invalid d) (skb : Skb) :
    Chan out sts submitted (invalid + 1) (d.dropInvalidSkb skb) where
  stopped := h.stopped
  echoSkb := h.echoSkb
  one := h.one
  put := by
    intro e he
    rcases List.mem_append.mp he with he | he
    · exact h.put e he
    · rw [List.mem_singleton.mp he]
      exact (by decide : Disposal.invalid ≠ .refused)
  bytes := h.bytes
  stats := by
    obtain ⟨hp, he, hd⟩ := h.stats
    exact ⟨hp, he, by rw [← Nat.add_assoc, ← hd]; rfl⟩
  submitted := h.submitted

/-- A message that is not taken gives the queue back. -/
theorem Chan.refuse (h : Chan out sts submitted invalid d) (hq : d.queueStopped = false) :
    Chan out sts submitted invalid d.netifStopQueue.netifWakeQueue := by
  refine ⟨?_, h.echoSkb, h.one, h.put, h.bytes, h.stats, h.submitted⟩
  rw [← h.stopped, hq]
  exact Iff.rfl

theorem Chan.send (h : Chan [] sts submitted invalid d) (skb : Skb) :
    Chan [skb] sts (submitted + 1) invalid ((d.netifStopQueue.putEcho skb).netdevSentQueue skb.frameLen) where
  stopped := ⟨fun _ => List.cons_ne_nil _ _, fun _ => rfl⟩
  echoSkb := rfl
  one := le_rfl
  put := h.put
  bytes := by
    obtain ⟨done, hdone, hsum⟩ := h.bytes
    refine ⟨done, hdone, ?_⟩
    simp only [NetDevice.netdevSentQueue, NetDevice.putEcho, NetDevice.netifStopQueue,
      List.sum_append, hsum]
    rfl
  stats := h.stats
  submitted := by
    rw [h.submitted]
    rfl

/-- The counters of a frame that gets its status. -/
theorem countStatus_stats (status : UInt8) (n : ℕ) (stats : Stats) :
    (countStatus status n stats).txPackets =
      stats.txPackets + (if status = GURU_STATUS_DONE then 1 else 0) ∧
      (countStatus status n stats).txErrors =
        stats.txErrors + (if status = GURU_STATUS_ERROR then 1 else 0) ∧
      (countStatus status n stats).txDropped =
        stats.txDropped + (if status ≠ GURU_STATUS_DONE ∧
          status ≠ GURU_STATUS_ERROR then 1 else 0) := by
  by_cases hdone : status = GURU_STATUS_DONE
  · subst hdone
    exact ⟨rfl, rfl, rfl⟩
  · by_cases herr : status = GURU_STATUS_ERROR
    · subst herr
      exact ⟨rfl, rfl, rfl⟩
    · simp [countStatus, hdone, herr]

theorem Chan.answer {skb : Skb} (h : Chan [skb] sts submitted invalid d) (status : UInt8) :
    Chan [] (sts ++ [status]) submitted invalid (netSendCallback status d) := by
  rw [netSendCallback_of_echo h.echoSkb]
  obtain ⟨hp, he, hd⟩ := h.stats
  obtain ⟨hp', he', hd'⟩ := countStatus_stats status skb.payloadLen d.stats
  constructor
  case stopped => simp
  case echoSkb => rfl
  case one => exact Nat.zero_le _
  case put =>
    intro e hmem
    rcases List.mem_append.mp hmem with hmem | hmem
    · exact h.put e hmem
    · rw [List.mem_singleton.mp hmem]
      exact (by decide : Disposal.echoed ≠ .refused)
  case bytes =>
    obtain ⟨done, hdone, hsum⟩ := h.bytes
    refine ⟨done ++ [skb.frameLen], ?_, ?_⟩
    · rw [List.map_append, ← hdone]
      rfl
    · simpa using hsum
  case stats =>
    refine ⟨?_, ?_, ?_⟩
    · rw [hp', hp, List.countP_append, List.countP_singleton]
      simp
    · rw [he', he, List.countP_append, List.countP_singleton]
      simp
    · rw [hd', hd, List.countP_append, List.countP_singleton]
      simp [Nat.add_right_comm]
  case submitted =>
    rw [h.submitted, List.length_append]
    rfl

theorem countP_statuses (sts : List UInt8) :
    (sts.countP fun st => st = GURU_STATUS_DONE) + (sts.countP fun st => st = GURU_STATUS_ERROR) +
      (sts.countP fun st => st ≠ GURU_STATUS_DONE ∧ st ≠ GURU_STATUS_ERROR) = sts.length := by
  induction sts with
  | nil => rfl
  | cons st sts ih =>
    simp only [List.countP_cons, List.length_cons, ← ih]
    by_cases hdone : st = GURU_STATUS_DONE
    · subst hdone
      simp [GURU_STATUS_DONE, GURU_STATUS_ERROR]
      omega
    · by_cases herr : st = GURU_STATUS_ERROR
      · subst herr
        simp [GURU_STATUS_DONE, GURU_STATUS_ERROR]
        omega
      · simp [hdone, herr]
        omega

end Chan

/-! ### The invariant -/

/-- A channel waits when it has an outstanding frame. -/
theorem mem_waiting {s : St} {c : ℕ} : c ∈ s.waiting ↔ s.outstanding c ≠ [] := by
  rw [St.waiting, St.outstanding, ne_eq, List.map_eq_nil_iff, List.filter_eq_nil_iff]
  simp

/-- The invariant. -/
structure Inv (s : St) : Prop where
  /-- The device has CAN channels, and its handlers. -/
  handlers : ∃ k : DeviceKind, k.hasCan = true ∧ s.guru.msgList = k.msgList
  /-- The list is the queue. -/
  pending : s.guru.dev.can.Pending s.waiting
  /-- The channels. -/
  chan : ∀ c d, s.guru.dev.can.netdev c = some d →
    Chan (s.outstanding c) (s.statusesOf c) (s.submitted c) (s.invalid c) d

theorem Start.inv {s : St} (h : Start s) : Inv s where
  handlers := h.handlers
  pending := by
    rw [St.waiting, h.fresh.1]
    exact h.pending
  chan := by
    intro c d hd
    obtain ⟨he, hsent, hcompleted, hp, herr, hdrop, hdisposed⟩ := h.unused c d hd
    obtain ⟨howed, hsubmitted, hinvalid, hstatuses⟩ := h.fresh
    simp only [St.outstanding, St.statusesOf, howed, hsubmitted, hinvalid, hstatuses]
    refine ⟨?_, he, Nat.zero_le _, ?_, ⟨[], hcompleted, ?_⟩, ⟨hp, herr, hdrop⟩, rfl⟩
    · simp [(h.running c d hd).2]
    · simp [hdisposed]
    · simp [hsent]

/-- **The invariant gives the property.** -/
theorem Inv.agrees {s : St} (h : Inv s) : Agrees s where
  pending := h.pending
  nodup := h.pending.nodup
  account := by
    intro c d hd
    obtain ⟨hstopped, he, hone, hput, hbytes, ⟨hp, herr, hdrop⟩, hsubmitted⟩ := h.chan c d hd
    refine ⟨hstopped.trans mem_waiting.symm, ?_, hput, hone, hbytes, hp, herr, hdrop, ?_⟩
    · rw [mem_waiting, he, ne_eq, List.head?_eq_none_iff]
    · have hcount := countP_statuses (s.statusesOf c)
      omega

/-! ### The steps -/

section Steps

variable {s s' : St}

/-- A channel whose queue runs has no outstanding frame. -/
theorem Inv.running (h : Inv s) {c : ℕ} {d : NetDevice} (hd : s.guru.dev.can.netdev c = some d)
    (hq : d.queueStopped = false) : s.outstanding c = [] := by
  by_contra hout
  rw [(h.chan c d hd).stopped.mpr hout] at hq
  cases hq

/-- What a call of `ndo_start_xmit` does: it drops an invalid buffer, gives the queue back,
or sends the frame and appends the entry. -/
theorem step_xmit (h : Inv s) {c : ℕ} {skb : Skb} {o : SendOutcome}
    (hs : step s (.xmit c skb o) = some s') :
    ∃ d, s.guru.dev.can.netdev c = some d ∧ d.queueStopped = false ∧ s'.statuses = s.statuses ∧
      s'.guru.msgList = s.guru.msgList ∧
      ((∃ f : NetDevice → NetDevice, s'.guru.dev.can = s.guru.dev.can.modify c f ∧ s'.owed = s.owed ∧
          s'.submitted = s.submitted ∧
          ((f = .dropInvalidSkb skb ∧ s'.invalid = Function.update s.invalid c (s.invalid c + 1)) ∨
            f = (fun d => d.netifStopQueue.netifWakeQueue) ∧ s'.invalid = s.invalid)) ∨
        s'.guru.dev.can = (s.guru.dev.can.modify c .netifStopQueue).registered c skb ∧
          s'.owed = s.owed ++ [(c, skb)] ∧
          s'.submitted = Function.update s.submitted c (s.submitted c + 1) ∧
            s'.invalid = s.invalid) := by
  rw [step] at hs
  split at hs
  case h_1 => cases hs
  case h_2 d hd =>
    split at hs
    case isTrue => cases hs
    case isFalse hq =>
      have hq : d.queueStopped = false := Bool.eq_false_of_not_eq_true hq
      cases hi : skb.invalid with
      | true =>
        rw [show canguruStartXmit ⟨o, false⟩ c skb s.guru.dev.can = _ from
          @startXmit_invalid .can _ _ _ hd ⟨o, false⟩ _ hi] at hs
        obtain rfl := Option.some.inj hs
        exact ⟨d, hd, hq, rfl, rfl,
          .inl ⟨_, rfl, List.append_nil _, Function.update_eq_self c s.submitted, .inl ⟨rfl, by rw [hi]; rfl⟩⟩⟩
      | false =>
        have hinvalid : Function.update s.invalid c (s.invalid c + skb.invalid.toNat) =
            s.invalid := by
          rw [hi]
          exact Function.update_eq_self c s.invalid
        by_cases herr : o.err = 0
        · have he : d.echoSkb = none := by
            rw [(h.chan c d hd).echoSkb, h.running hd hq]
            rfl
          obtain ⟨msg, hx⟩ := @startXmit_ok .can _ _ _ hd ⟨o, false⟩ herr rfl he _ hi
          rw [show canguruStartXmit ⟨o, false⟩ c skb s.guru.dev.can = _ from hx] at hs
          obtain rfl := Option.some.inj hs
          exact ⟨d, hd, hq, rfl, rfl, .inr ⟨rfl, rfl, rfl, hinvalid⟩⟩
        · rw [show canguruStartXmit ⟨o, false⟩ c skb s.guru.dev.can = _ from
            @startXmit_err .can _ _ _ hd ⟨o, false⟩ herr _ hi] at hs
          obtain rfl := Option.some.inj hs
          exact ⟨d, hd, hq, rfl, rfl,
            .inl ⟨_, rfl, List.append_nil _, Function.update_eq_self c s.submitted, .inr ⟨rfl, hinvalid⟩⟩⟩

theorem Inv.xmit (h : Inv s) {c : ℕ} {skb : Skb} {o : SendOutcome}
    (hs : step s (.xmit c skb o) = some s') : Inv s' := by
  obtain ⟨d, hd, hq, hstatuses, hlist, hcases⟩ := step_xmit h hs
  have hchan := h.chan c d hd
  have hout : s.outstanding c = [] := h.running hd hq
  have hsts : ∀ c', s'.statusesOf c' = s.statusesOf c' :=
    fun c' => by rw [St.statusesOf, hstatuses, St.statusesOf]
  rcases hcases with ⟨f, hcan, howed, hsubmitted, hf⟩ | ⟨hcan, howed, hsubmitted, hinvalid⟩
  · -- Nothing is sent.
    have hout' : ∀ c', s'.outstanding c' = s.outstanding c' :=
      fun c' => by rw [St.outstanding, howed, St.outstanding]
    refine ⟨hlist ▸ h.handlers, ?_, fun c' d' hd' => ?_⟩
    · rw [hcan, St.waiting, howed]
      exact h.pending
    rw [hcan] at hd'
    rw [hout', hsts, hsubmitted]
    obtain ⟨rfl, d₀, hd₀, rfl⟩ | ⟨hne, hd'⟩ := modify_eq_some.mp hd'
    · obtain rfl := Option.some.inj (hd₀.symm.trans hd)
      rcases hf with ⟨rfl, hinvalid⟩ | ⟨rfl, hinvalid⟩
      · rw [hinvalid, Function.update_self]
        exact hchan.drop skb
      · rw [hinvalid]
        exact hchan.refuse hq
    · have hsame : s'.invalid c' = s.invalid c' := by
        rcases hf with ⟨-, hinvalid⟩ | ⟨-, hinvalid⟩
        · rw [hinvalid, Function.update_of_ne hne]
        · rw [hinvalid]
      rw [hsame]
      exact h.chan c' d' hd'
  · -- The frame is sent.
    refine ⟨hlist ▸ h.handlers, ?_, fun c' d' hd' => ?_⟩
    · have hwaiting : s'.waiting = s.waiting ++ [c] := by simp [St.waiting, howed]
      rw [hcan, hwaiting]
      exact Pending.registered (modify_pending.mpr h.pending)
        (fun hmem => mem_waiting.mp hmem hout) skb
    rw [hcan] at hd'
    rw [hsts, hinvalid, hsubmitted]
    by_cases hne : c' = c
    · subst hne
      have hout' : s'.outstanding c' = [skb] := by
        rw [St.outstanding, howed, List.filter_append, List.map_append,
          show (s.owed.filter fun tx => tx.1 = c').map Prod.snd = [] from hout]
        simp
      rw [registered_self, modify_self, hd, Option.map_some, Option.map_some,
        Option.some.injEq] at hd'
      subst hd'
      rw [hout', Function.update_self]
      exact (hout ▸ hchan).send skb
    · have hout' : s'.outstanding c' = s.outstanding c' := by
        rw [St.outstanding, howed, List.filter_append, List.map_append, St.outstanding]
        simp [Ne.symm hne]
      rw [registered_of_ne hne, modify_of_ne hne] at hd'
      rw [hout', Function.update_of_ne hne]
      exact h.chan c' d' hd'

theorem Inv.answer (h : Inv s) {msg : GuruData} (hs : step s (.answer msg) = some s') : Inv s' := by
  obtain ⟨k, hk, hlist⟩ := h.handlers
  rw [step] at hs
  split at hs
  case h_1 => cases hs
  case h_2 tx rest howed =>
    split at hs
    case isFalse => cases hs
    case isTrue hmsg =>
      obtain ⟨c, skb⟩ := tx
      obtain rfl := Option.some.inj hs
      have hwaiting : s.waiting = c :: rest.map Prod.fst := by rw [St.waiting, howed]; rfl
      have hpending := h.pending
      rw [hwaiting] at hpending
      simp only [processMsgList_can_send true hk hlist hmsg.1 hmsg.2, hpending.sendCallback_cons]
      refine ⟨⟨k, hk, hlist⟩, Pending.delReply (modify_pending.mpr hpending), fun c' d' hd' => ?_⟩
      obtain ⟨rfl, d, hd, rfl⟩ | ⟨hne, hd'⟩ := modify_eq_some.mp hd'
      · have hchan := h.chan c' d hd
        -- The frame is the only one of the channel.
        have hone : s.outstanding c' = [skb] := by
          have hlen := hchan.one
          simp only [St.outstanding, howed, List.filter_cons, decide_true, if_true, List.map_cons,
            List.length_cons]
            at hlen ⊢
          rw [List.length_eq_zero_iff.mp (Nat.le_zero.mp (Nat.le_of_succ_le_succ hlen))]
        have hrest : (rest.filter fun tx => tx.1 = c').map Prod.snd = [] := by
          simpa [St.outstanding, howed] using hone
        simp only [St.outstanding, St.statusesOf, hrest, List.filter_append, List.map_append]
        simpa using (hone ▸ hchan).answer (msg.data.getD 0 0)
      · have hchan := h.chan c' d' hd'
        simpa [St.outstanding, St.statusesOf, howed, Ne.symm hne] using hchan

end Steps

/-- **One step** keeps the invariant. -/
theorem inv_step (s : St) (e : Event) (s' : St) (h : Inv s) (hs : step s e = some s') : Inv s' := by
  cases e with
  | xmit c skb o => exact h.xmit hs
  | answer msg => exact h.answer hs

/-- **The list is the queue** in every state of every run, and every channel agrees with
it. -/
theorem sequential_of_run {s t : St} (h : Start s) {es : List Event} (hr : run step s es = some t) :
    Agrees t :=
  (inv_of_run inv_step h.inv hr).agrees

/-! ### Two channels -/

/-- Two channels that are open. -/
def twoChannels : St where
  guru :=
    { DeviceKind.canguru.ready with
      dev := { DeviceKind.canguru.ready.dev with
        can :=
          { MsgNet.ready 2 with
            netdev := fun c => if c < 2 then some { NetDevice.create (UInt8.ofNat c) with up := true } else none } } }
  owed := []
  submitted := fun _ => 0
  invalid := fun _ => 0
  statuses := []

theorem start_twoChannels : Start twoChannels where
  handlers := ⟨.canguru, rfl, rfl⟩
  pending := ready_pending 2
  running := by
    intro c d hd
    simp only [twoChannels, Option.ite_none_right_eq_some, Option.some.injEq] at hd
    obtain ⟨-, rfl⟩ := hd
    exact ⟨rfl, rfl⟩
  unused := by
    intro c d hd
    simp only [twoChannels, Option.ite_none_right_eq_some, Option.some.injEq] at hd
    obtain ⟨-, rfl⟩ := hd
    exact ⟨rfl, rfl, rfl, rfl, rfl, rfl, rfl⟩
  fresh := ⟨rfl, fun _ => rfl, fun _ => rfl, rfl⟩

/-- The status of a frame. -/
def status (st : UInt8) : GuruData := .fill CAN_MSG_SEND [st]

/-- Both channels send, and the first frame fails. -/
theorem sequential_two : ∃ t, run step twoChannels [.xmit 1 emptySkb .ok, .xmit 0 emptySkb .ok,
    .answer (status GURU_STATUS_ERROR)] = some t ∧ Agrees t := by
  obtain ⟨t, ht⟩ : ∃ t, run step twoChannels [.xmit 1 emptySkb .ok, .xmit 0 emptySkb .ok,
      .answer (status GURU_STATUS_ERROR)] = some t := ⟨_, rfl⟩
  exact ⟨t, ht, sequential_of_run start_twoChannels ht⟩

/-- A buffer that is dropped as invalid is counted and was not submitted. -/
theorem counted_invalid :
    ∃ t d, run step twoChannels [.xmit 0 { emptySkb with invalid := true } .ok] = some t ∧
    t.guru.dev.can.netdev 0 = some d ∧
    d.stats.txPackets + d.stats.txErrors + d.stats.txDropped + (t.outstanding 0).length ≠
        t.submitted 0 :=
  ⟨_, _, rfl, rfl, by decide⟩

end Sequential

end CanGuru
