import CanGuru.Lib.Machine
import CanGuru.Lifecycle.Rules

/-!
# Channels that are used while the device is set up

The init function of a device registers the channels of a bus and sets up their message
layer. A registered channel may be opened and send frames at once, and with one exception
the layer comes after the channels: the list of pending replies is not a list yet, and the
answer to a frame finds no handler.

## The model

The init function is a row of steps, down to single calls of `guru_add_msg`; `initSteps_eq`
says that the row is the init function. Between two steps, channels that are registered
are opened, calls of `ndo_start_xmit` are made and go on by their pieces, and the answers
to messages that were submitted are dispatched.

## What is proved

`usable_of_run` — in every run in which a frame of a channel is not submitted before the
message layer of its bus is set up, the list is always that of the entries that were
appended, and every answer finds its handler. On the CAN half of a MultiBus no frame can
be.
-/

namespace CanGuru

open Machine MsgNet Calls ListHead

namespace Bus

/-- The callback of the send status. -/
def sendCallback : Bus → Callback
  | .can => .canguruSend
  | .lin => .linguruSend

/-- The handler of the send status. -/
def sendHandler (bus : Bus) : GuruMsg Callback := ⟨bus.sendId, 1, .static, some bus.sendCallback⟩

end Bus

/-! ### The init function in steps -/

/-- A step of the init function of a device. -/
inductive InitStep where
  /-- `guru_dev_init`. -/
  | guruDev
  /-- The creation of a channel. -/
  | create (ch : Chan)
  /-- `canguru_msg_net_init` or `linguru_msg_net_init` up to its `INIT_LIST_HEAD`. -/
  | listHead (bus : Bus)
  /-- One of its calls of `guru_add_msg`. -/
  | addMsg (item : GuruMsg Callback)
  /-- `linguru_volt_create`. -/
  | volt
  /-- `guru_boot_create`. -/
  | boot
  deriving DecidableEq

/-- The fields and the list of a message layer for `n` channels. -/
def Device.initListHead (bus : Bus) (n : ℕ) (s : Device) : Device :=
  let s := s.modifyNet bus fun m =>
    { m with ifaceCount := n, replies := ListHead.initListHead m.replies .listHead }
  match bus with
  | .can => s
  | .lin =>
    { s with guru := { s.guru with dev := { s.guru.dev with measVoltDev := s.measVoltDev } } }

namespace InitStep

/-- What a step does. -/
def run (k : DeviceKind) (o : ProbeOutcome) : InitStep → Device → ℤ × Device
  | .guruDev => Device.guruDevInit o
  | .create ch => void (Device.createChannel o ch)
  | .listHead bus => void (Device.initListHead bus (k.count bus))
  | .addMsg item => void (Device.addMsgs [item])
  | .volt => Device.linguruVoltCreate o.volt
  | .boot => Device.bootCreate o

/-- The creation of the channels of a bus. -/
def creates (k : DeviceKind) (bus : Bus) : List InitStep := (bus.channels (k.count bus)).map .create

/-- The setting up of the message layer of a bus. -/
def layer (bus : Bus) : List InitStep := .listHead bus :: bus.handlers.map .addMsg

end InitStep

open InitStep

/-- The steps of the init function of a device. -/
def initSteps (k : DeviceKind) : List InitStep :=
  match k with
  | .canguru => .guruDev :: (creates k .can ++ (layer .can ++ [.boot]))
  | .linguru => .guruDev :: (creates k .lin ++ .volt :: layer .lin)
  | .mbus => .guruDev :: (layer .can ++ (creates k .can ++ (creates k .lin ++ layer .lin)))

section InitSteps

variable (k : DeviceKind) (o : ProbeOutcome)

/-- The loop that creates the channels of a bus, in steps. -/
theorem creates_eq (bus : Bus) (s : Device) :
    void (forEach (Device.createChannel o) (bus.channels (k.count bus))) s =
      seq ((creates k bus).map (InitStep.run k o)) s := by
  rw [creates, List.map_map]
  exact (seq_map_void (Device.createChannel o) _ s).symm

/-- Handlers that are registered one by one are registered. -/
theorem seq_addMsg (items : List (GuruMsg Callback)) (s : Device) :
    seq ((items.map InitStep.addMsg).map (InitStep.run k o)) s = (0, s.addMsgs items) := by
  rw [List.map_map]
  refine (seq_map_void (fun item => Device.addMsgs [item]) items s).trans (Prod.ext rfl ?_)
  induction items generalizing s with
  | nil => simp [Device.addMsgs]
  | cons item items ih =>
    rw [forEach_cons, ih]
    simp [Device.addMsgs]

theorem canguruMsgNetInit_eq (s : Device) :
    s.canguruMsgNetInit (k.count .can) = seq ((layer .can).map (InitStep.run k o)) s := by
  rw [layer, List.map_cons, InitStep.run, seq_void, seq_addMsg]
  rfl

theorem linguruMsgNetInit_eq (s : Device) :
    s.linguruMsgNetInit (k.count .lin) = seq ((layer .lin).map (InitStep.run k o)) s := by
  rw [layer, List.map_cons, InitStep.run, seq_void, seq_addMsg]
  rfl

/-- **The steps in a row are the init function.** -/
theorem initSteps_eq (s : Device) :
    seq ((initSteps k).map (InitStep.run k o)) s = s.devInit k o := by
  rw [Device.devInit_eq]
  cases k with
  | canguru =>
    simp only [initSteps, List.map_cons, List.map_append]
    refine seq_cons_congr (fun s => ?_) _ s
    rw [← seq_cut (creates_eq .canguru o .can)]
    refine seq_cons_congr (fun s => ?_) _ s
    exact (seq_cut (canguruMsgNetInit_eq .canguru o) _ s).symm
  | linguru =>
    simp only [initSteps, List.map_cons, List.map_append]
    refine seq_cons_congr (fun s => ?_) _ s
    rw [← seq_cut (creates_eq .linguru o .lin)]
    refine seq_cons_congr (fun s => seq_cons_congr (fun s => ?_) _ s) _ s
    rw [← linguruMsgNetInit_eq]
    exact (seq_singleton _ s).symm
  | mbus =>
    simp only [initSteps, List.map_cons, List.map_append]
    refine seq_cons_congr (fun s => ?_) _ s
    have hcan : ∀ s, Device.mbusDevInitCan o s =
        seq ((layer .can).map (InitStep.run .mbus o) ++ (creates .mbus .can).map (InitStep.run .mbus o)) s := by
      intro s
      rw [Device.mbusDevInitCan, ← seq_cut (canguruMsgNetInit_eq .mbus o)]
      refine seq_cons_congr (fun s => ?_) _ s
      exact (seq_singleton _ s).trans (creates_eq .mbus o .can s)
    have hlin : ∀ s, Device.mbusDevInitLin o s =
        seq ((creates .mbus .lin).map (InitStep.run .mbus o) ++ (layer .lin).map (InitStep.run .mbus o)) s := by
      intro s
      rw [Device.mbusDevInitLin, ← seq_cut (creates_eq .mbus o .lin)]
      refine seq_cons_congr (fun s => ?_) _ s
      exact (seq_singleton _ s).trans (linguruMsgNetInit_eq .mbus o s)
    rw [← List.append_assoc, ← seq_cut hcan]
    refine seq_cons_congr (fun s => ?_) _ s
    rw [← hlin]
    exact (seq_singleton _ s).symm

end InitSteps

namespace InitStep

/-- The handlers a step registers. -/
def handlers : InitStep → List (GuruMsg Callback)
  | .guruDev => guruMsgStdHandlers
  | .addMsg item => [item]
  | _ => []

theorem handlers_initSteps (k : DeviceKind) :
    (initSteps k).flatMap InitStep.handlers = k.msgList := by cases k <;> rfl

theorem nodup_initSteps (k : DeviceKind) : (initSteps k).Nodup := by cases k <;> decide

section Run

variable {k : DeviceKind} {o : ProbeOutcome} {i : InitStep} {s : Device}

/-- What a step does to the entry of a channel it does not create: nothing. -/
theorem run_netdev {ch : Chan} (h : i ≠ .create ch) : (i.run k o s).2.netdev ch = s.netdev ch := by
  cases i with
  | guruDev => exact congrArg Prod.fst (Device.guruDevInit_chan o s ch)
  | create ch' =>
    have hne : ch ≠ ch' := fun he => h (congrArg InitStep.create he.symm)
    exact congrArg Prod.fst (Device.createChannel_chan_of_ne o hne s)
  | listHead bus =>
    obtain ⟨bus', c⟩ := ch
    cases bus <;> cases bus' <;> rfl
  | addMsg item => rfl
  | volt => exact congrArg Prod.fst (Device.linguruVoltCreate_chan o.volt s ch)
  | boot => rfl

/-- What a step does to the list of pending replies of a bus. -/
theorem run_replies (bus : Bus) : ((i.run k o s).2.net bus).replies =
    if i = .listHead bus then initListHead (s.net bus).replies
      .listHead else (s.net bus).replies := by
  cases i with
  | guruDev =>
    rw [if_neg (by simp), Device.net, InitStep.run, (Device.guruDevInit_dev o s).1]
  | create ch =>
    rw [if_neg (by simp)]
    refine Device.inv_createChannel (P := fun t => (t.net bus).replies = (s.net bus).replies)
      (fun _ _ h => h)
      (fun _ _ h => h) (fun d t h => ?_) o rfl
    refine Eq.trans ?_ h
    obtain ⟨bus', c⟩ := ch
    cases bus <;> cases bus' <;> rfl
  | listHead bus' =>
    cases bus <;> cases bus' <;> rfl
  | addMsg item => rw [if_neg (by simp)]; rfl
  | volt =>
    rw [if_neg (by simp), Device.net, InitStep.run, (Device.linguruVoltCreate_guru o.volt s).1]
  | boot => rw [if_neg (by simp)]; rfl

theorem run_msgList (h : i ≠ .guruDev) :
    (i.run k o s).2.guru.msgList = s.guru.msgList ++ i.handlers := by
  cases i with
  | guruDev => exact absurd rfl h
  | create ch =>
    refine Device.inv_createChannel (P := fun t => t.guru.msgList = s.guru.msgList ++ [])
      (fun _ _ h => h)
      (fun _ _ h => h) (fun d t h => ?_) o (List.append_nil _).symm
    exact h
  | listHead bus => cases bus <;> exact (List.append_nil _).symm
  | addMsg item => rfl
  | volt =>
    rw [InitStep.run, (Device.linguruVoltCreate_guru o.volt s).1]
    exact (List.append_nil _).symm
  | boot => exact (List.append_nil _).symm

/-- `guru_dev_init` starts with no handler, and registers its own if it succeeds. -/
theorem run_guruDev : (InitStep.guruDev.run k o s).2.guru.msgList =
    if (InitStep.guruDev.run k o s).1 = 0 then guruMsgStdHandlers else [] := by
  by_cases h : (canguruUsbRxInit o.rx s.usb).1 = 0
  · rw [InitStep.run, Device.guruDevInit_of_ok h]
    rfl
  · rw [InitStep.run, Device.guruDevInit_of_err h]
    exact (if_neg h).symm

end Run

end InitStep

namespace EarlyUse

/-- A device while its init function runs. -/
structure St where
  /-- The device. -/
  dev : Device
  /-- The steps of the init function that are done. -/
  done : List InitStep
  /-- Those that are to come. -/
  todo : List InitStep
  /-- Where the call of `ndo_start_xmit` of each channel stands. -/
  pc : Chan → Pc
  /-- How many messages of each bus are not answered. -/
  owed : Bus → ℕ
  /-- The channels of each bus whose entry was appended and is not taken yet. -/
  waiting : Bus → List ℕ
  /-- How many answers found no handler. -/
  missed : ℕ

/-- The steps. -/
inductive Event where
  /-- The init function does its next step. -/
  | init
  /-- `ndo_open` of a channel. -/
  | opened (ch : Chan) (openErr : ℤ) (conf o : SendOutcome)
  /-- `ndo_start_xmit` of a channel is called. -/
  | call (ch : Chan) (skb : Skb)
  /-- The call goes on with its next piece. -/
  | piece (ch : Chan) (o : XmitOutcome)
  /-- An answer to a message of a bus is dispatched. -/
  | answer (bus : Bus) (msg : GuruData)

/-- What a step does, where it can happen. An init function that meets an error returns. -/
def step (k : DeviceKind) (o : ProbeOutcome) (s : St) : Event → Option St
  | .init =>
    match s.todo with
    | [] => none
    | i :: rest =>
      let (err, dev) := i.run k o s.dev
      if err = 0 then some { s with dev := dev, done := s.done ++ [i], todo := rest }
      else some { s with dev := dev, todo := [] }
  | .opened ch openErr conf o =>
    match s.dev.netdev ch with
    | none => none
    | some d =>
      if d.up then none
      else
        let (err, d, _) := ch.1.opsOpen openErr conf o d
        let net := (s.dev.net ch.1).modify ch.2 fun _ => { d with up := err = 0 }
        some { s with dev := s.dev.modifyNet ch.1 fun _ => net }
  | .call ch skb =>
    match s.dev.netdev ch with
    | none => none
    | some d =>
      if s.pc ch ≠ .idle ∨ d.up = false ∨ d.queueStopped = true then none
      else
        let (pc, net) := xmitEnter ch.2 skb (s.dev.net ch.1)
        some { s with dev := s.dev.modifyNet ch.1 fun _ => net, pc := Function.update s.pc ch pc }
  | .piece ch o =>
    let (pc, net, out) := xmitPhase ch.1.send o ch.2 (s.pc ch) (s.dev.net ch.1)
    let s' :=
      { s with
        dev := s.dev.modifyNet ch.1 fun _ => net
        pc := Function.update s.pc ch pc
        owed := Function.update s.owed ch.1 (s.owed ch.1 + out.length) }
    match s.pc ch with
    | .idle => none
    -- The entry is appended.
    | .echoed _ =>
      some { s' with waiting := Function.update s.waiting ch.1 (s.waiting ch.1 ++ [ch.2]) }
    | _ => some s'
  | .answer bus msg =>
    if 0 < s.owed bus ∧ msg.id = bus.sendId ∧ msg.dataCount = 1 then
      let s' :=
        { s with
          dev := { s.dev with guru := canguruProcessMsgList (runCallback true) s.dev.guru msg }
          owed := Function.update s.owed bus (s.owed bus - 1) }
      if bus.sendCallback ∈ handlersOf s.dev.guru.msgList msg then
        some { s' with waiting := Function.update s.waiting bus (s.waiting bus).tail }
      else some { s' with missed := s.missed + 1 }
    else none

/-- A device whose init function starts, its `boot` at address `b`. -/
def start (k : DeviceKind) (boots : GuruBoots) (b : ℕ) : St :=
  ⟨.kzalloc boots b, [], initSteps k, fun _ => .idle, fun _ => 0, fun _ => [], 0⟩

/-- **The channels are usable.** -/
structure Usable (s : St) : Prop where
  /-- No entry was appended to what is not a list yet, and none was dropped: the list is
  that of the entries that were appended and are not taken. -/
  lists : ∀ bus, s.waiting bus = [] ∨ (s.dev.net bus).Pending (s.waiting bus)
  /-- Every answer found its handler. -/
  found : s.missed = 0

/-- The message layer of a bus is set up. -/
def LayerUp (bus : Bus) (s : St) : Prop := ∀ i ∈ layer bus, i ∈ s.done

/-- A message of a channel is submitted when the message layer of its bus is set up; on the
CAN half of a MultiBus nothing is asked. -/
def Settled (k : DeviceKind) (s : St) : Event → Prop
  | .piece ch o => (k = .mbus → ch.1 = .lin) → (∃ skb, s.pc ch = .stopped skb) → o.send.err = 0 →
    LayerUp ch.1 s
  | _ => True

/-! ### The invariant -/

/-- The queue is stopped, and the entry is not appended. -/
def Begun : Pc → Prop
  | .stopped _ => True
  | .submitted _ => True
  | .echoed _ => True
  | _ => False

/-- The message is submitted. -/
def Submitted : Pc → Prop
  | .submitted _ => True
  | .echoed _ => True
  | .linked _ => True
  | _ => False

/-- What holds of a channel. -/
structure ChanOk (s : St) (ch : Chan) : Prop where
  /-- It is up and its queue is stopped while its entry is in the list. -/
  listed : ch.2 ∈ s.waiting ch.1 → ∃ d, s.dev.netdev ch = some d ∧ d.up = true ∧
    d.queueStopped = true
  /-- So it is in a call that has not appended the entry, which is not in the list. -/
  begun : Begun (s.pc ch) →
    (∃ d, s.dev.netdev ch = some d ∧ d.up = true ∧ d.queueStopped = true) ∧ ch.2 ∉ s.waiting ch.1
  /-- The message layer is set up if the call has submitted its message. -/
  up : Submitted (s.pc ch) → LayerUp ch.1 s

/-- The list of a bus is fresh memory, or that of the entries that were appended. -/
def Listed (s : St) (bus : Bus) : Prop :=
  .listHead bus ∉ s.done ∧ (s.dev.net bus).replies = fresh ∧ s.waiting bus = [] ∨
    .listHead bus ∈ s.done ∧ (s.dev.net bus).Pending (s.waiting bus)

/-- The invariant. -/
structure Inv (k : DeviceKind) (s : St) : Prop where
  /-- The steps that are done and those to come are the init function, unless it met an
  error. -/
  init : ∃ rest, s.done ++ rest = initSteps k ∧ (s.todo = rest ∨ s.todo = [])
  /-- The handlers are those of the steps that are done. -/
  msgList : s.dev.guru.msgList = s.done.flatMap InitStep.handlers
  /-- The lists. -/
  lists : ∀ bus, Listed s bus
  /-- The channels. -/
  chans : ∀ ch, ChanOk s ch
  /-- A channel that is to be created does not exist. -/
  created : ∀ ch, .create ch ∈ s.todo → s.dev.netdev ch = none
  /-- The CAN channels of a MultiBus come after their message layer. -/
  first : k = .mbus → ∀ c, s.dev.netdev (.can, c) ≠ none → LayerUp .can s
  /-- Where an answer is owed, the message layer is set up. -/
  owed : ∀ bus, 0 < s.owed bus → LayerUp bus s
  /-- Every answer found its handler. -/
  missed : s.missed = 0

/-- **The invariant gives the property.** -/
theorem Inv.usable {k : DeviceKind} {s : St} (h : Inv k s) : Usable s where
  lists := by
    intro bus
    rcases h.lists bus with ⟨-, -, hnil⟩ | ⟨-, hp⟩
    · exact .inl hnil
    · exact .inr hp
  found := h.missed

theorem inv_start (k : DeviceKind) (boots : GuruBoots) (b : ℕ) : Inv k (start k boots b) where
  init := ⟨initSteps k, rfl, .inl rfl⟩
  msgList := rfl
  lists := fun bus => .inl ⟨List.not_mem_nil, by cases bus <;> rfl, rfl⟩
  chans := fun ch => ⟨fun h => absurd h List.not_mem_nil, fun h => h.elim, fun h => h.elim⟩
  created := by
    rintro ⟨bus, c⟩ -
    cases bus <;> rfl
  first := fun _ c h => absurd rfl h
  owed := fun bus h => absurd h (Nat.lt_irrefl 0)
  missed := rfl

/-! ### The init function -/

section Steps

variable {k : DeviceKind} {o : ProbeOutcome} {s s' : St}

theorem LayerUp.mono {bus : Bus} (h : LayerUp bus s) (hdone : ∀ i ∈ s.done, i ∈ s'.done) :
    LayerUp bus s' :=
  fun i hi => hdone i (h i hi)

/-- The next step of the init function was not done, and is not done again. -/
theorem Inv.next (h : Inv k s) {i : InitStep} {rest : List InitStep} (htodo : s.todo = i :: rest) :
    s.done ++ i :: rest = initSteps k ∧ i ∉ s.done ∧ i ∉ rest := by
  obtain ⟨rest', hinit, hrest⟩ := h.init
  rw [htodo] at hrest
  obtain rfl := hrest.resolve_right (List.cons_ne_nil _ _)
  have hnodup := nodup_initSteps k
  rw [← hinit, List.nodup_append] at hnodup
  obtain ⟨-, hcons, hdisj⟩ := hnodup
  exact ⟨hinit, fun hmem => hdisj i hmem i List.mem_cons_self rfl, (List.nodup_cons.mp hcons).1⟩

/-- What is not in the first part of a row comes after it. -/
theorem subset_of_append_eq {α : Type} {xs ys as bs : List α} {a : α} (h : xs ++ a :: ys = as ++ bs)
    (ha : a ∉ as) : ∀ x ∈ as, x ∈ xs := by
  intro x hx
  rcases List.append_eq_append_iff.mp h with ⟨cs, rfl, hcs⟩ | ⟨cs, rfl, -⟩
  · cases cs with
    | nil => rwa [List.append_nil] at hx
    | cons c cs =>
      obtain ⟨rfl, -⟩ := List.cons.inj hcs
      exact absurd (List.mem_append_right _ List.mem_cons_self) ha
  · exact List.mem_append_left _ hx

/-- The list of a bus after a step of the init function, which is done or meets an error. -/
theorem Listed.run {bus : Bus} (h : Listed s bus) {i : InitStep} (hi : i ∉ s.done)
    (hdev : s'.dev = (i.run k o s.dev).2) (hwaiting : s'.waiting = s.waiting)
    (hdone : s'.done = s.done ++ [i] ∨ s'.done = s.done ∧ i ≠ .listHead bus) : Listed s' bus := by
  have hreplies := run_replies (k := k) (o := o) (i := i) (s := s.dev) bus
  rw [← hdev] at hreplies
  by_cases he : i = .listHead bus
  · subst he
    obtain ⟨-, hfresh, hnil⟩ := h.resolve_right fun hin => hi hin.1
    have hdone := hdone.resolve_right fun hne => hne.2 rfl
    refine .inr ⟨by rw [hdone]; exact List.mem_append_right _ (List.mem_singleton_self _), ?_⟩
    rw [if_pos rfl, hfresh] at hreplies
    rw [Pending, hreplies, hwaiting, hnil]
    exact holds_init _
  · rw [if_neg he] at hreplies
    have hmem : .listHead bus ∈ s'.done ↔ .listHead bus ∈ s.done := by
      rcases hdone with hdone | ⟨hdone, -⟩
      · simp [hdone, Ne.symm he]
      · rw [hdone]
    rw [Listed, hmem, hwaiting, Pending, hreplies]
    exact h

/-- A step of the init function keeps what holds of a channel. -/
theorem ChanOk.run {ch : Chan} (h : ChanOk s ch)
    (hcreated : .create ch ∈ s.todo → s.dev.netdev ch = none) {i : InitStep} (hi : i ∈ s.todo)
    (hdev : s'.dev = (i.run k o s.dev).2) (hwaiting : s'.waiting = s.waiting) (hpc : s'.pc = s.pc)
    (hdone : ∀ j ∈ s.done, j ∈ s'.done) : ChanOk s' ch := by
  have hkept : ∀ d, s.dev.netdev ch = some d → s'.dev.netdev ch = some d := by
    intro d hd
    rw [hdev, run_netdev fun he => ?_]
    · exact hd
    · rw [hcreated (he ▸ hi)] at hd
      cases hd
  refine ⟨fun hmem => ?_, fun hbegun => ?_, fun hup => ?_⟩
  · rw [hwaiting] at hmem
    obtain ⟨d, hd, hq⟩ := h.listed hmem
    exact ⟨d, hkept d hd, hq⟩
  · rw [hpc] at hbegun
    obtain ⟨⟨d, hd, hq⟩, hmem⟩ := h.begun hbegun
    exact ⟨⟨d, hkept d hd, hq⟩, hwaiting ▸ hmem⟩
  · rw [hpc] at hup
    exact (h.up hup).mono hdone

/-- The handlers after a step of the init function. -/
theorem Inv.run_msgList (h : Inv k s) {i : InitStep} {rest : List InitStep}
    (htodo : s.todo = i :: rest) : (i.run k o s.dev).2.guru.msgList =
      (if (i.run k o s.dev).1 = 0 then s.done ++ [i] else s.done).flatMap InitStep.handlers := by
  obtain ⟨hinit, hi, -⟩ := h.next htodo
  by_cases he : i = .guruDev
  · -- It is the first step.
    subst he
    have hfirst : s.done = [] := by
      cases hd : s.done with
      | nil => rfl
      | cons j done =>
        rw [hd] at hinit hi
        have hj : j = .guruDev := by cases k <;> exact (List.cons.inj hinit).1
        exact absurd (hj ▸ List.mem_cons_self) hi
    rw [run_guruDev, hfirst]
    split <;> rfl
  · rw [InitStep.run_msgList he, h.msgList]
    split
    case isTrue => rw [List.flatMap_append, List.flatMap_singleton]
    case isFalse herr =>
      cases i with
      | guruDev => exact absurd rfl he
      | create ch => exact absurd rfl herr
      | listHead bus => exact absurd rfl herr
      | addMsg item => exact absurd rfl herr
      | volt => exact List.append_nil _
      | boot => exact List.append_nil _

/-- The CAN channels of a MultiBus are created after their message layer is set up. -/
theorem layer_before {done rest : List InitStep} {c : ℕ}
    (h : done ++ .create (.can, c) :: rest = initSteps .mbus) : ∀ i ∈ layer .can, i ∈ done := by
  have hsplit : done ++ .create (.can, c) :: rest =
      (.guruDev :: layer .can) ++ (creates .mbus .can ++ (creates .mbus .lin ++ layer .lin)) := h
  intro i hi
  exact subset_of_append_eq hsplit (by simp [layer]) i (List.mem_cons_of_mem _ hi)

theorem Inv.initStep (h : Inv k s) (hs : step k o s .init = some s') : Inv k s' := by
  rw [step] at hs
  split at hs
  case h_1 => cases hs
  case h_2 i rest htodo =>
    obtain ⟨hinit, hi, hrest⟩ := h.next htodo
    have hmem : i ∈ s.todo := by rw [htodo]; exact List.mem_cons_self
    have hnet : ∀ ch, i ≠ .create ch → (i.run k o s.dev).2.netdev ch = s.dev.netdev ch :=
      fun _ => run_netdev
    have hlist := h.run_msgList (o := o) htodo
    by_cases herr : (i.run k o s.dev).1 = 0
    · rw [if_pos herr] at hlist
      obtain rfl := Option.some.inj ((if_pos herr).symm.trans hs)
      have hmono : ∀ j ∈ s.done, j ∈ s.done ++ [i] := fun j => List.mem_append_left _
      refine ⟨⟨rest, ?_, .inl rfl⟩, hlist, fun bus => (h.lists bus).run hi rfl rfl (.inl rfl),
        fun ch => (h.chans ch).run (h.created ch) hmem rfl rfl rfl hmono, fun ch hch =>
          ?_, fun hk c hc => ?_,
        fun bus hbus => (h.owed bus hbus).mono hmono, h.missed⟩
      · rw [List.append_assoc]
        exact hinit
      · refine (hnet ch ?_).trans (h.created ch (htodo ▸ List.mem_cons_of_mem _ hch))
        rintro rfl
        exact hrest hch
      · by_cases he : i = .create (.can, c)
        · subst hk he
          exact fun j hj => hmono j (layer_before hinit j hj)
        · exact (h.first hk c fun hnone => hc ((hnet _ he).trans hnone)).mono hmono
    · rw [if_neg herr] at hlist
      obtain rfl := Option.some.inj ((if_neg herr).symm.trans hs)
      -- A step that meets an error creates no channel and sets up no list.
      have hcreate : ∀ ch, i ≠ .create ch := by rintro ch rfl; exact herr rfl
      have hhead : ∀ bus, i ≠ .listHead bus := by rintro bus rfl; exact herr rfl
      refine ⟨⟨i :: rest, hinit, .inr rfl⟩, hlist,
        fun bus => (h.lists bus).run hi rfl rfl (.inr ⟨rfl, hhead bus⟩), fun ch =>
        (h.chans ch).run (h.created ch) hmem rfl rfl rfl fun j hj => hj,
        fun ch hch => absurd hch List.not_mem_nil, fun hk c hc => ?_, h.owed, h.missed⟩
      exact h.first hk c fun hnone => hc ((hnet _ (hcreate _)).trans hnone)

/-! ### The channels -/

/-- A step of one channel keeps the invariant if it keeps what holds of the channel and of
the list of its bus. -/
theorem Inv.chan (h : Inv k s) (ch : Chan) (hmsgList : s'.dev.guru.msgList = s.dev.guru.msgList)
    (hnet : ∀ bus ≠ ch.1, s'.dev.net bus = s.dev.net bus)
    (hother : ∀ c ≠ ch.2, (s'.dev.net ch.1).netdev c = (s.dev.net ch.1).netdev c)
    (hsome : s'.dev.netdev ch = none ↔ s.dev.netdev ch = none)
    (hdone : s'.done = s.done ∧ s'.todo = s.todo) (hpc : ∀ ch' ≠ ch, s'.pc ch' = s.pc ch')
    (hwaiting : ∀ bus ≠ ch.1, s'.waiting bus = s.waiting bus)
    (hwaiting' : ∀ c ≠ ch.2, c ∈ s'.waiting ch.1 ↔ c ∈ s.waiting ch.1) (hlisted : Listed s' ch.1)
    (hchan : ChanOk s' ch) (howed : ∀ bus, 0 < s'.owed bus → LayerUp bus s)
    (hmissed : s'.missed = s.missed) : Inv k s' := by
  have hup : ∀ bus, LayerUp bus s → LayerUp bus s' := fun bus h => h.mono fun i hi => hdone.1 ▸ hi
  have hentry : ∀ ch' ≠ ch, s'.dev.netdev ch' = s.dev.netdev ch' := by
    intro ch' hne
    by_cases hb : ch'.1 = ch.1
    · rw [Device.netdev, hb, hother _ fun hc => hne (Prod.ext hb hc), Device.netdev, hb]
    · rw [Device.netdev, hnet _ hb, Device.netdev]
  have hnone : ∀ ch', s'.dev.netdev ch' = none ↔ s.dev.netdev ch' = none := by
    intro ch'
    by_cases hne : ch' = ch
    · rw [hne, hsome]
    · rw [hentry ch' hne]
  refine ⟨?init, ?msgList, ?lists, ?chans, ?created, ?first, fun bus hb => hup bus (howed bus hb),
    hmissed.trans h.missed⟩
  case init =>
    rw [hdone.1, hdone.2]
    exact h.init
  case msgList =>
    rw [hmsgList, hdone.1]
    exact h.msgList
  case lists =>
    intro bus
    by_cases hb : bus = ch.1
    · rw [hb]
      exact hlisted
    · rw [Listed, hdone.1, hwaiting bus hb, hnet bus hb]
      exact h.lists bus
  case chans =>
    intro ch'
    by_cases hne : ch' = ch
    · rw [hne]
      exact hchan
    have hmem : ch'.2 ∈ s'.waiting ch'.1 ↔ ch'.2 ∈ s.waiting ch'.1 := by
      by_cases hb : ch'.1 = ch.1
      · rw [hb]
        exact hwaiting' _ fun hc => hne (Prod.ext hb hc)
      · rw [hwaiting _ hb]
    have hok := h.chans ch'
    refine ⟨fun hin => ?_, fun hbegun => ?_, fun hsub => ?_⟩
    · rw [hentry ch' hne]
      exact hok.listed (hmem.mp hin)
    · rw [hpc ch' hne] at hbegun
      rw [hentry ch' hne, hmem]
      exact hok.begun hbegun
    · rw [hpc ch' hne] at hsub
      exact hup _ (hok.up hsub)
  case created =>
    intro ch' hch'
    rw [hdone.2] at hch'
    exact (hnone ch').mpr (h.created ch' hch')
  case first => exact fun hk c hc => hup _ (h.first hk c (mt (hnone _).mpr hc))

/-- The entry of a channel after a change of the message layer. -/
theorem setNet_netdev (ch : Chan) (net : MsgNet) (dev : Device) :
    (dev.modifyNet ch.1 fun _ => net).netdev ch = net.netdev ch.2 := by
  rw [Device.netdev, Device.modifyNet_self]

/-- A change of a channel and of where its call stands keeps the invariant if it keeps what
holds of the channel. -/
theorem Inv.setNet (h : Inv k s) {ch : Chan} {net : MsgNet} {pc : Pc} {owed : Bus → ℕ}
    (hother : ∀ c ≠ ch.2, net.netdev c = (s.dev.net ch.1).netdev c)
    (hsome : net.netdev ch.2 = none ↔ s.dev.netdev ch = none)
    (hreplies : net.replies = (s.dev.net ch.1).replies)
    (hchan : ChanOk { s with dev := s.dev.modifyNet ch.1 fun _ => net, pc := Function.update s.pc ch pc } ch)
    (howed : ∀ bus, 0 < owed bus → LayerUp bus s) :
    Inv k { s with dev := s.dev.modifyNet ch.1 fun _ => net, pc := Function.update s.pc ch pc, owed := owed } := by
  refine h.chan ch (Device.modifyNet_msgList ..) (fun bus hb => Device.modifyNet_of_ne hb _ _)
    (fun c hc => ?_) ?_ ⟨rfl, rfl⟩
    (fun ch' hne => Function.update_of_ne hne ..) (fun _ _ => rfl) (fun _ _ => Iff.rfl) ?_
    ⟨hchan.listed, hchan.begun, hchan.up⟩ howed rfl
  · rw [Device.modifyNet_self, hother c hc]
  · rw [setNet_netdev, hsome]
  · rw [Listed, Device.modifyNet_self, Pending, hreplies]
    exact h.lists ch.1

/-- A change of the net device of a channel does not make or remove it. -/
theorem modify_eq_none {ch : Chan} (g : NetDevice → NetDevice) :
    ((s.dev.net ch.1).modify ch.2 g).netdev ch.2 = none ↔ s.dev.netdev ch = none := by
  rw [modify_self, Option.map_eq_none_iff, Device.netdev]

/-- A call that ends with a change of its channel keeps the invariant if the channel stays
stopped while its entry is in the list. -/
theorem Inv.over (h : Inv k s) {ch : Chan} {g : NetDevice → NetDevice} {owed : Bus → ℕ}
    (hlisted : ch.2 ∈ s.waiting ch.1 →
      ∃ d, s.dev.netdev ch = some d ∧ (g d).up = true ∧ (g d).queueStopped = true)
    (howed : ∀ bus, 0 < owed bus → LayerUp bus s) :
    Inv k { s with
      dev := s.dev.modifyNet ch.1 fun _ => (s.dev.net ch.1).modify ch.2 g
      pc := Function.update s.pc ch .idle
      owed := owed } := by
  refine h.setNet (fun _ hc => modify_of_ne hc _ _) (modify_eq_none _) rfl
    ⟨fun hin => ?_, fun hb => ?_, fun hu => ?_⟩ howed
  · obtain ⟨d, hd, hkept⟩ := hlisted hin
    refine ⟨g d, ?_, hkept⟩
    rw [setNet_netdev, modify_self, show (s.dev.net ch.1).netdev ch.2 = some d from hd]
    rfl
  · simp [Function.update_self, Begun] at hb
  · simp [Function.update_self, Submitted] at hu

/-- A channel that is down, or whose queue runs, is not in the list, and in no call that has
not appended the entry. -/
theorem ChanOk.free {ch : Chan} (h : ChanOk s ch) {d : NetDevice} (hd : s.dev.netdev ch = some d)
    (hfree : d.up = false ∨ d.queueStopped = false) :
    ch.2 ∉ s.waiting ch.1 ∧ ¬ Begun (s.pc ch) := by
  have hno : ¬ ∃ d, s.dev.netdev ch = some d ∧ d.up = true ∧ d.queueStopped = true := by
    rintro ⟨d', hd', hup, hq⟩
    obtain rfl := Option.some.inj (hd.symm.trans hd')
    rcases hfree with hfree | hfree
    · rw [hfree] at hup
      cases hup
    · rw [hfree] at hq
      cases hq
  exact ⟨mt h.listed hno, fun hbegun => hno (h.begun hbegun).1⟩

theorem Inv.opened (h : Inv k s) {ch : Chan} {openErr : ℤ} {conf out : SendOutcome}
    (hs : step k o s (.opened ch openErr conf out) = some s') : Inv k s' := by
  rw [step] at hs
  split at hs
  case h_1 => cases hs
  case h_2 d hd =>
    split at hs
    case isTrue => cases hs
    case isFalse hup =>
      obtain rfl := Option.some.inj hs
      have hok := h.chans ch
      obtain ⟨hmem, hbegun⟩ := hok.free hd (.inl (Bool.eq_false_of_not_eq_true hup))
      have hpc : Function.update s.pc ch (s.pc ch) = s.pc := Function.update_eq_self ch s.pc
      refine hpc ▸ h.setNet (fun _ hc => modify_of_ne hc _ _) (modify_eq_none _) rfl
        ⟨fun hin => absurd hin hmem, fun hb => ?_, fun hu => ?_⟩ h.owed
      · rw [hpc] at hb
        exact absurd hb hbegun
      · rw [hpc] at hu
        exact hok.up hu

theorem Inv.call (h : Inv k s) {ch : Chan} {skb : Skb} (hs : step k o s (.call ch skb) = some s') :
    Inv k s' := by
  rw [step] at hs
  split at hs
  case h_1 => cases hs
  case h_2 d hd =>
    split at hs
    case isTrue => cases hs
    case isFalse hfree =>
      simp only [ne_eq, not_or, not_not, Bool.not_eq_false, Bool.not_eq_true] at hfree
      obtain ⟨-, hup, hq⟩ := hfree
      obtain ⟨hmem, -⟩ := (h.chans ch).free hd (.inr hq)
      cases hi : skb.invalid with
      | true =>
        have hx : xmitEnter ch.2 skb (s.dev.net ch.1) =
            (.idle, (s.dev.net ch.1).modify ch.2 (.dropInvalidSkb skb)) := by
          rw [xmitEnter, hi, if_pos rfl]
        simp only [hx, Option.some.injEq] at hs
        subst hs
        exact h.over (fun hin => absurd hin hmem) h.owed
      | false =>
        have hx : xmitEnter ch.2 skb (s.dev.net ch.1) =
            (.stopped skb, (s.dev.net ch.1).modify ch.2 .netifStopQueue) := by
          rw [xmitEnter, hi, if_neg Bool.false_ne_true]
        simp only [hx, Option.some.injEq] at hs
        subst hs
        refine h.setNet (fun _ hc => modify_of_ne hc _ _) (modify_eq_none _) rfl
          ⟨fun hin => absurd hin hmem, fun _ => ⟨⟨d.netifStopQueue, ?_, hup, rfl⟩, hmem⟩,
            fun hu => ?_⟩ h.owed
        · rw [setNet_netdev, modify_self, show (s.dev.net ch.1).netdev ch.2 = some d from hd]
          rfl
        · simp [Function.update_self, Submitted] at hu

/-- The bookkeeping of the unanswered messages of a bus, where the message layer is set up. -/
theorem Inv.owed_add (h : Inv k s) {bus : Bus} {n : ℕ} (hn : n ≠ 0 → LayerUp bus s) :
    ∀ bus', 0 < Function.update s.owed bus (s.owed bus + n) bus' → LayerUp bus' s := by
  intro bus' hpos
  by_cases hb : bus' = bus
  · subst hb
    rw [Function.update_self] at hpos
    by_cases hn0 : n = 0
    · exact h.owed bus' (by omega)
    · exact hn hn0
  · rw [Function.update_of_ne hb] at hpos
    exact h.owed bus' hpos

/-- The message layer of a channel that submits a message is set up. -/
theorem Inv.settled (h : Inv k s) {ch : Chan} {out : XmitOutcome}
    (hC : Settled k s (.piece ch out)) {skb : Skb} (hpc : s.pc ch = .stopped skb)
    (hsent : out.send.err = 0) {d : NetDevice} (hd : s.dev.netdev ch = some d) :
    LayerUp ch.1 s := by
  obtain ⟨bus, c⟩ := ch
  by_cases hk : k = .mbus ∧ bus = .can
  · obtain ⟨hk, rfl⟩ := hk
    exact h.first hk c fun hnone => Option.some_ne_none d (hd.symm.trans hnone)
  · refine hC (fun hm => ?_) ⟨skb, hpc⟩ hsent
    cases bus with
    | can => exact absurd ⟨hm, rfl⟩ hk
    | lin => rfl

theorem Inv.owed_zero (h : Inv k s) (bus : Bus) :
    ∀ bus', 0 < Function.update s.owed bus (s.owed bus + 0) bus' → LayerUp bus' s :=
  h.owed_add fun hn => absurd rfl hn

section Piece

variable {ch : Chan} {out : XmitOutcome}

theorem Inv.submit (h : Inv k s) (hC : Settled k s (.piece ch out)) {skb : Skb}
    (hpc : s.pc ch = .stopped skb) (hs : step k o s (.piece ch out) = some s') : Inv k s' := by
  obtain ⟨⟨d, hd, hup, hq⟩, hmem⟩ := (h.chans ch).begun (by rw [hpc]; trivial)
  by_cases hsent : out.send.err = 0
  · obtain ⟨msg, hx⟩ := @xmitPhase_stopped_ok ch.1 _ _ _ hd out hsent skb
    have hlayer := h.settled hC hpc hsent hd
    simp only [step, hpc, hx, Option.some.injEq] at hs
    subst hs
    refine h.setNet (fun _ _ => rfl) Iff.rfl rfl ⟨fun hin => absurd hin hmem, fun _ => ⟨⟨d, ?_, hup, hq⟩, hmem⟩,
      fun _ => hlayer⟩ (h.owed_add fun _ => hlayer)
    rw [setNet_netdev]
    exact hd
  · have hx := @xmitPhase_stopped_err ch.1 _ _ _ hd out hsent skb
    simp only [step, hpc, hx, Option.some.injEq] at hs
    subst hs
    exact h.over (fun hin => absurd hin hmem) (h.owed_zero ch.1)

theorem Inv.putEcho (h : Inv k s) {skb : Skb} (hpc : s.pc ch = .submitted skb)
    (hs : step k o s (.piece ch out) = some s') : Inv k s' := by
  obtain ⟨⟨d, hd, hup, hq⟩, hmem⟩ := (h.chans ch).begun (by rw [hpc]; trivial)
  have hlayer := (h.chans ch).up (by rw [hpc]; trivial)
  have hd' : (s.dev.net ch.1).netdev ch.2 = some d := hd
  obtain ⟨hup', hq'⟩ := d.canPutEchoSkb_kept out.oom skb skb.frameLen
  simp only [step, hpc, xmitPhase, hd'] at hs
  generalize d.canPutEchoSkb out.oom skb skb.frameLen = put at hs hup' hq'
  obtain ⟨err, d'⟩ := put
  by_cases herr : err = 0
  · simp only [herr, ne_eq, not_true_eq_false, if_false, Option.some.injEq] at hs
    subst hs
    refine h.setNet (fun _ hc => modify_of_ne hc _ _) (modify_eq_none _)
      rfl ⟨fun hin => absurd hin hmem, fun _ => ⟨⟨d', ?_, hup'.trans hup, hq'.trans hq⟩, hmem⟩,
      fun _ => hlayer⟩ (h.owed_zero ch.1)
    rw [setNet_netdev, modify_self, hd']
    rfl
  · simp only [herr, ne_eq, not_false_eq_true, if_true, Option.some.injEq] at hs
    subst hs
    exact h.over (fun hin => absurd hin hmem) (h.owed_zero ch.1)

theorem Inv.append (h : Inv k s) {frameLen : ℕ} (hpc : s.pc ch = .echoed frameLen)
    (hs : step k o s (.piece ch out) = some s') : Inv k s' := by
  obtain ⟨⟨d, hd, hup, hq⟩, hmem⟩ := (h.chans ch).begun (by rw [hpc]; trivial)
  have hlayer := (h.chans ch).up (by rw [hpc]; trivial)
  have hx := @xmitPhase_echoed ch.1 _ _ _ hd out frameLen
  simp only [step, hpc, hx, Option.some.injEq] at hs
  subst hs
  have hlist : .listHead ch.1 ∈ s.done := hlayer _ List.mem_cons_self
  have hpending := ((h.lists ch.1).resolve_left fun hno => hno.1 hlist).2
  refine h.chan ch (Device.modifyNet_msgList ..) (fun bus hb => Device.modifyNet_of_ne hb _ _)
    (fun c hc => ?_) ?_ ⟨rfl, rfl⟩
    (fun ch' hne => Function.update_of_ne hne ..) (fun bus hb => Function.update_of_ne hb ..)
      (fun c hc => ?_)
    (.inr ⟨hlist, ?_⟩) ⟨fun _ => ⟨d, ?_, hup, hq⟩, fun hb => ?_,
      fun _ => hlayer⟩ (h.owed_zero ch.1) rfl
  · rw [Device.modifyNet_self]
    rfl
  · rw [setNet_netdev]
    exact Iff.rfl
  · simp [Function.update_self, hc]
  · rw [Device.modifyNet_self]
    simp only [Function.update_self]
    exact hpending.waitSendReply hmem
  · rw [setNet_netdev]
    exact hd
  · simp [Function.update_self, Begun] at hb

theorem Inv.sentQueue (h : Inv k s) {frameLen : ℕ} (hpc : s.pc ch = .linked frameLen)
    (hs : step k o s (.piece ch out) = some s') : Inv k s' := by
  have hok := h.chans ch
  cases hd : (s.dev.net ch.1).netdev ch.2 with
  | none =>
    simp only [step, hpc, xmitPhase, hd, Option.some.injEq] at hs
    subst hs
    refine h.setNet (fun _ _ => rfl) Iff.rfl rfl ⟨fun hin => ?_, fun hb => ?_,
      fun _ => hok.up (by rw [hpc]; trivial)⟩
      (h.owed_zero ch.1)
    · obtain ⟨d, hd', -⟩ := hok.listed hin
      exact absurd (hd.symm.trans hd') (by simp)
    · simp [Function.update_self, Begun] at hb
  | some d =>
    have hx := @xmitPhase_linked ch.1 _ _ _ hd out frameLen
    simp only [step, hpc, hx, Option.some.injEq] at hs
    subst hs
    exact h.over hok.listed (h.owed_zero ch.1)

theorem Inv.piece (h : Inv k s) (hC : Settled k s (.piece ch out))
    (hs : step k o s (.piece ch out) = some s') : Inv k s' := by
  cases hpc : s.pc ch with
  | idle => simp [step, hpc] at hs
  | stopped skb => exact h.submit hC hpc hs
  | submitted skb => exact h.putEcho hpc hs
  | echoed frameLen => exact h.append hpc hs
  | linked frameLen => exact h.sentQueue hpc hs

end Piece

/-- Where the message layer of a bus is set up, a send status of the bus finds its handler
and nothing else. -/
theorem Inv.found (h : Inv k s) {bus : Bus} (hlayer : LayerUp bus s) {msg : GuruData}
    (hid : msg.id = bus.sendId) (hcount : msg.dataCount = 1) :
    handlersOf s.dev.guru.msgList msg = [bus.sendCallback] := by
  obtain ⟨rest, hinit, -⟩ := h.init
  have hall : s.dev.guru.msgList ++ rest.flatMap InitStep.handlers = k.msgList := by
    rw [h.msgList, ← List.flatMap_append, hinit, handlers_initSteps]
  have hnodup : (s.dev.guru.msgList.map (·.msgId)).Nodup := by
    have hk := k.msgList_nodup
    rw [← hall, List.map_append] at hk
    exact hk.of_append_left
  have hmem : bus.sendHandler ∈ s.dev.guru.msgList := by
    have hstep : InitStep.addMsg bus.sendHandler ∈ s.done := hlayer _ (by cases bus <;> decide)
    rw [h.msgList]
    exact List.mem_flatMap.mpr ⟨_, hstep, List.mem_singleton_self _⟩
  rw [handlersOf_eq hnodup hmem hid.symm]
  simp [handlersOf, GuruMsg.Matches, Bus.sendHandler, hid, hcount]

/-- The dispatch of a send status that finds its handler. -/
theorem dispatch_send {guru : Guru} {bus : Bus} {msg : GuruData}
    (h : handlersOf guru.msgList msg = [bus.sendCallback]) :
    canguruProcessMsgList (runCallback true) guru msg =
      { guru with curr := .none, dev := guru.dev.modifyNet bus (·.sendCallback (msg.data.getD 0 0)) } := by
  rw [processMsgList_eq, h]
  cases bus <;> rfl

/-- Only what a change does to the message layer that is there matters. -/
theorem drv_modifyNet_congr {bus : Bus} {f g : MsgNet → MsgNet} {drv : Drv}
    (h : f (drv.net bus) = g (drv.net bus)) : drv.modifyNet bus f = drv.modifyNet bus g := by
  cases bus
  · exact congrArg (fun m => { drv with can := m }) h
  · exact congrArg (fun m => { drv with lin := m }) h

section Answer

variable {bus : Bus} {owed : Bus → ℕ} (howed : ∀ bus, 0 < owed bus → LayerUp bus s) (status : UInt8)

include howed

/-- A status that finds no entry is thrown away, which keeps the invariant. -/
theorem Inv.discard (h : Inv k s) (hw : s.waiting bus = [])
    (hpending : (s.dev.net bus).Pending []) : Inv k { s with
      dev := { s.dev with
        guru := { s.dev.guru with curr := .none, dev := s.dev.guru.dev.modifyNet bus (·.sendCallback status) } }
      owed := owed
      waiting := Function.update s.waiting bus [] } := by
  have hsame : s.dev.guru.dev.modifyNet bus (·.sendCallback status) = s.dev.guru.dev := by
    refine (drv_modifyNet_congr (g := id) (hpending.sendCallback_nil _)).trans ?_
    cases bus <;> rfl
  have hwaiting : Function.update s.waiting bus [] = s.waiting := by
    rw [← hw]
    exact Function.update_eq_self bus s.waiting
  rw [hsame, hwaiting]
  exact ⟨h.init, h.msgList, h.lists,
    fun ch => ⟨(h.chans ch).listed, (h.chans ch).begun, (h.chans ch).up⟩, h.created, h.first,
    howed, h.missed⟩

/-- A status that goes to the first channel that waits keeps the invariant. -/
theorem Inv.complete (h : Inv k s) (hlist : .listHead bus ∈ s.done) {c : ℕ} {cs : List ℕ}
    (hw : s.waiting bus = c :: cs) (hpending : (s.dev.net bus).Pending (c :: cs)) :
    Inv k { s with
      dev := { s.dev with
        guru := { s.dev.guru with curr := .none, dev := s.dev.guru.dev.modifyNet bus (·.sendCallback status) } }
      owed := owed
      waiting := Function.update s.waiting bus cs } := by
  have hhead : s.dev.guru.dev.modifyNet bus (·.sendCallback status) =
      s.dev.guru.dev.modifyNet bus fun m => (m.modify c (netSendCallback status)).delReply c :=
    drv_modifyNet_congr (hpending.sendCallback_cons _)
  have hnet :
    (s.dev.guru.dev.modifyNet bus fun m => (m.modify c (netSendCallback status)).delReply c).net bus =
      ((s.dev.net bus).modify c (netSendCallback status)).delReply c :=
    Device.modifyNet_self bus _ s.dev
  have hc : c ∉ cs := (List.nodup_cons.mp hpending.nodup).1
  rw [hhead]
  refine h.chan (bus, c) rfl (fun bus' hb => Device.modifyNet_of_ne hb _ s.dev) (fun c' hne => ?_)
    ?_ ⟨rfl, rfl⟩
    (fun _ _ => rfl) (fun bus' hb => Function.update_of_ne hb ..) (fun c' hne => ?_)
      (.inr ⟨hlist, ?_⟩)
    ⟨fun hin => ?_, fun hb => ?_, (h.chans (bus, c)).up⟩ howed rfl
  · exact (congrFun (congrArg MsgNet.netdev hnet) c').trans (modify_of_ne hne _ _)
  · have hentry := congrFun (congrArg MsgNet.netdev hnet) c
    rw [delReply_netdev, modify_self] at hentry
    refine (Iff.of_eq (congrArg (· = none) hentry)).trans ?_
    rw [Option.map_eq_none_iff]
    exact Iff.rfl
  · simp [hw, Ne.symm (Ne.symm hne)]
  · have hp : (((s.dev.net bus).modify c (netSendCallback status)).delReply c).Pending cs :=
      Pending.delReply (modify_pending.mpr hpending)
    rw [← hnet] at hp
    simpa using hp
  · exact absurd (by simpa using hin) hc
  · exact absurd (hw ▸ List.mem_cons_self) ((h.chans (bus, c)).begun hb).2

end Answer

theorem Inv.answer (h : Inv k s) {bus : Bus} {msg : GuruData}
    (hs : step k o s (.answer bus msg) = some s') : Inv k s' := by
  rw [step] at hs
  split at hs
  case isFalse => cases hs
  case isTrue hmsg =>
    obtain ⟨howed, hid, hcount⟩ := hmsg
    have hlayer := h.owed bus howed
    have hfound := h.found hlayer hid hcount
    have hlist : .listHead bus ∈ s.done := hlayer _ List.mem_cons_self
    have hpending := ((h.lists bus).resolve_left fun hno => hno.1 hlist).2
    have howed' : ∀ bus', 0 < Function.update s.owed bus (s.owed bus - 1) bus' →
        LayerUp bus' s := by
      intro bus' hpos
      by_cases hb : bus' = bus
      · exact hb ▸ hlayer
      · rw [Function.update_of_ne hb] at hpos
        exact h.owed bus' hpos
    simp only [hfound, List.mem_singleton, if_true, dispatch_send hfound, Option.some.injEq] at hs
    subst hs
    cases hw : s.waiting bus with
    | nil => exact h.discard howed' _ hw (hw ▸ hpending)
    | cons c cs => exact h.complete howed' _ hlist hw (hw ▸ hpending)

end Steps

/-- **One step**: a message that is submitted when the message layer of its bus is set up
keeps the invariant, and so does every other step. -/
theorem inv_step (k : DeviceKind) (o : ProbeOutcome) (s : St) (e : Event) (s' : St) (h : Inv k s)
    (hC : Settled k s e) (hs : step k o s e = some s') : Inv k s' := by
  cases e with
  | init => exact h.initStep hs
  | opened ch openErr conf out => exact h.opened hs
  | call ch skb => exact h.call hs
  | piece ch out => exact h.piece hC hs
  | answer bus msg => exact h.answer hs

/-- **The channels are usable** in every state of every run in which no message of a channel
is submitted before the message layer of its bus is set up, and on the CAN half of a
MultiBus in every run. -/
theorem usable_of_run {k : DeviceKind} {o : ProbeOutcome} {boots : GuruBoots} {b : ℕ}
    {es : List Event} (hC : Meets (step k o) (Settled k) (start k boots b) es) :
    Always (step k o) Usable (start k boots b) es :=
  (always_of_meets (inv_step k o) (inv_start k boots b) hC).mono fun _ => Inv.usable

/-! ### Two devices -/

/-- A channel of a MultiBus sends as soon as it is there. -/
theorem usable_mbus :
    Always (step .mbus .ok) Usable (start .mbus .empty 0)
      [.init, .init, .init, .init, .init, .init, .init, .init, .init, .init, .init,
        .opened (.can, 0) 0 .ok .ok,
        .call (.can, 0) emptySkb, .piece (.can, 0) .ok, .piece (.can, 0) .ok, .piece (.can, 0) .ok,
        .answer .can (.fill CAN_MSG_SEND [GURU_STATUS_DONE])] := by
  apply usable_of_run
  have hcan : ∀ s o, Settled .mbus s (.piece (.can, 0) o) := by
    intro s o hbus
    exact absurd (hbus rfl) (by decide)
  refine .cons rfl trivial (.cons rfl trivial (.cons rfl trivial (.cons rfl trivial (.cons rfl trivial
    (.cons rfl trivial (.cons rfl trivial (.cons rfl trivial (.cons rfl trivial (.cons rfl trivial
    (.cons rfl trivial (.cons rfl trivial (.cons rfl trivial (.cons rfl (hcan _ _) (.cons rfl (hcan _ _)
    (.cons rfl (hcan _ _) (.cons rfl trivial trivial))))))))))))))))

/-- A channel of a CAN Guru sends as soon as it is there: its entry is appended to what is
not a list yet. -/
theorem not_usable_canguru :
    ¬ Always (step .canguru .ok) Usable (start .canguru .empty 0)
      [.init, .init, .opened (.can, 0) 0 .ok .ok, .call (.can, 0) emptySkb, .piece (.can, 0) .ok,
        .piece (.can, 0) .ok, .piece (.can, 0) .ok] := by
  intro h
  rcases (h.last rfl).lists .can with hnil | hpending
  · exact absurd hnil (by decide)
  · exact absurd hpending.sound (by decide)

end EarlyUse

end CanGuru
