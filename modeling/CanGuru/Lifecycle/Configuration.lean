import CanGuru.Lib.Machine
import CanGuru.Channel

/-!
# The configuration of a channel

A device learns the bit rates and the mode of a channel by a message. A LIN channel sends
it when it is opened. A CAN channel sends it when a bit timing is set, and `ndo_open`
does not: what is set in `ctrlmode` after that, the device does not learn.

## The model

One channel of either bus. A step changes `ctrlmode`, which calls nothing of the driver,
changes a bit timing, which calls `do_set_bittiming` or `do_set_data_bittiming`, or is
`ndo_open` or `ndo_stop`; the changes come while the channel is down. Every message is
taken.

## What is proved

`agrees_iff` — a run goes only through states in which a channel that is enabled has the
configuration it was last told exactly when every CAN channel that is opened has had its
bit timing set since its mode was.
-/

namespace CanGuru

open Machine Packed

namespace Bus

/-- The id of the messages that configure a channel. -/
def confId : Bus → UInt16
  | .can => CAN_MSG_CONFIG_SET
  | .lin => LIN_MSG_CONFIG_SET

/-- The id of the messages that enable or disable a channel. -/
def enableId : Bus → UInt16
  | .can => CAN_MSG_ENABLE_SET
  | .lin => LIN_MSG_ENABLE_SET

/-- The configuration message for the bit rates and the mode a channel has. -/
def confData (d : NetDevice) : Bus → List UInt8
  | .can => (canguruConf d).toBytes
  | .lin =>
    d.channelIdx :: toLE 4 d.bittiming.bitrate.toNat ++
      [if d.ctrlmode &&& CAN_CTRLMODE_LISTENONLY ≠ 0 then LIN_MODE_MONITORING else LIN_MODE_MASTER_USER]

/-- `do_set_bittiming`, and the messages it sends. -/
def doSetBittiming (d : NetDevice) : Bus → List GuruData
  | .can => (canguruSetBittiming .ok .ok d).2
  | .lin => (linguruSetBittiming d).2

/-- `do_set_data_bittiming`, which LIN channels do not have. -/
def doSetDataBittiming (d : NetDevice) : Bus → List GuruData
  | .can => (canguruSetBittiming .ok .ok d).2
  | .lin => []

/-- What `ndo_open` sends of the configuration. -/
def openConf (d : NetDevice) : Bus → List GuruData
  | .can => []
  | .lin => [.fill LIN_MSG_CONFIG_SET (Bus.lin.confData d)]

end Bus

namespace Configuration

/-- A channel. -/
structure St where
  /-- Its net device. -/
  dev : NetDevice
  /-- The messages sent for it, newest last. -/
  sent : List GuruData
  /-- Its `ctrlmode` when a bit timing was last set, if one was. -/
  timed : Option UInt32

/-- The steps. -/
inductive Event where
  /-- `ctrlmode` is changed. -/
  | setCtrlmode (mode : UInt32)
  /-- The bit timing is changed. -/
  | setBittiming (bt : CanBittiming)
  /-- The data bit timing is changed. -/
  | setDataBittiming (bt : CanBittiming)
  /-- `ndo_open`, with what `open_candev` returns. -/
  | opened (openErr : ℤ)
  /-- `ndo_stop`. -/
  | stop

/-- What a step does, where it can happen. -/
def step (bus : Bus) (s : St) : Event → Option St
  | .setCtrlmode mode =>
    if s.dev.up then none else some { s with dev := { s.dev with ctrlmode := mode } }
  | .setBittiming bt =>
    if s.dev.up then none
    else
      let d := { s.dev with bittiming := bt }
      some { dev := d, sent := s.sent ++ bus.doSetBittiming d, timed := some d.ctrlmode }
  | .setDataBittiming bt =>
    if s.dev.up then none
    else
      let d := { s.dev with dataBittiming := bt }
      some { dev := d, sent := s.sent ++ bus.doSetDataBittiming d, timed := some d.ctrlmode }
  | .opened openErr =>
    if s.dev.up then none
    else
      let (err, d, out) := bus.opsOpen openErr .ok .ok s.dev
      some { s with dev := { d with up := err = 0 }, sent := s.sent ++ out }
  | .stop =>
    if !s.dev.up then none
    else
      let (d, out) := bus.opsClose .ok s.dev
      some { s with dev := { d with up := false }, sent := s.sent ++ out }

/-- The data of the last message with an id that was sent for the channel. -/
def lastSent (iface : UInt8) (id : UInt16) (sent : List GuruData) : Option (List UInt8) :=
  ((sent.filter fun m => m.id = id ∧ m.data.head? = some iface).getLast?).map GuruData.data

/-- The last enable message sent for the channel enables it. -/
def Enabled (bus : Bus) (s : St) : Prop :=
  lastSent s.dev.channelIdx bus.enableId s.sent = some [s.dev.channelIdx, 1]

/-- **The device has the configuration of the channel** if the channel is enabled. -/
def Agrees (bus : Bus) (s : St) : Prop :=
  Enabled bus s → lastSent s.dev.channelIdx bus.confId s.sent = some (bus.confData s.dev)

/-- A channel that was just created. -/
structure Start (bus : Bus) (s : St) : Prop where
  /-- It is down. -/
  up : s.dev.up = false
  /-- It was not configured, enabled or disabled. -/
  sent : ∀ m ∈ s.sent, m.id ≠ bus.confId ∧ m.id ≠ bus.enableId
  /-- Its bit timing was not set. -/
  timed : s.timed = none

/-- Two modes tell the device the same. -/
def SameMode (m m' : UInt32) : Prop :=
  (m &&& CAN_CTRLMODE_FD ≠ 0 ↔ m' &&& CAN_CTRLMODE_FD ≠ 0) ∧
    (m &&& CAN_CTRLMODE_LISTENONLY ≠ 0 ↔ m' &&& CAN_CTRLMODE_LISTENONLY ≠ 0)

/-- A CAN channel that is opened has had its bit timing set, in the mode it has now. -/
def Timed (bus : Bus) (s : St) : Event → Prop
  | .opened openErr => bus = .can → openErr = 0 → ∃ m, s.timed = some m ∧ SameMode m s.dev.ctrlmode
  | _ => True

/-! ### Messages -/

section Messages

variable {iface : UInt8} {id : UInt16} {sent out : List GuruData}

theorem lastSent_other (h : ∀ m ∈ out, m.id ≠ id) :
    lastSent iface id (sent ++ out) = lastSent iface id sent := by
  have hnil : (out.filter fun m => m.id = id ∧ m.data.head? = some iface) = [] := by
    refine List.filter_eq_nil_iff.mpr fun m hm hid => ?_
    exact h m hm (of_decide_eq_true hid).1
  rw [lastSent, List.filter_append, hnil, List.append_nil, lastSent]

/-- A message for the channel is the last one. -/
theorem lastSent_last (data : List UInt8) :
    lastSent iface id (sent ++ [.fill id (iface :: data)]) = some (iface :: data) := by
  simp [lastSent, List.filter_append, GuruData.fill]

theorem lastSent_none (h : ∀ m ∈ sent, m.id ≠ id) : lastSent iface id sent = none := by
  have hnone := @lastSent_other iface id [] sent h
  rwa [List.nil_append] at hnone

/-- A message that enables or disables a channel is no configuration. -/
theorem enable_ne_conf {bus : Bus} {data : List UInt8} :
    ∀ m ∈ [GuruData.fill bus.enableId data], m.id ≠ bus.confId := by
  intro m hm
  obtain rfl := List.mem_singleton.mp hm
  show bus.enableId ≠ bus.confId
  cases bus <;> decide

end Messages

/-- The configuration of a CAN channel says of its mode which flags it has. -/
theorem canguruConf_mode (d : NetDevice) (m : UInt32) :
    (canguruConf { d with ctrlmode := m }).toBytes = Bus.can.confData d ↔
      SameMode m d.ctrlmode := by
  rw [Bus.confData, CanConfMsg.toBytes, CanConfMsg.toBytes]
  simp only [canguruConf, List.append_cancel_left_eq, SameMode, List.cons.injEq, and_true]
  refine and_congr ?_ ?_
  · by_cases h : m &&& CAN_CTRLMODE_FD ≠ 0 <;> by_cases h' : d.ctrlmode &&& CAN_CTRLMODE_FD ≠ 0 <;>
      simp [h, h']
  · by_cases h : m &&& CAN_CTRLMODE_LISTENONLY ≠ 0 <;>
      by_cases h' : d.ctrlmode &&& CAN_CTRLMODE_LISTENONLY ≠ 0 <;>
      simp [h, h', CAN_BUS_MONITORING, CAN_NORMAL]

/-- Two net devices have the same number, bit rates and mode. -/
structure SameConf (d d' : NetDevice) : Prop where
  /-- The numbers. -/
  channelIdx : d'.channelIdx = d.channelIdx
  /-- The modes. -/
  ctrlmode : d'.ctrlmode = d.ctrlmode
  /-- The bit timings. -/
  bittiming : d'.bittiming = d.bittiming
  /-- The data bit timings. -/
  dataBittiming : d'.dataBittiming = d.dataBittiming

/-- The configuration is that of the number, the bit rates and the mode. -/
theorem SameConf.confData {d d' : NetDevice} (h : SameConf d d') (bus : Bus) :
    bus.confData d' = bus.confData d := by
  obtain ⟨hidx, hmode, hbt, hdbt⟩ := h
  cases bus <;> simp only [Bus.confData, canguruConf, hidx, hmode, hbt, hdbt]

theorem SameConf.opsClose (bus : Bus) (d : NetDevice) : SameConf d (bus.opsClose .ok d).1 := by
  obtain ⟨stats, disposed, hclose⟩ := bus.opsClose_eq .ok d
  rw [hclose]
  exact ⟨rfl, rfl, rfl, rfl⟩

/-! ### The invariant -/

/-- What the device was told of the bit rates and the mode. -/
def Told (s : St) : Bus → Prop
  | .can =>
    lastSent s.dev.channelIdx CAN_MSG_CONFIG_SET s.sent =
      s.timed.map fun m => (canguruConf { s.dev with ctrlmode := m }).toBytes
  | .lin => True

/-- The invariant. -/
structure Inv (bus : Bus) (s : St) : Prop where
  /-- A channel that is enabled is up. -/
  enabled : Enabled bus s → s.dev.up = true
  /-- The device has the configuration of a channel that is up. -/
  conf : s.dev.up = true → lastSent s.dev.channelIdx bus.confId s.sent = some (bus.confData s.dev)
  /-- What a CAN channel told is what it had when its bit timing was set. -/
  told : Told s bus

theorem Start.inv {bus : Bus} {s : St} (h : Start bus s) : Inv bus s where
  enabled := by
    intro he
    rw [Enabled, lastSent_none fun m hm => (h.sent m hm).2] at he
    cases he
  conf := by simp [h.up]
  told := by
    cases bus with
    | can =>
      rw [Told, h.timed]
      exact lastSent_none fun m hm => (h.sent m hm).1
    | lin => trivial

/-- **The invariant gives the property.** -/
theorem Inv.agrees {bus : Bus} {s : St} (h : Inv bus s) : Agrees bus s :=
  fun he => h.conf (h.enabled he)

section Steps

variable {bus : Bus} {s s' : St}

theorem Inv.setCtrlmode (h : Inv bus s) {mode : UInt32}
    (hs : step bus s (.setCtrlmode mode) = some s') : Inv bus s' := by
  rw [step] at hs
  split at hs
  case isTrue => cases hs
  case isFalse hup =>
    obtain rfl := Option.some.inj hs
    refine ⟨fun he => absurd (h.enabled he) hup, fun hup' => absurd hup' hup, ?_⟩
    cases bus with
    | can => exact h.told
    | lin => trivial

/-- The messages of a CAN channel whose bit timing is set. -/
theorem canguruSetBittiming_ok (d : NetDevice) : ∃ timing, (canguruSetBittiming .ok .ok d).2 =
    [.fill CAN_MSG_CONFIG_SET (canguruConf d).toBytes, .fill CAN_MSG_TIMING_SET timing] := ⟨_, rfl⟩

theorem Inv.retimed (h : Inv bus s) (hup : ¬ s.dev.up = true) {d : NetDevice} (hd : d.up = s.dev.up)
    (hidx : d.channelIdx = s.dev.channelIdx) {out : List GuruData}
    (hcan : bus = .can → out = (canguruSetBittiming .ok .ok d).2) (hlin : bus = .lin → out = []) :
    Inv bus { dev := d, sent := s.sent ++ out, timed := some d.ctrlmode } := by
  have hup' : ¬ d.up = true := hd ▸ hup
  constructor
  case enabled =>
    intro he
    refine absurd (h.enabled ?_) hup
    cases bus with
    | can =>
      obtain ⟨timing, hout⟩ := canguruSetBittiming_ok d
      rw [Enabled, hcan rfl, hout, lastSent_other ?_] at he
      · rw [Enabled, ← hidx]
        exact he
      · simp [GuruData.fill, Bus.enableId, CAN_MSG_CONFIG_SET, CAN_MSG_TIMING_SET,
          CAN_MSG_ENABLE_SET]
    | lin =>
      simp only [Enabled, hlin rfl, List.append_nil] at he
      rw [Enabled, ← hidx]
      exact he
  case conf => exact fun h => absurd h hup'
  case told =>
    cases bus with
    | lin => trivial
    | can =>
      obtain ⟨timing, hout⟩ := canguruSetBittiming_ok d
      have happend : s.sent ++ out = s.sent ++ [.fill CAN_MSG_CONFIG_SET (canguruConf d).toBytes] ++
          [.fill CAN_MSG_TIMING_SET timing] := by
        rw [hcan rfl, hout, List.append_assoc]
        rfl
      rw [Told, happend,
        lastSent_other (by simp [GuruData.fill, CAN_MSG_CONFIG_SET, CAN_MSG_TIMING_SET])]
      exact lastSent_last _

/-- What `ndo_open` does: it fails and sends nothing, or it sends the configuration of a
LIN channel and enables the channel. -/
theorem step_opened {openErr : ℤ} (hs : step bus s (.opened openErr) = some s') :
    s.dev.up = false ∧ (openErr ≠ 0 ∧ s' = s ∨
      openErr = 0 ∧ ∃ d, SameConf s.dev d ∧ d.up = true ∧
        s' = ⟨d, s.sent ++ bus.openConf s.dev ++ [.fill bus.enableId [s.dev.channelIdx, 1]], s.timed⟩) := by
  rw [step] at hs
  split at hs
  case isTrue => cases hs
  case isFalse hup =>
    have hup : s.dev.up = false := Bool.eq_false_of_not_eq_true hup
    refine ⟨hup, ?_⟩
    by_cases he : openErr = 0
    · subst he
      obtain rfl := Option.some.inj hs
      refine .inr ⟨rfl, { (bus.opsOpen 0 .ok .ok s.dev).2.1 with up := true }, ?_⟩
      cases bus with
      | can => exact ⟨⟨rfl, rfl, rfl, rfl⟩, rfl, by rw [Bus.openConf, List.append_nil]; rfl⟩
      | lin => exact ⟨⟨rfl, rfl, rfl, rfl⟩, rfl, by rw [List.append_assoc]; rfl⟩
    · rw [bus.opsOpen_fail he] at hs
      obtain rfl := Option.some.inj hs
      refine .inl ⟨he, ?_⟩
      simp only [List.append_nil, he, decide_false, ← hup]

theorem step_stop (hs : step bus s .stop = some s') : ∃ d, SameConf s.dev d ∧ d.up = false ∧
    s' = ⟨d, s.sent ++ [.fill bus.enableId [s.dev.channelIdx, 0]], s.timed⟩ := by
  rw [step] at hs
  split at hs
  case isTrue => cases hs
  case isFalse =>
    obtain rfl := Option.some.inj hs
    obtain ⟨hidx, hmode, hbt, hdbt⟩ := SameConf.opsClose bus s.dev
    exact ⟨{ (bus.opsClose .ok s.dev).1 with up := false }, ⟨hidx, hmode, hbt, hdbt⟩, rfl,
      by cases bus <;> rfl⟩

/-- What was told stays so while no configuration is sent. -/
theorem Told.append (h : Told s bus) {d : NetDevice} (hd : SameConf s.dev d) {out : List GuruData}
    (hout : bus = .can → ∀ m ∈ out, m.id ≠ CAN_MSG_CONFIG_SET) :
    Told ⟨d, s.sent ++ out, s.timed⟩ bus := by
  cases bus with
  | lin => trivial
  | can =>
    obtain ⟨hidx, -, hbt, hdbt⟩ := hd
    simp only [Told, canguruConf, lastSent_other (hout rfl), hidx, hbt, hdbt]
    exact h

/-- An open keeps the invariant if the bit timing was set in the mode the channel has. -/
theorem Inv.opened (h : Inv bus s) {openErr : ℤ} (hC : Timed bus s (.opened openErr))
    (hs : step bus s (.opened openErr) = some s') : Inv bus s' := by
  obtain ⟨-, ⟨-, rfl⟩ | ⟨he, d, hd, hup, rfl⟩⟩ := step_opened hs
  · exact h
  · refine ⟨fun _ => hup, fun _ => ?_, ?_⟩
    · rw [hd.confData, hd.channelIdx, lastSent_other enable_ne_conf]
      cases bus with
      | can =>
        obtain ⟨m, hm, hmode⟩ := hC rfl he
        have htold := h.told
        rw [Told, hm] at htold
        rw [Bus.openConf, List.append_nil]
        exact htold.trans (congrArg some ((canguruConf_mode s.dev m).mpr hmode))
      | lin => exact lastSent_last _
    · rw [List.append_assoc]
      refine h.told.append hd fun hbus => ?_
      subst hbus
      exact enable_ne_conf

theorem Inv.stop (h : Inv bus s) (hs : step bus s .stop = some s') : Inv bus s' := by
  obtain ⟨d, hd, hup, rfl⟩ := step_stop hs
  refine ⟨fun he => ?_, fun hup' => ?_, ?_⟩
  · rw [Enabled, hd.channelIdx, lastSent_last] at he
    simp at he
  · rw [hup] at hup'
    cases hup'
  · refine h.told.append hd fun hbus => ?_
    subst hbus
    exact enable_ne_conf

/-- A step of the two that set a bit timing. -/
theorem Inv.set (h : Inv bus s) {d : NetDevice} {out : List GuruData} (hup : d.up = s.dev.up)
    (hidx : d.channelIdx = s.dev.channelIdx)
    (hcan : bus = .can → out = (canguruSetBittiming .ok .ok d).2) (hlin : bus = .lin → out = [])
    (hs : (if s.dev.up then none else some ({ dev := d, sent := s.sent ++ out, timed := some d.ctrlmode } : St)) =
      some s') :
    Inv bus s' := by
  split at hs
  case isTrue => cases hs
  case isFalse hdown =>
    obtain rfl := Option.some.inj hs
    exact h.retimed hdown hup hidx hcan hlin

/-- **One step**: an open of a channel that has had its bit timing set keeps the
invariant, and so does every other step. -/
theorem inv_step (e : Event) (h : Inv bus s) (hC : Timed bus s e) (hs : step bus s e = some s') :
    Inv bus s' := by
  cases e with
  | setCtrlmode mode => exact h.setCtrlmode hs
  | setBittiming bt =>
    refine h.set (d := { s.dev with bittiming := bt }) rfl rfl ?_ ?_ hs
    · rintro rfl; rfl
    · rintro rfl; rfl
  | setDataBittiming bt =>
    refine h.set (d := { s.dev with dataBittiming := bt }) rfl rfl ?_ ?_ hs
    · rintro rfl; rfl
    · rintro rfl; rfl
  | opened openErr => exact h.opened hC hs
  | stop => exact h.stop hs

/-- A CAN channel that is opened without its bit timing set is enabled with another
configuration, or with none. -/
theorem not_agrees {e : Event} (h : Inv bus s) (hC : ¬ Timed bus s e)
    (hs : step bus s e = some s') : ¬ Agrees bus s' := by
  cases e with
  | opened openErr =>
    simp only [Timed, not_forall] at hC
    obtain ⟨rfl, rfl, hC⟩ := hC
    obtain ⟨-, ⟨he, -⟩ | ⟨-, d, hd, hup, rfl⟩⟩ := step_opened hs
    · exact absurd rfl he
    intro hag
    have hconf := hag (by rw [Enabled, hd.channelIdx]; exact lastSent_last _)
    rw [hd.confData, hd.channelIdx, lastSent_other enable_ne_conf, Bus.openConf,
      List.append_nil] at hconf
    obtain ⟨m, hm, hbytes⟩ := Option.map_eq_some_iff.mp (h.told.symm.trans hconf)
    exact hC ⟨m, hm, (canguruConf_mode s.dev m).mp hbytes⟩
  | setCtrlmode mode => exact absurd trivial hC
  | setBittiming bt => exact absurd trivial hC
  | setDataBittiming bt => exact absurd trivial hC
  | stop => exact absurd trivial hC

end Steps

/-- **The device has the configuration of a channel that is enabled** exactly when every
CAN channel that is opened has had its bit timing set since its mode was. -/
theorem agrees_iff {bus : Bus} {s t : St} (hs : Start bus s) {es : List Event}
    (hr : run (step bus) s es = some t) :
    Always (step bus) (Agrees bus) s es ↔ Meets (step bus) (Timed bus) s es :=
  always_iff_meets (fun _ e _ h hC hs => inv_step e h hC hs) (fun _ h => h.agrees)
    (fun _ _ _ h hC hs => not_agrees h hC hs) hs.inv hr

/-! ### A fresh channel -/

/-- A channel that was just created. -/
def fresh : St := ⟨.create 0, [], none⟩

theorem start_fresh (bus : Bus) : Start bus fresh := ⟨rfl, by simp [fresh], rfl⟩

/-- The bit timing of 500 kbit/s. -/
def fast : CanBittiming := ⟨500000, 875, 1, 9⟩

/-- The mode comes before the bit timing. -/
theorem agrees_ordered : Always (step .can) (Agrees .can) fresh
    [.setCtrlmode CAN_CTRLMODE_LISTENONLY, .setBittiming fast, .opened 0] := by
  apply (agrees_iff (start_fresh .can) rfl).mpr
  refine .cons rfl trivial (.cons rfl trivial (.cons rfl ?_ trivial))
  exact fun _ _ => ⟨CAN_CTRLMODE_LISTENONLY, rfl, Iff.rfl, Iff.rfl⟩

/-- The mode comes after the bit timing: a bus that is only to be listened to is not. -/
theorem not_agrees_listenonly : ¬ Always (step .can) (Agrees .can) fresh
    [.setBittiming fast, .setCtrlmode CAN_CTRLMODE_LISTENONLY, .opened 0] := by
  intro h
  exact absurd (h.last rfl rfl) (by decide)

end Configuration

end CanGuru
