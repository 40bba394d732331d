import CanGuru.Lib.Machine
import CanGuru.Lib.Replica
import CanGuru.Link.Frames
import CanGuru.Device

/-!
# What a device is told of its channels

The settings of a channel live twice: in its net device, where the kernel keeps them, and in
the device, which the driver tells of them. It tells by messages that may fail, it never asks
back, and a received message never changes a setting.

## The model

A whole device, with any channels of both buses. A step creates a channel, is a call of one of
the operations the kernel has for it, with how its messages end, or is a received message of
any id and content. What was submitted is kept as the bytes of each transfer.

The firmware is not part of the sources, so it is a parameter: how it reads an order out of
these bytes, what an order does to what it keeps for a channel, and what of that concerns the
driver. `Firmware.Understands` is all that is assumed of it, in the terms of the messages: that
it reads each packed structure the way it is declared, whatever its fields hold, and does what
the name of the message says. What it keeps at the start is any. The orders for different
channels may overtake each other on the way.

The kernel keeps a termination only if the driver took it. It keeps a mode and a bit timing in
any case; `Info` notes whether the driver has told them since.

## What is proved

* `setUp_tells`, `setBittiming_tells`, `opsOpen_tells` — what a firmware reads in the messages of
  an operation.
* `dispatch_settings` — a received message changes no setting.
* `createChannel_isSome` — the step that creates a channel is a turn of the init function.
* `mirror_of_run` — **the device mirrors its channels**: in every state of every run it has the
  termination the kernel has, the mode and the bit timings of a channel whose last call to tell
  them returned `0`, those of every LIN channel that is up, and a channel enabled exactly when
  it is up if the last message about that was taken; it is to report every frame; and of what
  is no channel it heard nothing but a reset.
* `plain_understands` — there is such a firmware.
-/

namespace CanGuru

open Machine MsgNet Packed Replica

namespace Mirror

/-! ### The device -/

/-- The mode and the bit rates of a channel. -/
structure Conf where
  /-- The bit rate, of the arbitration phase on CAN. -/
  bitrate : UInt32
  /-- The bit rate of the data phase, on CAN. -/
  dataBitrate : UInt32
  /-- CAN FD. -/
  fd : Bool
  /-- The channel only listens. -/
  listenOnly : Bool
  deriving DecidableEq

/-- Which frames of a CAN channel to report. -/
structure Filter where
  /-- All standard frames are by default accepted. -/
  stdDefaultAllow : Bool
  /-- All extended frames are by default accepted. -/
  extDefaultAllow : Bool
  /-- Reject all standard remote frames. -/
  stdRemoteReject : Bool
  /-- Reject all extended remote frames. -/
  extRemoteReject : Bool
  deriving DecidableEq

/-- What a device is told about a channel. -/
inductive Order where
  /-- Forget all settings. -/
  | reset
  /-- The mode and the bit rates. -/
  | config (conf : Conf)
  /-- The timing of the two phases. -/
  | timing (nominal data : CanTiming)
  /-- Which frames to report. -/
  | filter (flags : Filter)
  /-- Take part in the traffic, or not. -/
  | enable (on : Bool)
  /-- Switch the termination, or the pull-up of a LIN master. -/
  | termination (on : Bool)
  deriving DecidableEq

/-- What a device keeps for a channel. -/
structure Port where
  /-- The mode and the bit rates. -/
  conf : Option Conf
  /-- The timing of the two phases. -/
  timing : Option (CanTiming × CanTiming)
  /-- Which frames to report. -/
  filter : Option Filter
  /-- The channel is enabled. -/
  enabled : Bool
  /-- The termination is on. -/
  termination : Bool
  deriving DecidableEq

/-- A channel as a message names it: the bus is told by the id, and the number by a byte. -/
abbrev PortId := Bus × UInt8

/-- A firmware, which keeps a `φ` for every channel. -/
structure Firmware (φ : Type*) where
  /-- The order in the bytes of a transfer, if there is one. -/
  read : List UInt8 → Option (PortId × Order)
  /-- What an order does to what is kept for the channel. -/
  obey : Order → φ → φ
  /-- What of it concerns the driver. -/
  port : φ → Port

/-- `CAN_MSG_RESET`, `LIN_MSG_RESET`. -/
def resetId : Bus → UInt16
  | .can => CAN_MSG_RESET
  | .lin => LIN_MSG_RESET

/-- `CAN_MSG_ENABLE_SET`, `LIN_MSG_ENABLE_SET`. -/
def enableId : Bus → UInt16
  | .can => CAN_MSG_ENABLE_SET
  | .lin => LIN_MSG_ENABLE_SET

/-- `CAN_MSG_TER_ENABLE`, `LIN_MSG_MASTER_ENABLE_SET`. -/
def terminationId : Bus → UInt16
  | .can => CAN_MSG_TER_ENABLE
  | .lin => LIN_MSG_MASTER_ENABLE_SET

namespace Firmware

variable {φ : Type*}

/-- **What is assumed of a firmware**: it reads the messages as they are declared, and an order
sets what its name says and nothing else. -/
structure Understands (fw : Firmware φ) : Prop where
  /-- `struct can_conf_msg`. -/
  readConfig : ∀ msg : CanConfMsg, fw.read (GuruData.fill CAN_MSG_CONFIG_SET msg.toBytes).toBytes =
    some ((.can, msg.iface),
      .config ⟨msg.baudRateA, msg.baudRateD, msg.canFdEnable ≠ 0, msg.canMode = CAN_BUS_MONITORING⟩)
  /-- `struct lin_conf_msg`. -/
  readLinConfig : ∀ (iface : UInt8) (bitrate : UInt32) (mode : UInt8),
    fw.read (GuruData.fill LIN_MSG_CONFIG_SET (iface :: toLE 4 bitrate.toNat ++ [mode])).toBytes =
      some ((.lin, iface), .config ⟨bitrate, 0, false, mode = LIN_MODE_MONITORING⟩)
  /-- `struct can_timing_msg`. -/
  readTiming : ∀ (iface : UInt8) (nominal data : CanTiming),
    fw.read (GuruData.fill CAN_MSG_TIMING_SET (iface :: nominal.toBytes ++ data.toBytes)).toBytes =
      some ((.can, iface), .timing nominal data)
  /-- `struct can_global_filter_msg`. -/
  readFilter : ∀ (iface : UInt8) (stdAllow extAllow stdReject extReject : Bool),
    fw.read (GuruData.fill CAN_MSG_GLOBAL_FILTER_SET
        [iface, stdAllow.toUInt8, extAllow.toUInt8, stdReject.toUInt8, extReject.toUInt8]).toBytes =
      some ((.can, iface), .filter ⟨stdAllow, extAllow, stdReject, extReject⟩)
  /-- A reset is the number of the channel. -/
  readReset : ∀ (bus : Bus) (iface : UInt8),
    fw.read (GuruData.fill (resetId bus) [iface]).toBytes = some ((bus, iface), .reset)
  /-- `struct can_enable_msg`, `struct lin_enable_msg`. -/
  readEnable : ∀ (bus : Bus) (iface : UInt8) (on : Bool),
    fw.read (GuruData.fill (enableId bus) [iface, on.toUInt8]).toBytes =
      some ((bus, iface), .enable on)
  /-- The same structures. -/
  readTermination : ∀ (bus : Bus) (iface : UInt8) (on : Bool),
    fw.read (GuruData.fill (terminationId bus) [iface, on.toUInt8]).toBytes =
      some ((bus, iface), .termination on)
  /-- A frame and a question are no orders. -/
  readOther : ∀ id ∈ [CAN_MSG_SEND, LIN_MSG_SEND, GURU_MSG_GET_VERSION, LIN_MSG_VOLT_GET],
    ∀ data, fw.read (GuruData.fill id data).toBytes = none
  /-- A channel that was reset takes no part in the traffic and has no termination. -/
  reset : ∀ f, (fw.port (fw.obey .reset f)).enabled = false ∧
    (fw.port (fw.obey .reset f)).termination = false
  /-- The mode and the bit rates are set. -/
  config : ∀ conf f, fw.port (fw.obey (.config conf) f) = { fw.port f with conf := some conf }
  /-- The timing is set. -/
  timing : ∀ nominal data f,
    fw.port (fw.obey (.timing nominal data) f) = { fw.port f with timing := some (nominal, data) }
  /-- The filter is set. -/
  filter : ∀ flags f, fw.port (fw.obey (.filter flags) f) = { fw.port f with filter := some flags }
  /-- The channel is enabled or disabled. -/
  enable : ∀ on f, fw.port (fw.obey (.enable on) f) = { fw.port f with enabled := on }
  /-- The termination is switched. -/
  termination : ∀ on f, fw.port (fw.obey (.termination on) f) = { fw.port f with termination := on }

/-- What a device keeps that kept `r` and received `wire`. -/
def device (fw : Firmware φ) (r : PortId → φ) (wire : List (List UInt8)) : PortId → φ :=
  replay fw.read fw.obey r wire

end Firmware

/-! ### The driver -/

/-- The settings the kernel keeps for a channel, with its number. -/
structure Settings where
  /-- `channel_idx`. -/
  channelIdx : UInt8
  /-- `IFF_UP`. -/
  up : Bool
  /-- `can.ctrlmode`. -/
  ctrlmode : UInt32
  /-- `can.bittiming`. -/
  bittiming : CanBittiming
  /-- `can.data_bittiming`. -/
  dataBittiming : CanBittiming
  deriving DecidableEq

/-- The settings of a net device. -/
def settingsOf (d : NetDevice) : Settings :=
  ⟨d.channelIdx, d.up, d.ctrlmode, d.bittiming, d.dataBittiming⟩

/-- The mode and the bit rates of a channel, as the device should have them. -/
def Settings.conf (st : Settings) : Bus → Conf
  | .can =>
    { bitrate := st.bittiming.bitrate
      dataBitrate := st.dataBittiming.bitrate
      fd := st.ctrlmode &&& CAN_CTRLMODE_FD ≠ 0
      listenOnly := st.ctrlmode &&& CAN_CTRLMODE_LISTENONLY ≠ 0 }
  | .lin =>
    { bitrate := st.bittiming.bitrate
      dataBitrate := 0
      fd := false
      listenOnly := st.ctrlmode &&& CAN_CTRLMODE_LISTENONLY ≠ 0 }

/-- What else is kept for a channel. -/
structure Info where
  /-- `can.termination`. -/
  termination : UInt16
  /-- The last call that tells the mode and the bit timings returned `0`, and they are still
  those. -/
  synced : Bool
  /-- The last message that enables or disables the channel was taken. -/
  told : Bool

/-- A channel that was just created. -/
def Info.fresh : Info := ⟨CAN_TERMINATION_DISABLED, false, true⟩

/-- The driver, and what it has submitted. -/
structure St where
  /-- The driver. -/
  guru : Guru
  /-- What else is kept for the channels. -/
  info : Chan → Info
  /-- The transfers. -/
  wire : List (List UInt8)

namespace St

/-- The net device of a channel. -/
def netdev (s : St) (ch : Chan) : Option NetDevice := (s.guru.dev.net ch.1).netdev ch.2

/-- The settings of a channel. -/
def settings (s : St) (ch : Chan) : Option Settings := (s.netdev ch).map settingsOf

/-- The messages that were taken are submitted. -/
def submit (out : List GuruData) (s : St) : St :=
  { s with wire := s.wire ++ out.map GuruData.toBytes }

/-- A channel becomes `d`. -/
def setDev (ch : Chan) (d : NetDevice) (info : Info) (s : St) : St :=
  { s with
    guru :=
      { s.guru with
        dev := s.guru.dev.modifyNet ch.1 fun m => { m with netdev := Function.update m.netdev ch.2 (some d) } }
    info := Function.update s.info ch info }

/-- What an operation makes of a channel that is down. -/
def whenDown (ch : Chan) (f : NetDevice → St) (s : St) : Option St :=
  match s.netdev ch with
  | none => none
  | some d => if d.up then none else some (f d)

end St

/-- `termination_const` of a bus. -/
def terminationConst : Bus → List UInt16
  | .can => canguruTermination
  | .lin => linguruTermination

/-- `do_set_termination`. -/
def setTermination (o : SendOutcome) (term : UInt16) (d : NetDevice) : Bus → ℤ × List GuruData
  | .can => canguruSetTermination o term d
  | .lin => linguruSetTermination o term d

/-- `do_set_bittiming`. -/
def setBittiming (conf timing : SendOutcome) (d : NetDevice) : Bus → ℤ × List GuruData
  | .can => canguruSetBittiming conf timing d
  | .lin => linguruSetBittiming d

/-- The messages of `canguru_net_create` and `linguru_net_create`. -/
def setUp (o : CreateOutcome) (d : NetDevice) : Bus → ℤ × List GuruData
  | .can =>
    let (err, out) := canguruCanReset o.reset d
    if err ≠ 0 then (err, out)
    else
      let (err, out') := canguruSetGlobalFilter o.filter d
      (err, out ++ out')
  | .lin => linguruLinReset o.reset d

/-- A call of `ndo_open` that returns `err`. -/
def Info.opened (bus : Bus) (openErr : ℤ) (conf o : SendOutcome) (err : ℤ)
    (info : Info) : Info where
  termination := info.termination
  synced := info.synced ∨ bus = .lin ∧ openErr = 0 ∧ conf.err = 0
  told := if err = 0 then o.err = 0 else info.told

/-- The steps. -/
inductive Event where
  /-- `canguru_net_create`, `linguru_net_create`. -/
  | create (ch : Chan) (o : CreateOutcome)
  /-- `ctrlmode` is changed. -/
  | setCtrlmode (ch : Chan) (mode : UInt32)
  /-- The bit timing is changed. -/
  | setBittiming (ch : Chan) (bt : CanBittiming) (conf timing : SendOutcome)
  /-- The data bit timing is changed, which LIN channels do not have. -/
  | setDataBittiming (ch : Chan) (bt : CanBittiming) (conf timing : SendOutcome)
  /-- The termination is changed. -/
  | setTermination (ch : Chan) (term : UInt16) (o : SendOutcome)
  /-- `ndo_open`. -/
  | opened (ch : Chan) (openErr : ℤ) (conf o : SendOutcome)
  /-- `ndo_stop`. -/
  | stop (ch : Chan) (o : SendOutcome)
  /-- `ndo_start_xmit`. -/
  | xmit (ch : Chan) (skb : Skb) (o : XmitOutcome)
  /-- A message is dispatched. -/
  | recv (alloc : Bool) (msg : GuruData)
  /-- `guru_get_fw_ver`, or a voltage is read. -/
  | query (id : UInt16) (o : SendOutcome)

/-- What a step does, where it can happen. -/
def step (s : St) : Event → Option St
  | .create ch o =>
    match s.netdev ch with
    | some _ => none
    | none =>
      if 256 ≤ ch.2 then none
      else if o.oom then some s
      else
        let d := NetDevice.create (UInt8.ofNat ch.2)
        let (err, out) := setUp o d ch.1
        if err ≠ 0 ∨ o.register ≠ 0 then
          some (s.submit out)
        else some ((s.setDev ch d .fresh).submit out)
  | .setCtrlmode ch mode =>
    s.whenDown ch fun d =>
      s.setDev ch { d with ctrlmode := mode } { s.info ch with synced := false }
  | .setBittiming ch bt conf timing =>
    s.whenDown ch fun d =>
      let d := { d with bittiming := bt }
      let (err, out) := setBittiming conf timing d ch.1
      (s.setDev ch d { s.info ch with synced := ch.1 = .can ∧ err = 0 }).submit out
  | .setDataBittiming ch bt conf timing =>
    if ch.1 = .lin then none
    else
      s.whenDown ch fun d =>
        let d := { d with dataBittiming := bt }
        let (err, out) := setBittiming conf timing d ch.1
        (s.setDev ch d { s.info ch with synced := err = 0 }).submit out
  | .setTermination ch term o =>
    match s.netdev ch with
    | none => none
    | some d =>
      if term ∈ terminationConst ch.1 then
        let (err, out) := setTermination o term d ch.1
        let termination := if err = 0 then term else (s.info ch).termination
        some ((s.setDev ch d { s.info ch with termination := termination }).submit out)
      else none
  | .opened ch openErr conf o =>
    s.whenDown ch fun d =>
      let (err, d, out) := ch.1.opsOpen openErr conf o d
      (s.setDev ch { d with up := err = 0 } ((s.info ch).opened ch.1 openErr conf o err)).submit out
  | .stop ch o =>
    match s.netdev ch with
    | none => none
    | some d =>
      if !d.up then none
      else
        let (d, out) := ch.1.opsClose o d
        some ((s.setDev ch { d with up := false } { s.info ch with told := o.err = 0 }).submit out)
  | .xmit ch skb o =>
    match s.netdev ch with
    | none => none
    | some d =>
      if d.up = true ∧ d.queueStopped = false then
        let (net, out) := startXmit ch.1.send o ch.2 skb (s.guru.dev.net ch.1)
        some ({ s with guru := { s.guru with dev := s.guru.dev.modifyNet ch.1 fun _ => net } }.submit out)
      else none
  | .recv alloc msg => some { s with guru := canguruProcessMsgList (runCallback alloc) s.guru msg }
  | .query id o =>
    if id = GURU_MSG_GET_VERSION ∨ id = LIN_MSG_VOLT_GET then
      some (s.submit (guruSendData o id []).2)
    else none

/-- A driver without channels, before it submits anything. -/
structure Start (s : St) : Prop where
  /-- No channel is created. -/
  netdev : ∀ ch, s.netdev ch = none
  /-- Nothing is submitted. -/
  wire : s.wire = []

/-! ### What is to be shown -/

/-- The name of a channel in messages. -/
def portId (ch : Chan) : PortId := (ch.1, UInt8.ofNat ch.2)

/-- The filter that lets every frame pass. -/
def allowAll : Filter := ⟨true, true, false, false⟩

/-- **A port mirrors a channel.** -/
structure Mirrors (bus : Bus) (st : Settings) (info : Info) (p : Port) : Prop where
  /-- The termination is that of the kernel. -/
  termination : p.termination = decide (info.termination ≠ CAN_TERMINATION_DISABLED)
  /-- The port is enabled while the channel is up, unless the last message about that was lost. -/
  enabled : info.told = true → p.enabled = st.up
  /-- The mode and the bit rates are those of the kernel, if they were told. -/
  conf : info.synced = true → p.conf = some (st.conf bus)
  /-- So is the timing of a CAN channel. -/
  timing : bus = .can → info.synced = true →
    p.timing = some (canguruTiming st.bittiming, canguruTiming st.dataBittiming)
  /-- A LIN channel that is up has told them. -/
  linUp : bus = .lin → st.up = true → info.synced = true
  /-- A CAN channel has every frame reported. -/
  filter : bus = .can → p.filter = some allowAll

/-- **The device mirrors its channels**, when it kept `r` and has received `wire`. -/
structure Faithful {φ : Type*} (fw : Firmware φ) (r : PortId → φ) (s : St)
    (wire : List (List UInt8)) : Prop where
  /-- The channels. -/
  mirrors : ∀ ch st, s.settings ch = some st →
    Mirrors ch.1 st (s.info ch) (fw.port (fw.device r wire (portId ch)))
  /-- Where no channel could be created the device keeps what it kept, or was reset. -/
  absent : ∀ ch : Chan, ch.2 < 256 → s.settings ch = none →
    fw.device r wire (portId ch) = r (portId ch) ∨
      ∃ f, fw.device r wire (portId ch) = fw.obey .reset f ∨
        fw.device r wire (portId ch) = fw.obey (.filter allowAll) (fw.obey .reset f)

/-! ### What the operations tell -/

section Tells

variable {φ : Type*} {fw : Firmware φ} {p : PortId} {out out' : List GuruData} {os os' : List Order}

/-- The messages `out` are the orders `os` for a channel. -/
def Tells (fw : Firmware φ) (p : PortId) (out : List GuruData) (os : List Order) : Prop :=
  (out.map GuruData.toBytes).map fw.read = os.map fun o => some (p, o)

theorem Tells.append (h : Tells fw p out os) (h' : Tells fw p out' os') :
    Tells fw p (out ++ out') (os ++ os') := by
  rw [Tells, List.map_append, List.map_append, h, h', List.map_append]

theorem tells_send {o : SendOutcome} {id : UInt16} {data : List UInt8} {order : Order}
    (h : fw.read (GuruData.fill id data).toBytes = some (p, order)) :
    Tells fw p (guruSendData o id data).2 (if o.err = 0 then [order] else []) := by
  rw [guruSendData]
  split
  · exact congrArg (fun x => [x]) h
  · rfl

/-- A message, and if it is taken a second one. -/
def sendBoth (o o' : SendOutcome) (id id' : UInt16) (data data' : List UInt8) : ℤ × List GuruData :=
  let (err, out) := guruSendData o id data
  if err ≠ 0 then (err, out)
  else
    let (err, out') := guruSendData o' id' data'
    (err, out ++ out')

theorem sendBoth_tells {o o' : SendOutcome} {id id' : UInt16} {data data' : List UInt8}
    {first second : Order} (h : fw.read (GuruData.fill id data).toBytes = some (p, first))
    (h' : fw.read (GuruData.fill id' data').toBytes = some (p, second)) :
    ∃ os, Tells fw p (sendBoth o o' id id' data data').2 os ∧
      (os = [] ∨ os = [first] ∨ os = [first, second]) ∧
      ((sendBoth o o' id id' data data').1 = 0 → os = [first, second]) := by
  have hfirst := @tells_send _ fw p o id data first h
  by_cases he : o.err = 0
  · rw [if_pos he] at hfirst
    have hboth := hfirst.append (@tells_send _ fw p o' id' data' second h')
    refine ⟨_, by simp only [sendBoth, guruSendData, he] at hboth ⊢; exact hboth, ?_, fun h0 => ?_⟩
    · by_cases he' : o'.err = 0 <;> simp [he']
    · have he' : o'.err = 0 := by simpa [sendBoth, guruSendData, he] using h0
      simp [he']
  · rw [if_neg he] at hfirst
    refine ⟨[], by simp only [sendBoth, guruSendData, ne_eq, he, not_false_eq_true, if_true]; rfl,
      .inl rfl, fun h0 => ?_⟩
    simp [sendBoth, guruSendData, he] at h0

variable (hfw : fw.Understands) (d : NetDevice)

include hfw

/-- The configuration of a CAN channel is read as the mode and the bit rates it has. -/
theorem Firmware.Understands.conf :
    fw.read (GuruData.fill CAN_MSG_CONFIG_SET (canguruConf d).toBytes).toBytes =
      some ((.can, d.channelIdx), .config ((settingsOf d).conf .can)) := by
  have hfd :
      decide ((canguruConf d).canFdEnable ≠ 0) = decide (d.ctrlmode &&& CAN_CTRLMODE_FD ≠ 0) := by
    by_cases h : d.ctrlmode &&& CAN_CTRLMODE_FD = 0 <;> simp [canguruConf, h]
  have hmode : decide ((canguruConf d).canMode = CAN_BUS_MONITORING) =
      decide (d.ctrlmode &&& CAN_CTRLMODE_LISTENONLY ≠ 0) := by
    by_cases h : d.ctrlmode &&& CAN_CTRLMODE_LISTENONLY = 0 <;>
      simp [canguruConf, h, CAN_NORMAL, CAN_BUS_MONITORING]
  rw [hfw.readConfig, hfd, hmode]
  rfl

theorem Firmware.Understands.linConf (o : SendOutcome) :
    Tells fw (.lin, d.channelIdx) (linguruSetLinConf o d).2
      (if o.err = 0 then [.config ((settingsOf d).conf .lin)] else []) := by
  refine tells_send ?_
  rw [hfw.readLinConfig]
  by_cases h : d.ctrlmode &&& CAN_CTRLMODE_LISTENONLY = 0 <;>
    simp [Settings.conf, settingsOf, h, LIN_MODE_MONITORING, LIN_MODE_MASTER_USER]

theorem setUp_tells (o : CreateOutcome) (bus : Bus) :
    ∃ os, Tells fw (bus, d.channelIdx) (setUp o d bus).2 os ∧
      (os = [] ∨ os = [.reset] ∨ os = [.reset, .filter allowAll]) ∧
      ((setUp o d bus).1 = 0 → os = match bus with
        | .can => [.reset, .filter allowAll]
        | .lin => [.reset]) := by
  have hreset := hfw.readReset bus d.channelIdx
  cases bus with
  | can =>
    exact @sendBoth_tells _ fw _ o.reset o.filter _ _ _ _ _ _ hreset
      (hfw.readFilter d.channelIdx true true false false)
  | lin =>
    refine ⟨_, @tells_send _ fw _ o.reset _ _ _ hreset, ?_, fun h0 => if_pos h0⟩
    by_cases he : o.reset.err = 0 <;> simp [he]

/-- The messages of a CAN channel whose bit timing is set. -/
theorem setBittiming_tells (conf timing : SendOutcome) :
    ∃ os, Tells fw (.can, d.channelIdx) (canguruSetBittiming conf timing d).2 os ∧
      (os = [] ∨ os = [.config ((settingsOf d).conf .can)] ∨
        os = [.config ((settingsOf d).conf .can),
          .timing (canguruTiming d.bittiming) (canguruTiming d.dataBittiming)]) ∧
      ((canguruSetBittiming conf timing d).1 = 0 → os = [.config ((settingsOf d).conf .can),
        .timing (canguruTiming d.bittiming) (canguruTiming d.dataBittiming)]) :=
  @sendBoth_tells _ fw _ conf timing _ _ _ _ _ _ (hfw.conf d)
    (hfw.readTiming d.channelIdx (canguruTiming d.bittiming) (canguruTiming d.dataBittiming))

theorem setTermination_tells (o : SendOutcome) (term : UInt16) (bus : Bus) :
    Tells fw (bus, d.channelIdx) (setTermination o term d bus).2
        (if o.err = 0 then [.termination (decide (term ≠ CAN_TERMINATION_DISABLED))] else []) ∧
      (setTermination o term d bus).1 = o.err := by
  have hread := hfw.readTermination bus d.channelIdx (decide (term ≠ 0))
  cases bus <;> exact ⟨tells_send hread, rfl⟩

theorem enable_tells (o : SendOutcome) (on : Bool) (bus : Bus) :
    Tells fw (bus, d.channelIdx)
      (match bus with
        | .can => canguruSetCanEnable o on d
        | .lin => linguruSetLinEnable o on d).2
      (if o.err = 0 then [.enable on] else []) := by
  have hread := hfw.readEnable bus d.channelIdx on
  cases bus <;> exact tells_send hread

end Tells

/-! ### Settings that are left alone -/

section Kept

/-- A net device with the same settings. -/
def Keeps (f : NetDevice → NetDevice) : Prop := ∀ d, settingsOf (f d) = settingsOf d

/-- A change of a channel that keeps its settings keeps those of all. -/
theorem modify_settings {c : ℕ} {f : NetDevice → NetDevice} {m : MsgNet}
    (hf : ∀ d, m.netdev c = some d → settingsOf (f d) = settingsOf d) (c' : ℕ) :
    ((m.modify c f).netdev c').map settingsOf = (m.netdev c').map settingsOf := by
  by_cases h : c' = c
  · subst h
    rw [modify_self]
    cases hd : m.netdev c' with
    | none => rfl
    | some d => exact congrArg some (hf d hd)
  · rw [modify_of_ne h]

theorem keeps_netSendCallback (st : UInt8) : Keeps (netSendCallback st) := by
  intro d
  have hget : settingsOf d.canGetEchoSkb.2.2 = settingsOf d := by
    unfold NetDevice.canGetEchoSkb
    split <;> rfl
  exact hget

theorem sendCallback_settings (st : UInt8) (m : MsgNet) (c : ℕ) :
    ((m.sendCallback st).netdev c).map settingsOf = (m.netdev c).map settingsOf := by
  unfold sendCallback
  split
  · rfl
  · split
    · rw [delReply_netdev]
      exact modify_settings (fun d _ => keeps_netSendCallback st d) c
    · rfl

theorem recvCallback_settings {recv : List UInt8 → NetDevice → NetDevice × List Fault}
    (hrecv : ∀ data, Keeps fun d => (recv data d).1) (msg : CurrMsg) (m : MsgNet) (c : ℕ) :
    ((m.recvCallback recv msg).1.netdev c).map settingsOf = (m.netdev c).map settingsOf := by
  unfold recvCallback
  simp only
  split
  · rfl
  · split
    · rfl
    · exact modify_settings (fun d _ => hrecv _ d) c

theorem keeps_canguruNetRecv (alloc : Bool) (data : List UInt8) : Keeps fun d =>
    (canguruNetRecv alloc data d).1 := by
  intro d
  cases alloc <;> rfl

theorem keeps_linguruNetRecv (alloc : Bool) (data : List UInt8) : Keeps fun d =>
    (linguruNetRecv alloc data d).1 := by
  intro d
  cases alloc <;> rfl

/-- The settings of a channel of a driver. -/
def drvSettings (s : Drv) (ch : Chan) : Option Settings := ((s.net ch.1).netdev ch.2).map settingsOf

theorem runCallback_settings (alloc : Bool) (k : Callback) (msg : CurrMsg) (s : Drv) :
    drvSettings (runCallback alloc k msg s) = drvSettings s := by
  funext ⟨bus, c⟩
  cases k <;> cases bus <;> try rfl
  case canguruSend.can => exact sendCallback_settings _ _ c
  case canguruRecv.can => exact recvCallback_settings (keeps_canguruNetRecv alloc) msg s.can c
  case linguruSend.lin => exact sendCallback_settings _ _ c
  case linguruRecv.lin => exact recvCallback_settings (keeps_linguruNetRecv alloc) msg s.lin c

/-- **A received message changes no setting**, whatever it is. -/
theorem dispatch_settings (alloc : Bool) (guru : Guru) (msg : GuruData) :
    drvSettings (canguruProcessMsgList (runCallback alloc) guru msg).dev =
      drvSettings guru.dev := by
  have hfold : ∀ (ks : List Callback) (s : Drv),
      drvSettings (ks.foldl (fun s k => runCallback alloc k (CurrMsg.ofMsg msg) s) s) =
          drvSettings s := by
    intro ks
    induction ks with
    | nil => exact fun _ => rfl
    | cons k ks ih => exact fun s => (ih _).trans (runCallback_settings alloc k _ s)
  rw [processMsgList_eq]
  exact hfold _ _

/-- A call of `ndo_start_xmit` keeps the settings of the channels of its bus. -/
theorem startXmit_settings {bus : Bus} (o : XmitOutcome) {c : ℕ} (skb : Skb) {m : MsgNet}
    {d : NetDevice} (hd : m.netdev c = some d) (c' : ℕ) :
    ((startXmit bus.send o c skb m).1.netdev c').map settingsOf = (m.netdev c').map settingsOf := by
  have hmod : ∀ {f : NetDevice → NetDevice} {m : MsgNet}, Keeps f →
      ((m.modify c f).netdev c').map settingsOf = (m.netdev c').map settingsOf :=
    fun hf => modify_settings (fun d _ => hf d) c'
  cases hi : skb.invalid with
  | true =>
    rw [startXmit_invalid hd o hi]
    exact hmod fun _ => rfl
  | false =>
    by_cases hsend : o.send.err = 0
    · by_cases hroom : o.oom = false ∧ d.echoSkb = none
      · obtain ⟨msg, hx⟩ := @startXmit_ok bus _ _ _ hd _ hsend hroom.1 hroom.2 _ hi
        rw [hx, registered, waitSendReply_netdev, hmod, hmod]
        · exact fun _ => rfl
        · exact fun _ => rfl
      · have hroom : o.oom = true ∨ d.echoSkb ≠ none := by
          by_contra hn
          push Not at hn
          exact hroom ⟨Bool.eq_false_of_not_eq_true hn.1, hn.2⟩
        obtain ⟨msg, hx⟩ := @startXmit_refused bus _ _ _ hd _ hsend hroom _ hi
        rw [hx]
        exact hmod fun _ => rfl
    · rw [startXmit_err hd hsend hi]
      exact hmod fun _ => rfl

theorem startXmit_silent {φ : Type*} {fw : Firmware φ} (hfw : fw.Understands) {bus : Bus}
    (o : XmitOutcome) {c : ℕ} (skb : Skb) {m : MsgNet} {d : NetDevice} (hd : m.netdev c = some d) :
    ∀ msg ∈ (startXmit bus.send o c skb m).2, fw.read msg.toBytes = none := by
  have hout : (startXmit bus.send o c skb m).2 = [] ∨ (startXmit bus.send o c skb m).2 =
      (bus.send o.send d.netifStopQueue skb).2 := by
    simp only [startXmit, hd]
    split_ifs
    · exact .inl rfl
    all_goals exact .inr rfl
  obtain ⟨data, hsend⟩ := bus.send_eq o.send d.netifStopQueue skb
  have hread : fw.read (GuruData.fill bus.sendId data).toBytes = none :=
    hfw.readOther bus.sendId (by cases bus <;> decide) data
  intro msg hmsg
  rcases hout with hout | hout
  · rw [hout] at hmsg
    cases hmsg
  · rw [hout, hsend, guruSendData] at hmsg
    split at hmsg
    · rw [List.mem_singleton.mp hmsg]
      exact hread
    · cases hmsg

/-- An open and a stop keep the settings, but for `IFF_UP`. -/
theorem opsOpen_settings (bus : Bus) (openErr : ℤ) (conf o : SendOutcome) (d : NetDevice)
    (up : Bool) :
    settingsOf { (bus.opsOpen openErr conf o d).2.1 with up := up } =
      { settingsOf d with up := up } := by
  obtain ⟨out, hopen⟩ := bus.opsOpen_eq openErr conf o d
  rw [hopen]
  split_ifs <;> rfl

theorem opsClose_settings (bus : Bus) (o : SendOutcome) (d : NetDevice) (up : Bool) :
    settingsOf { (bus.opsClose o d).1 with up := up } = { settingsOf d with up := up } := by
  obtain ⟨stats, disposed, hclose⟩ := bus.opsClose_eq o d
  rw [hclose]
  rfl

end Kept

/-! ### One channel -/

section Channel

variable {φ : Type*} {fw : Firmware φ} {bus : Bus} {d : NetDevice} {info : Info} {f : φ}

/-- What is kept for a channel after some orders. -/
abbrev Firmware.obeyAll (fw : Firmware φ) (os : List Order) (f : φ) : φ :=
  os.foldl (fun f o => fw.obey o f) f

theorem mirrors_create (hfw : fw.Understands) (i : UInt8) (f : φ) :
    Mirrors bus (settingsOf (.create i)) .fresh
      (fw.port (fw.obeyAll (match bus with | .can => [.reset, .filter allowAll] | .lin => [.reset]) f)) := by
  obtain ⟨hen, hter⟩ := hfw.reset f
  cases bus with
  | can =>
    have hport : fw.port (fw.obeyAll [.reset, .filter allowAll] f) =
        { fw.port (fw.obey .reset f) with filter := some allowAll } := hfw.filter allowAll _
    refine ⟨?_, fun _ => ?_, nofun, nofun, nofun, fun _ => ?_⟩ <;> rw [hport]
    · exact hter
    · exact hen
  | lin => exact ⟨hter, fun _ => hen, nofun, nofun, nofun, nofun⟩

/-- What the device was told is no longer what the kernel has. -/
theorem Mirrors.stale {p : Port} (h : Mirrors bus (settingsOf d) info p) (hup : d.up = false)
    {st : Settings} (hst : st.up = false) :
    Mirrors bus st { info with synced := false } p where
  termination := h.termination
  enabled := by
    intro ht
    rw [h.enabled ht, hst]
    exact hup
  conf := fun hs => by cases hs
  timing := fun _ hs => by cases hs
  linUp := fun _ hu => by rw [hst] at hu; cases hu
  filter := h.filter

/-- The bit timing of a CAN channel is told, in part or as a whole. -/
theorem Mirrors.timed (hfw : fw.Understands) (h : Mirrors .can (settingsOf d) info (fw.port f))
    (hup : d.up = false) {d' : NetDevice}
    (hup' : d'.up = false) {os : List Order} {synced : Bool}
    (hos : os = [] ∨ os = [.config ((settingsOf d').conf .can)] ∨
      os = [.config ((settingsOf d').conf .can),
        .timing (canguruTiming d'.bittiming) (canguruTiming d'.dataBittiming)])
    (hsynced : synced = true → os = [.config ((settingsOf d').conf .can),
      .timing (canguruTiming d'.bittiming) (canguruTiming d'.dataBittiming)]) :
    Mirrors .can (settingsOf d') { info with synced := synced } (fw.port (fw.obeyAll os f)) := by
  have hkept : (fw.port (fw.obeyAll os f)).termination = (fw.port f).termination ∧
      (fw.port (fw.obeyAll os f)).enabled = (fw.port f).enabled ∧
      (fw.port (fw.obeyAll os f)).filter = (fw.port f).filter := by
    rcases hos with rfl | rfl | rfl <;> simp [Firmware.obeyAll, hfw.config, hfw.timing]
  obtain ⟨hter, hen, hfil⟩ := hkept
  refine ⟨hter.trans h.termination, fun ht => ?_, fun hs => ?_, fun _ hs => ?_, fun hb => ?_,
    fun hb => ?_⟩
  · rw [hen, h.enabled ht]
    exact hup.trans hup'.symm
  · rw [hsynced hs]
    simp [Firmware.obeyAll, hfw.config, hfw.timing]
  · rw [hsynced hs]
    simp [Firmware.obeyAll, hfw.timing, settingsOf]
  · cases hb
  · rw [hfil, h.filter hb]

theorem Mirrors.terminated (hfw : fw.Understands) (h : Mirrors bus (settingsOf d) info (fw.port f))
    (o : SendOutcome) (term : UInt16) :
    Mirrors bus (settingsOf d)
      { info with termination := if o.err = 0 then term else info.termination } (fw.port (fw.obeyAll
        (if o.err = 0 then [.termination (decide (term ≠ CAN_TERMINATION_DISABLED))] else []) f)) := by
  by_cases ho : o.err = 0
  · simp only [if_pos ho, Firmware.obeyAll, List.foldl_cons, List.foldl_nil, hfw.termination]
    exact ⟨rfl, h.enabled, h.conf, h.timing, h.linUp, h.filter⟩
  · simp only [if_neg ho]
    exact h

theorem opsOpen_tells (hfw : fw.Understands) (bus : Bus) (openErr : ℤ) (conf o : SendOutcome)
    (d : NetDevice) :
    ((bus.opsOpen openErr conf o d).1 ≠ 0 ∧ ¬ (openErr = 0 ∧ (bus = .lin → conf.err = 0)) ∧
        Tells fw (bus, d.channelIdx) (bus.opsOpen openErr conf o d).2.2 []) ∨
      ((bus.opsOpen openErr conf o d).1 = 0 ∧ openErr = 0 ∧ (bus = .lin → conf.err = 0) ∧
        Tells fw (bus, d.channelIdx) (bus.opsOpen openErr conf o d).2.2
          ((match bus with | .can => [] | .lin => [.config ((settingsOf d).conf .lin)]) ++
            if o.err = 0 then [.enable true] else [])) := by
  by_cases he : openErr = 0
  · subst he
    cases bus with
    | can => exact .inr ⟨rfl, rfl, nofun, enable_tells hfw d o true .can⟩
    | lin =>
      by_cases hc : conf.err = 0
      · have htells := hfw.linConf d conf
        rw [if_pos hc] at htells
        refine .inr ⟨?_, rfl, fun _ => hc, ?_⟩
        · simp [Bus.opsOpen, linguruOpsOpen, NetDevice.openCandev, linguruSetLinConf,
            guruSendData, hc]
        · have hall := htells.append (enable_tells hfw d o true .lin)
          simp only [Bus.opsOpen, linguruOpsOpen, NetDevice.openCandev, linguruSetLinConf,
            guruSendData, hc] at hall ⊢
          exact hall
      · refine .inl ⟨?_, fun h => hc (h.2 rfl), ?_⟩
        · simp [Bus.opsOpen, linguruOpsOpen, NetDevice.openCandev, linguruSetLinConf,
            guruSendData, hc]
        · simp [Bus.opsOpen, linguruOpsOpen, NetDevice.openCandev, linguruSetLinConf,
            guruSendData, hc, Tells]
  · rw [bus.opsOpen_fail he]
    exact .inl ⟨he, fun h => he h.1, rfl⟩

theorem Mirrors.opened (hfw : fw.Understands) (h : Mirrors bus (settingsOf d) info (fw.port f))
    (hup : d.up = false) (openErr : ℤ) (conf o : SendOutcome) :
    ∃ os, Tells fw (bus, d.channelIdx) (bus.opsOpen openErr conf o d).2.2 os ∧
      Mirrors bus { settingsOf d with up := decide ((bus.opsOpen openErr conf o d).1 = 0) }
        (info.opened bus openErr conf o (bus.opsOpen openErr conf o d).1)
            (fw.port (fw.obeyAll os f)) := by
  rcases opsOpen_tells hfw bus openErr conf o d with ⟨hret, hfail, htells⟩ | ⟨hret, he,
    hconf, htells⟩
  · have hsynced : (info.opened bus openErr conf o (bus.opsOpen openErr conf o d).1).synced =
        info.synced := by
      have hno : ¬ (bus = .lin ∧ openErr = 0 ∧ conf.err = 0) :=
        fun hl => hfail ⟨hl.2.1, fun _ => hl.2.2⟩
      simp [Info.opened, hno]
    have htold : (info.opened bus openErr conf o (bus.opsOpen openErr conf o d).1).told =
        info.told := if_neg hret
    have hdown : decide ((bus.opsOpen openErr conf o d).1 = 0) = (settingsOf d).up :=
      (decide_eq_false hret).trans hup.symm
    refine ⟨[], htells, ?_⟩
    rw [hdown]
    exact
      { termination := h.termination
        enabled := fun ht => h.enabled (htold ▸ ht)
        conf := fun hs => h.conf (hsynced ▸ hs)
        timing := fun hb hs => h.timing hb (hsynced ▸ hs)
        linUp := fun hb hu => hsynced.trans (h.linUp hb hu)
        filter := h.filter }
  · refine ⟨_, htells, ?_⟩
    have htold : (info.opened bus openErr conf o (bus.opsOpen openErr conf o d).1).told =
        decide (o.err = 0) :=
      if_pos hret
    rw [hret, decide_eq_true (rfl : (0 : ℤ) = 0)]
    rw [hret] at htold
    cases bus with
    | can =>
      have hsynced : (info.opened .can openErr conf o 0).synced = info.synced := by
        simp [Info.opened]
      by_cases ho : o.err = 0
      · rw [if_pos ho]
        simp only [Firmware.obeyAll, List.nil_append, List.foldl_cons, List.foldl_nil, hfw.enable]
        exact ⟨h.termination, fun _ => rfl, fun hs => h.conf (hsynced ▸ hs),
          fun hb hs => h.timing hb (hsynced ▸ hs), nofun, h.filter⟩
      · rw [if_neg ho]
        refine ⟨h.termination, fun ht => ?_, fun hs => h.conf (hsynced ▸ hs),
          fun hb hs => h.timing hb (hsynced ▸ hs), nofun, h.filter⟩
        exact absurd (of_decide_eq_true (htold ▸ ht)) ho
    | lin =>
      have hsynced : (info.opened .lin openErr conf o 0).synced = true := by
        simp [Info.opened, he, hconf rfl]
      by_cases ho : o.err = 0
      · rw [if_pos ho]
        simp only [Firmware.obeyAll, List.cons_append, List.nil_append, List.foldl_cons,
          List.foldl_nil, hfw.enable, hfw.config]
        exact ⟨h.termination, fun _ => rfl, fun _ => rfl, nofun, fun _ _ => hsynced, nofun⟩
      · rw [if_neg ho]
        simp only [Firmware.obeyAll, List.append_nil, List.foldl_cons, List.foldl_nil, hfw.config]
        refine ⟨h.termination, fun ht => ?_, fun _ => rfl, nofun, fun _ _ => hsynced, nofun⟩
        exact absurd (of_decide_eq_true (htold ▸ ht)) ho

theorem Mirrors.stopped (hfw : fw.Understands) (h : Mirrors bus (settingsOf d) info (fw.port f))
    (o : SendOutcome) :
    Mirrors bus { settingsOf d with up := false } { info with told := o.err = 0 }
      (fw.port (fw.obeyAll (if o.err = 0 then [.enable false] else []) f)) := by
  by_cases ho : o.err = 0
  · simp only [if_pos ho, Firmware.obeyAll, List.foldl_cons, List.foldl_nil, hfw.enable]
    exact ⟨h.termination, fun _ => rfl, h.conf, h.timing, nofun, h.filter⟩
  · simp only [if_neg ho]
    exact ⟨h.termination, fun ht => absurd (of_decide_eq_true ht) ho, h.conf, h.timing,
      nofun, h.filter⟩

end Channel

/-! ### The invariant -/

/-- The invariant. -/
structure Inv {φ : Type*} (fw : Firmware φ) (r : PortId → φ) (s : St) : Prop where
  /-- A channel knows its number. -/
  number : ∀ ch st, s.settings ch = some st → ch.2 < 256 ∧ st.channelIdx = UInt8.ofNat ch.2
  /-- The device mirrors the channels. -/
  faithful : Faithful fw r s s.wire

section Steps

variable {φ : Type*} {fw : Firmware φ} {r : PortId → φ} {s s' : St} {ch : Chan}

theorem portId_ne {ch ch' : Chan} (hc : ch.2 < 256) (hc' : ch'.2 < 256) (h : ch' ≠ ch) :
    portId ch' ≠ portId ch := by
  intro he
  have hbus : ch'.1 = ch.1 := congrArg (fun p : PortId => p.1) he
  have hnum : ch'.2 = ch.2 := by
    have htoNat := congrArg (fun p : PortId => p.2.toNat) he
    simp only [portId, UInt8.toNat_ofNat_of_lt' hc, UInt8.toNat_ofNat_of_lt' hc'] at htoNat
    exact htoNat
  exact h (Prod.ext hbus hnum)

theorem device_append (wire wire' : List (List UInt8)) (p : PortId) :
    fw.device r (wire ++ wire') p = fw.obeyAll (orders fw.read p wire') (fw.device r wire p) :=
      replay_append r wire wire' p

theorem setDev_settings_self (ch : Chan) (d : NetDevice) (info : Info) (s : St) :
    (s.setDev ch d info).settings ch = some (settingsOf d) := by
  rw [St.settings, St.netdev, St.setDev, Drv.modifyNet_self]
  simp only [Function.update_self, Option.map_some]

theorem setDev_settings_of_ne {ch ch' : Chan} (h : ch' ≠ ch) (d : NetDevice)
    (info : Info) (s : St) : (s.setDev ch d info).settings ch' = s.settings ch' := by
  rw [St.settings, St.netdev, St.setDev, St.settings, St.netdev]
  by_cases hb : ch'.1 = ch.1
  · have hc : ch'.2 ≠ ch.2 := fun hc => h (Prod.ext hb hc)
    rw [hb, Drv.modifyNet_self]
    simp only [Function.update_of_ne hc]
  · rw [Drv.modifyNet_of_ne hb]

theorem Start.inv (h : Start s) : Inv fw r s where
  number := by
    intro ch st hst
    rw [St.settings, h.netdev] at hst
    cases hst
  faithful :=
    { mirrors := by
        intro ch st hst
        rw [St.settings, h.netdev] at hst
        cases hst
      absent := by
        intro ch _ _
        rw [h.wire]
        exact .inl rfl }

/-- What changes one channel and tells the device of it. -/
theorem Inv.change (h : Inv fw r s) (hlt : ch.2 < 256) {d : NetDevice}
    (hidx : d.channelIdx = UInt8.ofNat ch.2) {info : Info} {out : List GuruData} {os : List Order}
    (htells : Tells fw (ch.1, d.channelIdx) out os)
    (hm : Mirrors ch.1 (settingsOf d) info (fw.port (fw.obeyAll os (fw.device r s.wire (portId ch))))) :
    Inv fw r ((s.setDev ch d info).submit out) := by
  have hport : portId ch = (ch.1, d.channelIdx) := by rw [portId, hidx]
  have hset : ((s.setDev ch d info).submit out).settings ch = some (settingsOf d) :=
    setDev_settings_self ch d info s
  have hset' : ∀ ch', ch' ≠ ch → ((s.setDev ch d info).submit out).settings ch' = s.settings ch' :=
    fun ch' hne => setDev_settings_of_ne hne d info s
  have hinfo : ((s.setDev ch d info).submit out).info ch = info := Function.update_self ..
  have hinfo' : ∀ ch', ch' ≠ ch → ((s.setDev ch d info).submit out).info ch' = s.info ch' :=
    fun ch' hne => Function.update_of_ne hne ..
  have hdev : fw.device r ((s.setDev ch d info).submit out).wire (portId ch) =
      fw.obeyAll os (fw.device r s.wire (portId ch)) := by
    rw [show ((s.setDev ch d info).submit out).wire = s.wire ++ out.map GuruData.toBytes from rfl,
      device_append, orders_of_map htells, if_pos hport]
  have hdev' : ∀ ch' : Chan, ch'.2 < 256 → ch' ≠ ch →
      fw.device r ((s.setDev ch d info).submit out).wire (portId ch') =
          fw.device r s.wire (portId ch') := by
    intro ch' hlt' hne
    rw [show ((s.setDev ch d info).submit out).wire = s.wire ++ out.map GuruData.toBytes from rfl,
      device_append, orders_of_map htells, if_neg (hport ▸ portId_ne hlt hlt' hne)]
    rfl
  constructor
  case number =>
    intro ch' st hst
    by_cases hne : ch' = ch
    · subst hne
      obtain rfl := Option.some.inj (hset.symm.trans hst)
      exact ⟨hlt, hidx⟩
    · rw [hset' ch' hne] at hst
      exact h.number ch' st hst
  case faithful =>
    constructor
    case mirrors =>
      intro ch' st hst
      by_cases hne : ch' = ch
      · subst hne
        obtain rfl := Option.some.inj (hset.symm.trans hst)
        rw [hinfo, hdev]
        exact hm
      · rw [hset' ch' hne] at hst
        rw [hinfo' ch' hne, hdev' ch' (h.number ch' st hst).1 hne]
        exact h.faithful.mirrors ch' st hst
    case absent =>
      intro ch' hlt' hst
      have hne : ch' ≠ ch := by
        rintro rfl
        rw [hset] at hst
        cases hst
      rw [hset' ch' hne] at hst
      rw [hdev' ch' hlt' hne]
      exact h.faithful.absent ch' hlt' hst

theorem Inv.quiet (h : Inv fw r s) (hset : s'.settings = s.settings) (hinfo : s'.info = s.info)
    (out : List GuruData) (hwire : s'.wire = s.wire ++ out.map GuruData.toBytes)
    (hout : ∀ m ∈ out, fw.read m.toBytes = none) : Inv fw r s' := by
  have hdev : ∀ p, fw.device r s'.wire p = fw.device r s.wire p := by
    intro p
    have hnone : ∀ b ∈ out.map GuruData.toBytes, fw.read b = none := by
      intro b hb
      obtain ⟨m, hm, rfl⟩ := List.mem_map.mp hb
      exact hout m hm
    rw [hwire, device_append, orders_of_none hnone]
    rfl
  refine ⟨fun ch st hst => h.number ch st (hset ▸ hst), ⟨fun ch st hst => ?_, fun ch hlt hst => ?_⟩⟩
  · rw [hinfo, hdev]
    exact h.faithful.mirrors ch st (hset ▸ hst)
  · rw [hdev]
    exact h.faithful.absent ch hlt (hset ▸ hst)

/-- A channel that is there, as the invariant has it. -/
theorem Inv.channel (h : Inv fw r s) {d : NetDevice} (hd : s.netdev ch = some d) :
    ch.2 < 256 ∧ d.channelIdx = UInt8.ofNat ch.2 ∧
      Mirrors ch.1 (settingsOf d) (s.info ch) (fw.port (fw.device r s.wire (portId ch))) := by
  have hst : s.settings ch = some (settingsOf d) := by rw [St.settings, hd, Option.map_some]
  obtain ⟨hlt, hidx⟩ := h.number ch _ hst
  exact ⟨hlt, hidx, h.faithful.mirrors ch _ hst⟩

/-- An operation that needs the channel to be down. -/
theorem whenDown_eq_some {f : NetDevice → St} (hs : s.whenDown ch f = some s') :
    ∃ d, s.netdev ch = some d ∧ d.up = false ∧ f d = s' := by
  unfold St.whenDown at hs
  split at hs
  case h_1 => cases hs
  case h_2 d hd =>
    split at hs
    case isTrue => cases hs
    case isFalse hup => exact ⟨d, hd, Bool.eq_false_of_not_eq_true hup, Option.some.inj hs⟩

/-- The device is told of a channel that cannot be created. -/
theorem Inv.setUp (h : Inv fw r s) (hlt : ch.2 < 256) (hnone : s.netdev ch = none)
    {out : List GuruData} {os : List Order} (htells : Tells fw (portId ch) out os)
    (hos : os = [] ∨ os = [.reset] ∨ os = [.reset, .filter allowAll]) :
    Inv fw r (s.submit out) := by
  have hdev :
    ∀ p, fw.device r (s.submit out).wire p = if p =
    portId ch then fw.obeyAll os (fw.device r s.wire p)
      else fw.device r s.wire p := by
    intro p
    rw [show (s.submit out).wire = s.wire ++ out.map GuruData.toBytes from rfl, device_append,
      orders_of_map htells]
    split <;> rfl
  refine ⟨h.number, ⟨fun ch' st hst => ?_, fun ch' hlt' hst => ?_⟩⟩
  · have hne : ch' ≠ ch := by
      rintro rfl
      rw [show (s.submit out).settings ch' = (s.netdev ch').map settingsOf from rfl, hnone] at hst
      cases hst
    rw [hdev, if_neg (portId_ne hlt (h.number ch' st hst).1 hne)]
    exact h.faithful.mirrors ch' st hst
  · rw [hdev]
    by_cases hp : portId ch' = portId ch
    · rw [if_pos hp]
      rcases hos with rfl | rfl | rfl
      · exact h.faithful.absent ch' hlt' hst
      · exact .inr ⟨_, .inl rfl⟩
      · exact .inr ⟨_, .inr rfl⟩
    · rw [if_neg hp]
      exact h.faithful.absent ch' hlt' hst

/-- A channel is created, or the device is told of it in vain. -/
theorem Inv.create (hfw : fw.Understands) (h : Inv fw r s) {o : CreateOutcome}
    (hs : step s (.create ch o) = some s') : Inv fw r s' := by
  rw [step] at hs
  split at hs
  case h_1 => cases hs
  case h_2 hnone =>
    split at hs
    case isTrue => cases hs
    case isFalse hlt =>
      have hlt := Nat.lt_of_not_le hlt
      split at hs
      case isTrue =>
        obtain rfl := Option.some.inj hs
        exact h
      case isFalse =>
        obtain ⟨os, htells, hos, hok⟩ := setUp_tells hfw (.create (UInt8.ofNat ch.2)) o ch.1
        simp only at hs
        split at hs
        case isTrue =>
          obtain rfl := Option.some.inj hs
          exact h.setUp hlt hnone htells hos
        case isFalse hgood =>
          obtain rfl := Option.some.inj hs
          refine h.change hlt rfl htells ?_
          rw [hok (by_contra fun he => hgood (.inl he))]
          exact mirrors_create hfw _ _

theorem Inv.untold (h : Inv fw r s) {d d' : NetDevice} (hd : s.netdev ch = some d)
    (hup : d.up = false) (hup' : d'.up = false) (hidx' : d'.channelIdx = d.channelIdx) :
    Inv fw r (s.setDev ch d' { s.info ch with synced := false }) := by
  obtain ⟨hlt, hidx, hm⟩ := h.channel hd
  have hkeep := @Inv.change _ fw r s ch h hlt d' (hidx'.trans hidx) _ [] [] rfl (hm.stale hup hup')
  rwa [St.submit, List.map_nil, List.append_nil] at hkeep

theorem Inv.setCtrlmode (h : Inv fw r s) {mode : UInt32}
    (hs : step s (.setCtrlmode ch mode) = some s') : Inv fw r s' := by
  obtain ⟨d, hd, hup, rfl⟩ := whenDown_eq_some hs
  exact h.untold hd hup hup rfl

/-- A bit timing of a CAN channel is told. -/
theorem Inv.timed (hfw : fw.Understands) (h : Inv fw r s) {c : ℕ} {d d' : NetDevice}
    (hd : s.netdev (.can, c) = some d) (hup : d.up = false) (hup' : d'.up = false)
    (hidx' : d'.channelIdx = d.channelIdx) (conf timing : SendOutcome) {synced : Bool}
    (hsynced : synced = true → (canguruSetBittiming conf timing d').1 = 0) :
    Inv fw r ((s.setDev (.can, c) d' { s.info (.can, c) with synced := synced }).submit
      (canguruSetBittiming conf timing d').2) := by
  obtain ⟨hlt, hidx, hm⟩ := h.channel hd
  obtain ⟨os, htells, hos, hok⟩ := setBittiming_tells hfw d' conf timing
  exact h.change hlt (hidx'.trans hidx) htells (hm.timed hfw hup hup' hos fun hs =>
    hok (hsynced hs))

theorem Inv.setBittiming (hfw : fw.Understands) (h : Inv fw r s) {bt : CanBittiming}
    {conf timing : SendOutcome} (hs : step s (.setBittiming ch bt conf timing) = some s') :
    Inv fw r s' := by
  obtain ⟨d, hd, hup, rfl⟩ := whenDown_eq_some hs
  obtain ⟨bus, c⟩ := ch
  cases bus with
  | can =>
    refine @Inv.timed _ fw r s hfw h c d
      { d with bittiming := bt } hd hup hup rfl conf timing _ fun hsynced => ?_
    exact (of_decide_eq_true hsynced).2
  | lin =>
    have hkeep := @Inv.untold _ fw r s _ h d { d with bittiming := bt } hd hup hup rfl
    refine hkeep.quiet rfl rfl [] rfl fun m hm => ?_
    cases hm

theorem Inv.setDataBittiming (hfw : fw.Understands) (h : Inv fw r s) {bt : CanBittiming}
    {conf timing : SendOutcome} (hs : step s (.setDataBittiming ch bt conf timing) = some s') :
    Inv fw r s' := by
  rw [step] at hs
  split at hs
  case isTrue => cases hs
  case isFalse hbus =>
    obtain ⟨d, hd, hup, rfl⟩ := whenDown_eq_some hs
    obtain ⟨bus, c⟩ := ch
    cases bus with
    | can =>
      refine @Inv.timed _ fw r s hfw h c d
        { d with dataBittiming := bt } hd hup hup rfl conf timing _ fun hsynced => ?_
      exact of_decide_eq_true hsynced
    | lin => exact absurd rfl hbus

theorem Inv.setTermination (hfw : fw.Understands) (h : Inv fw r s) {term : UInt16} {o : SendOutcome}
    (hs : step s (.setTermination ch term o) = some s') : Inv fw r s' := by
  rw [step] at hs
  split at hs
  case h_1 => cases hs
  case h_2 d hd =>
    split at hs
    case isFalse => cases hs
    case isTrue =>
      obtain ⟨hlt, hidx, hm⟩ := h.channel hd
      obtain ⟨htells, hret⟩ := setTermination_tells hfw d o term ch.1
      generalize Mirror.setTermination o term d ch.1 = res at hs htells hret
      obtain ⟨err, out⟩ := res
      obtain rfl : err = o.err := hret
      obtain rfl := Option.some.inj hs
      exact h.change hlt hidx htells (hm.terminated hfw o term)

theorem Inv.opened (hfw : fw.Understands) (h : Inv fw r s) {openErr : ℤ} {conf o : SendOutcome}
    (hs : step s (.opened ch openErr conf o) = some s') : Inv fw r s' := by
  obtain ⟨d, hd, hup, rfl⟩ := whenDown_eq_some hs
  obtain ⟨hlt, hidx, hm⟩ := h.channel hd
  obtain ⟨os, htells, hm'⟩ := hm.opened hfw hup openErr conf o
  have hset :=
    opsOpen_settings ch.1 openErr conf o d (decide ((ch.1.opsOpen openErr conf o d).1 = 0))
  generalize ch.1.opsOpen openErr conf o d = res at htells hm' hset ⊢
  obtain ⟨err, d', out⟩ := res
  have hidx' : d'.channelIdx = d.channelIdx := congrArg Settings.channelIdx hset
  rw [← hset] at hm'
  rw [← hidx'] at htells
  exact @Inv.change _ fw r s _ h hlt
    { d' with up := decide (err = 0) } (hidx'.trans hidx) _ _ _ htells hm'

theorem Inv.stop (hfw : fw.Understands) (h : Inv fw r s) {o : SendOutcome}
    (hs : step s (.stop ch o) = some s') : Inv fw r s' := by
  rw [step] at hs
  split at hs
  case h_1 => cases hs
  case h_2 d hd =>
    split at hs
    case isTrue => cases hs
    case isFalse =>
      obtain ⟨hlt, hidx, hm⟩ := h.channel hd
      have hm' := hm.stopped hfw o
      have hset := opsClose_settings ch.1 o d false
      have htells :
          Tells fw (ch.1, d.channelIdx) (ch.1.opsClose o d).2 (if o.err =
          0 then [.enable false] else []) := by
        have hen := enable_tells hfw d o false ch.1
        cases hb : ch.1 <;> rw [hb] at hen <;> exact hen
      generalize ch.1.opsClose o d = res at hs htells hset
      obtain ⟨d', out⟩ := res
      have hidx' : d'.channelIdx = d.channelIdx := congrArg Settings.channelIdx hset
      rw [← hset] at hm'
      rw [← hidx'] at htells
      obtain rfl := Option.some.inj hs
      exact @Inv.change _ fw r s _ h hlt { d' with up := false } (hidx'.trans hidx) _ _ _ htells hm'

theorem Inv.xmit (hfw : fw.Understands) (h : Inv fw r s) {skb : Skb} {o : XmitOutcome}
    (hs : step s (.xmit ch skb o) = some s') : Inv fw r s' := by
  rw [step] at hs
  split at hs
  case h_1 => cases hs
  case h_2 d hd =>
    split at hs
    case isFalse => cases hs
    case isTrue =>
      have hsettings := @startXmit_settings ch.1 o ch.2 skb _ d hd
      have hsilent := @startXmit_silent _ fw hfw ch.1 o ch.2 skb _ d hd
      generalize startXmit ch.1.send o ch.2 skb (s.guru.dev.net ch.1) = res at hs hsettings hsilent
      obtain ⟨net, out⟩ := res
      obtain rfl := Option.some.inj hs
      refine h.quiet ?_ rfl _ rfl hsilent
      funext ch'
      by_cases hb : ch'.1 = ch.1
      · show (((s.guru.dev.modifyNet ch.1 fun _ => net).net ch'.1).netdev ch'.2).map settingsOf =
          s.settings ch'
        rw [St.settings, St.netdev, hb, Drv.modifyNet_self]
        exact hsettings ch'.2
      · show (((s.guru.dev.modifyNet ch.1 fun _ => net).net ch'.1).netdev ch'.2).map settingsOf =
          s.settings ch'
        rw [Drv.modifyNet_of_ne hb]
        rfl

theorem Inv.recv (h : Inv fw r s) {alloc : Bool} {msg : GuruData}
    (hs : step s (.recv alloc msg) = some s') : Inv fw r s' := by
  rw [step] at hs
  obtain rfl := Option.some.inj hs
  refine h.quiet (dispatch_settings alloc s.guru msg) rfl [] ?_ ?_
  · exact (List.append_nil _).symm
  · exact fun m hm => by cases hm

theorem Inv.query (hfw : fw.Understands) (h : Inv fw r s) {id : UInt16} {o : SendOutcome}
    (hs : step s (.query id o) = some s') : Inv fw r s' := by
  rw [step] at hs
  split at hs
  case isFalse => cases hs
  case isTrue hid =>
    obtain rfl := Option.some.inj hs
    refine h.quiet rfl rfl _ rfl fun m hm => ?_
    rw [guruSendData] at hm
    split at hm
    · rw [List.mem_singleton.mp hm]
      exact hfw.readOther id (by rcases hid with rfl | rfl <;> decide) _
    · cases hm

/-- **One step** keeps the invariant. -/
theorem inv_step (hfw : fw.Understands) (s : St) (e : Event) (s' : St) (h : Inv fw r s)
    (hs : step s e = some s') : Inv fw r s' := by
  cases e with
  | create ch o => exact h.create hfw hs
  | setCtrlmode ch mode => exact h.setCtrlmode hs
  | setBittiming ch bt conf timing => exact h.setBittiming hfw hs
  | setDataBittiming ch bt conf timing => exact h.setDataBittiming hfw hs
  | setTermination ch term o => exact h.setTermination hfw hs
  | opened ch openErr conf o => exact h.opened hfw hs
  | stop ch o => exact h.stop hfw hs
  | xmit ch skb o => exact h.xmit hfw hs
  | recv alloc msg => exact h.recv hs
  | query id o => exact h.query hfw hs

/-- **The device mirrors its channels** in every state of every run, whatever its firmware is
like otherwise and kept before, and in whatever order the messages for different channels
reach it. -/
theorem mirror_of_run (hfw : fw.Understands) {t : St} (h : Start s) {es : List Event}
    (hr : run step s es = some t) {wire : List (List UInt8)}
    (hw : ∀ p, orders fw.read p wire = orders fw.read p t.wire) : Faithful fw r t wire := by
  have ht : Inv fw r t := inv_of_run (inv_step hfw) h.inv hr
  have hdev : fw.device r wire = fw.device r t.wire := replay_congr hw r
  obtain ⟨hmirrors, habsent⟩ := ht.faithful
  exact ⟨fun ch st hst => hdev ▸ hmirrors ch st hst, fun ch hlt hst => hdev ▸ habsent ch hlt hst⟩

end Steps

/-! ### Creation -/

/-- A turn of the loops that create the channels makes a channel exactly when the step does. -/
theorem createChannel_isSome (o : ProbeOutcome) (ch : Chan) (s : Device) (h : s.netdev ch = none) :
    ((s.createChannel o ch).netdev ch).isSome = true ↔ (o.create ch).oom = false ∧
      (setUp (o.create ch) (.create (UInt8.ofNat ch.2)) ch.1).1 = 0 ∧
      (o.create ch).register = 0 := by
  have hsend : ∀ o (s : Device), (s.send o).netdev ch = s.netdev ch := fun _ _ => rfl
  obtain ⟨bus, c⟩ := ch
  cases hoom : (o.create (bus, c)).oom with
  | true =>
    cases bus <;>
      simp [Device.createChannel, Device.canguruNetCreate, Device.linguruNetCreate,
        Device.netCreate, hoom, h]
  | false =>
    by_cases hreset : (o.create (bus, c)).reset.err = 0 <;>
      by_cases hfilter : (o.create (bus, c)).filter.err = 0 <;>
      by_cases hreg : (o.create (bus, c)).register = 0 <;> cases bus <;>
      simp [Device.createChannel, Device.canguruNetCreate, Device.linguruNetCreate,
        Device.netCreate, Calls.seq, setUp, canguruCanReset, canguruSetGlobalFilter,
        linguruLinReset, guruSendData, hoom, hreset, hfilter, hreg, hsend, h]

/-! ### A firmware -/

section Plain

/-- The number of 32 bits at an offset. -/
def readU32 (o : ℕ) (data : List UInt8) : UInt32 := UInt32.ofNat (readLE o 4 data)

/-- `struct can_timing` at an offset. -/
def readTiming (o : ℕ) (data : List UInt8) : CanTiming where
  samplePoint := readU32 o data
  idealTqNum := readU32 (o + 4) data
  syncJumpWidth := readU32 (o + 8) data

/-- The order in a message. -/
def orderOf (m : GuruData) : Option (PortId × Order) :=
  let iface := m.data.getD 0 0
  let flag := fun i => decide (m.data.getD i 0 ≠ 0)
  if m.id = CAN_MSG_RESET then some ((.can, iface), .reset)
  else if m.id = CAN_MSG_CONFIG_SET then
    some ((.can, iface), .config
      ⟨readU32 1 m.data, readU32 5 m.data, flag 9, m.data.getD 10 0 = CAN_BUS_MONITORING⟩)
  else if m.id = CAN_MSG_TIMING_SET then
    some ((.can, iface), .timing (readTiming 1 m.data) (readTiming 13 m.data))
  else if m.id = CAN_MSG_GLOBAL_FILTER_SET then
    some ((.can, iface), .filter ⟨flag 1, flag 2, flag 3, flag 4⟩)
  else if m.id = CAN_MSG_ENABLE_SET then some ((.can, iface), .enable (flag 1))
  else if m.id = CAN_MSG_TER_ENABLE then some ((.can, iface), .termination (flag 1))
  else if m.id = LIN_MSG_RESET then some ((.lin, iface), .reset)
  else if m.id = LIN_MSG_CONFIG_SET then
    some ((.lin, iface),
      .config ⟨readU32 1 m.data, 0, false, m.data.getD 5 0 = LIN_MODE_MONITORING⟩)
  else if m.id = LIN_MSG_ENABLE_SET then some ((.lin, iface), .enable (flag 1))
  else if m.id = LIN_MSG_MASTER_ENABLE_SET then some ((.lin, iface), .termination (flag 1))
  else none

/-- The order in the bytes of a transfer, if they are a message. -/
def readOrder (b : List UInt8) : Option (PortId × Order) :=
  let m := GuruData.ofBytes b
  if m.preamble = GURU_CMD_PREAMBLE ∧ m.dataCount.toNat = m.data.length then orderOf m else none

/-- An order sets what its name says, and a reset forgets everything. -/
def Order.obey : Order → Port → Port
  | .reset, _ => ⟨none, none, none, false, false⟩
  | .config conf, p => { p with conf := some conf }
  | .timing nominal data, p => { p with timing := some (nominal, data) }
  | .filter flags, p => { p with filter := some flags }
  | .enable on, p => { p with enabled := on }
  | .termination on, p => { p with termination := on }

/-- A firmware that reads the fields at their offsets and keeps no more than a port. -/
def plain : Firmware Port := ⟨readOrder, Order.obey, id⟩

theorem plain_read (b : List UInt8) : plain.read b = readOrder b := rfl

theorem ofBytes_toBytes (m : GuruData) : GuruData.ofBytes m.toBytes = m := by
  have happend := ofBytes_toBytes_append m []
  rwa [List.append_nil, List.append_nil] at happend

/-- A message of the driver is read as it was filled in. -/
theorem readOrder_fill {id : UInt16} {data : List UInt8} (h : data.length ≤ GURU_MAX_DATA_SIZE) :
    readOrder (GuruData.fill id data).toBytes = orderOf (.fill id data) := by
  rw [readOrder, ofBytes_toBytes]
  exact if_pos ⟨rfl, GuruData.fill_dataCount h⟩

theorem readU32_append {o : ℕ} {pre post : List UInt8} (n : UInt32) (ho : pre.length = o) :
    readU32 o (pre ++ toLE 4 n.toNat ++ post) = n := by
  rw [readU32, readLE_append _ _ _ ho, Nat.mod_eq_of_lt (n.toNat_lt.trans_eq (by norm_num)),
    UInt32.ofNat_toNat]

theorem readTiming_append {o : ℕ} {pre post : List UInt8} (t : CanTiming) (ho : pre.length = o) :
    readTiming o (pre ++ t.toBytes ++ post) = t := by
  have h0 : readU32 o (pre ++ t.toBytes ++ post) = t.samplePoint := by
    rw [CanTiming.toBytes, List.append_assoc, List.append_assoc, List.append_assoc,
      ← List.append_assoc pre]
    exact readU32_append _ ho
  have h4 : readU32 (o + 4) (pre ++ t.toBytes ++ post) = t.idealTqNum := by
    rw [CanTiming.toBytes, ← List.append_assoc, ← List.append_assoc,
      List.append_assoc _ (toLE 4 _) post]
    exact readU32_append _ (by simp [ho])
  have h8 : readU32 (o + 8) (pre ++ t.toBytes ++ post) = t.syncJumpWidth := by
    rw [CanTiming.toBytes, ← List.append_assoc, ← List.append_assoc]
    exact readU32_append _ (by simp [ho])
  rw [readTiming, h0, h4, h8]

theorem readOrder_config (msg : CanConfMsg) :
    readOrder (GuruData.fill CAN_MSG_CONFIG_SET msg.toBytes).toBytes = some ((.can, msg.iface),
      .config ⟨msg.baudRateA, msg.baudRateD, msg.canFdEnable ≠ 0, msg.canMode = CAN_BUS_MONITORING⟩) := by
  have h1 : readU32 1 msg.toBytes = msg.baudRateA := by
    rw [CanConfMsg.toBytes, List.append_assoc]
    exact @readU32_append 1 [msg.iface] _ _ rfl
  have h5 : readU32 5 msg.toBytes = msg.baudRateD :=
    @readU32_append 5 (msg.iface :: toLE 4 msg.baudRateA.toNat) _ _ (by simp)
  rw [readOrder_fill (by simp [CanConfMsg.toBytes, GURU_MAX_DATA_SIZE])]
  show some ((Bus.can, msg.iface), Order.config _) = _
  simp only [GuruData.fill, h1, h5]
  rfl

theorem readOrder_linConfig (iface : UInt8) (bitrate : UInt32) (mode : UInt8) :
    readOrder (GuruData.fill LIN_MSG_CONFIG_SET (iface :: toLE 4 bitrate.toNat ++ [mode])).toBytes =
      some ((.lin, iface), .config ⟨bitrate, 0, false, mode = LIN_MODE_MONITORING⟩) := by
  have h1 : readU32 1 (iface :: toLE 4 bitrate.toNat ++ [mode]) = bitrate :=
    @readU32_append 1 [iface] [mode] _ rfl
  rw [readOrder_fill (by simp [GURU_MAX_DATA_SIZE])]
  show some ((Bus.lin, iface), Order.config _) = _
  simp only [GuruData.fill, h1]
  rfl

theorem readOrder_timing (iface : UInt8) (nominal data : CanTiming) :
    readOrder (GuruData.fill CAN_MSG_TIMING_SET (iface :: nominal.toBytes ++ data.toBytes)).toBytes =
      some ((.can, iface), .timing nominal data) := by
  have h1 : readTiming 1 (iface :: nominal.toBytes ++ data.toBytes) = nominal :=
    @readTiming_append 1 [iface] data.toBytes nominal rfl
  have h13 : readTiming 13 (iface :: nominal.toBytes ++ data.toBytes) = data := by
    have hread :=
      @readTiming_append 13 (iface :: nominal.toBytes) [] data (by simp [CanTiming.toBytes])
    rwa [List.append_nil] at hread
  rw [readOrder_fill (by simp [CanTiming.toBytes, GURU_MAX_DATA_SIZE])]
  show some ((Bus.can, iface), Order.timing _ _) = _
  simp only [GuruData.fill, h1, h13]

theorem readOrder_other {id : UInt16}
    (h : id ∈ [CAN_MSG_SEND, LIN_MSG_SEND, GURU_MSG_GET_VERSION, LIN_MSG_VOLT_GET])
    (data : List UInt8) : readOrder (GuruData.fill id data).toBytes = none := by
  have hnone : orderOf (.fill id data) = none := by
    simp only [List.mem_cons, List.not_mem_nil, or_false] at h
    rcases h with rfl | rfl | rfl | rfl <;> rfl
  rw [readOrder, ofBytes_toBytes, hnone]
  exact ite_self none

/-- **There is a firmware that understands the driver.** -/
theorem plain_understands : plain.Understands where
  readConfig := readOrder_config
  readLinConfig := readOrder_linConfig
  readTiming := readOrder_timing
  readFilter := by
    intro iface stdAllow extAllow stdReject extReject
    rw [plain_read, readOrder_fill (Nat.le_of_ble_eq_true rfl)]
    cases stdAllow <;> cases extAllow <;> cases stdReject <;> cases extReject <;> rfl
  readReset := by
    intro bus iface
    rw [plain_read, readOrder_fill (Nat.le_of_ble_eq_true rfl)]
    cases bus <;> rfl
  readEnable := by
    intro bus iface on
    rw [plain_read, readOrder_fill (Nat.le_of_ble_eq_true rfl)]
    cases bus <;> cases on <;> rfl
  readTermination := by
    intro bus iface on
    rw [plain_read, readOrder_fill (Nat.le_of_ble_eq_true rfl)]
    cases bus <;> cases on <;> rfl
  readOther := fun _ hid data => readOrder_other hid data
  reset := fun _ => ⟨rfl, rfl⟩
  config := fun _ _ => rfl
  timing := fun _ _ _ => rfl
  filter := fun _ _ => rfl
  enable := fun _ _ => rfl
  termination := fun _ _ => rfl

end Plain

/-! ### A session -/

/-- A driver without channels. -/
def initial : St := ⟨(Device.kzalloc .empty 0).guru, fun _ => .fresh, []⟩

theorem start_initial : Start initial where
  netdev := by
    rintro ⟨bus, c⟩
    cases bus <;> rfl
  wire := rfl

/-- What a device may have kept from before. -/
def dirty : Port := ⟨none, none, none, true, true⟩

/-- A CAN channel is created, set up and opened, and a LIN channel whose first configuration is
lost; the second CAN channel cannot be created. -/
def session : List Event :=
  [.create (.can, 0) ⟨false, .ok, .ok, 0⟩, .create (.can, 1) ⟨false, .ok, .submit (-ENOMEM), 0⟩,
    .create (.lin, 0) ⟨false, .ok, .ok, 0⟩, .setCtrlmode (.can, 0) CAN_CTRLMODE_FD,
    .setBittiming (.can, 0) ⟨500000, 875, 1, 9⟩ .ok .ok, .setTermination (.can, 0) 120 .noUrb,
    .setTermination (.lin, 0) 1000 .ok, .opened (.can, 0) 0 .ok .ok, .opened (.lin, 0) 0 .noBuf .ok,
    .xmit (.can, 0) emptySkb .ok, .opened (.lin, 0) 0 .ok .ok, .recv true (.fill CAN_MSG_SEND [0]),
    .query LIN_MSG_VOLT_GET .ok, .stop (.can, 0) .ok]

/-- The plain firmware follows the session. -/
theorem mirror_session :
    ∃ t, run step initial session = some t ∧ Faithful plain (fun _ => dirty) t t.wire := by
  obtain ⟨t, ht⟩ : ∃ t, run step initial session = some t := ⟨_, rfl⟩
  exact ⟨t, ht, mirror_of_run plain_understands start_initial ht fun _ => rfl⟩

end Mirror

end CanGuru
