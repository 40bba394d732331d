import CanGuru.CanguruNet

/-!
# The bit timing of a CAN channel

The kernel divides the clock by `brp` and makes a bit of time quanta of that length.
`canguru_set_bittiming` finds the number of quanta again from the clock, the bit rate and
the divider, which it takes to be `brp + 1`.

## The model

The segments of a bit are the kernel's and the driver never reads them: they are kept
beside the channel, and `Computed` is what the kernel promises of them.

## What is proved

`timingOk_iff` — the message carries the quanta the kernel computed exactly when neither
phase has a bit rate, so that there is nothing to compute: with one the number is too low.
-/

namespace CanGuru

open Packed

namespace BitTiming

/-- The segments of a bit, after the one quantum of synchronisation. -/
structure Segments where
  /-- `prop_seg`. -/
  propSeg : ℕ
  /-- `phase_seg1`. -/
  phaseSeg1 : ℕ
  /-- `phase_seg2`. -/
  phaseSeg2 : ℕ

/-- The time quanta of a bit. -/
def Segments.quanta (s : Segments) : ℕ := 1 + s.propSeg + s.phaseSeg1 + s.phaseSeg2

/-- A phase as the kernel computes it: it has no bit rate, or its divider, its quanta and
its bit rate make the clock. -/
def Computed (bt : CanBittiming) (s : Segments) : Prop :=
  bt.bitrate = 0 ∨
    (1 ≤ bt.brp.toNat ∧ bt.brp.toNat * s.quanta * bt.bitrate.toNat = CANGURU_CAN_CLK.toNat)

/-- What the clock is divided by for a phase. -/
def divisors (bt : CanBittiming) : List UInt32 :=
  if bt.bitrate ≠ 0 then [bt.brp + 1, bt.bitrate] else []

/-- `timingNominal.idealTqNum` of a message. -/
def nominalTq (m : GuruData) : ℕ := readLE 5 4 m.data

/-- `timingData.idealTqNum` of a message. -/
def dataTq (m : GuruData) : ℕ := readLE 17 4 m.data

/-- The number of quanta sent for a phase is right. -/
structure PhaseOk (bt : CanBittiming) (s : Segments) (tq : ℕ) : Prop where
  /-- Without a bit rate it is `0`. -/
  off : bt.bitrate = 0 → tq = 0
  /-- With one it is that of the kernel. -/
  quanta : bt.bitrate ≠ 0 → tq = s.quanta
  /-- Nothing is divided by `0`. -/
  divisors : ∀ n ∈ divisors bt, n ≠ 0

/-- **The message carries the timing the kernel computed.** -/
structure TimingOk (d : NetDevice) (nominal data : Segments) (m : GuruData) : Prop where
  /-- The nominal phase. -/
  nominal : PhaseOk d.bittiming nominal (nominalTq m)
  /-- The data phase. -/
  data : PhaseOk d.dataBittiming data (dataTq m)

/-! ### A phase -/

section Phase

variable {bt : CanBittiming} {s : Segments}

theorem Segments.quanta_pos (s : Segments) : 0 < s.quanta := by
  unfold Segments.quanta
  omega

theorem bitrate_pos (hb : bt.bitrate ≠ 0) : 0 < bt.bitrate.toNat :=
  Nat.pos_of_ne_zero fun h0 => hb (UInt32.toNat_inj.mp h0)

/-- The divider is not `0` within the limits of the kernel. -/
theorem divisors_ne_zero (h : bt.brp.toNat ≤ CANGURU_CAN_CLK.toNat) : ∀ n ∈ divisors bt, n ≠ 0 := by
  intro n hn
  have hclk : CANGURU_CAN_CLK.toNat = 80000000 := rfl
  unfold divisors at hn
  split at hn
  case isTrue hb =>
    rcases List.mem_cons.mp hn with rfl | hn
    · intro h0
      have hnat := congrArg UInt32.toNat h0
      rw [UInt32.toNat_add] at hnat
      have h1 : (1 : UInt32).toNat = 1 := rfl
      have h0' : (0 : UInt32).toNat = 0 := rfl
      omega
    · rw [List.mem_singleton.mp hn]
      exact hb
  case isFalse => cases hn

/-- A divider that makes the clock is not above it. -/
theorem brp_le (hb : bt.bitrate ≠ 0)
    (h : bt.brp.toNat * s.quanta * bt.bitrate.toNat = CANGURU_CAN_CLK.toNat) :
    bt.brp.toNat ≤ CANGURU_CAN_CLK.toNat := by
  rw [← h, Nat.mul_assoc]
  exact Nat.le_mul_of_pos_right _ (Nat.mul_pos s.quanta_pos (bitrate_pos hb))

/-- The quotient by a divider that is one too high is too low. -/
theorem div_succ_lt {brp quanta bitrate : ℕ} (hq : 0 < quanta) (hb : 0 < bitrate) :
    brp * quanta * bitrate / (brp + 1) / bitrate < quanta := by
  rw [Nat.div_div_eq_div_mul, Nat.div_lt_iff_lt_mul (Nat.mul_pos (Nat.succ_pos brp) hb)]
  calc brp * quanta * bitrate
    _ < brp * quanta * bitrate + quanta * bitrate := Nat.lt_add_of_pos_right (Nat.mul_pos hq hb)
    _ = quanta * ((brp + 1) * bitrate) := by ring

/-- The number of quanta sent for a phase is too low if the phase has a bit rate. -/
theorem idealTqNum_lt (hb : bt.bitrate ≠ 0)
    (h : bt.brp.toNat * s.quanta * bt.bitrate.toNat = CANGURU_CAN_CLK.toNat) :
    (canguruTiming bt).idealTqNum.toNat < s.quanta := by
  have hsucc : (bt.brp + 1).toNat = bt.brp.toNat + 1 := by
    have hle := brp_le hb h
    have hclk : CANGURU_CAN_CLK.toNat = 80000000 := rfl
    rw [UInt32.toNat_add]
    have h1 : (1 : UInt32).toNat = 1 := rfl
    omega
  have htq : (canguruTiming bt).idealTqNum = CANGURU_CAN_CLK / (bt.brp + 1) / bt.bitrate :=
    if_pos hb
  rw [htq, UInt32.toNat_div, UInt32.toNat_div, hsucc, ← h]
  exact div_succ_lt s.quanta_pos (bitrate_pos hb)

/-- The number of quanta sent for a phase is right exactly when the phase has no bit rate. -/
theorem phaseOk_iff (h : Computed bt s) : PhaseOk bt s (canguruTiming bt).idealTqNum.toNat ↔
    bt.bitrate = 0 := by
  constructor
  · intro hok
    by_contra hb
    have hlt := idealTqNum_lt hb (h.resolve_left hb).2
    exact hlt.ne (hok.quanta hb)
  · intro hb
    have htq : (canguruTiming bt).idealTqNum = 0 := if_neg (not_not.mpr hb)
    refine ⟨fun _ => congrArg UInt32.toNat htq, fun hne => absurd hb hne, fun n hn => ?_⟩
    rw [divisors, if_neg (not_not.mpr hb)] at hn
    cases hn

end Phase

/-! ### The message -/

/-- The data of the message. -/
def timingData (d : NetDevice) : List UInt8 :=
  d.channelIdx :: (canguruTiming d.bittiming).toBytes ++ (canguruTiming d.dataBittiming).toBytes

/-- A number of quanta is read where it was written. -/
theorem readLE_idealTqNum {o : ℕ} (pre post : List UInt8) (t : CanTiming)
    (ho : pre.length + 4 = o) : readLE o 4 (pre ++ (t.toBytes ++ post)) = t.idealTqNum.toNat := by
  have hsplit : pre ++ (t.toBytes ++ post) =
      (pre ++ toLE 4 t.samplePoint.toNat) ++ toLE 4 t.idealTqNum.toNat ++
          (toLE 4 t.syncJumpWidth.toNat ++ post) := by
    simp [CanTiming.toBytes]
  rw [hsplit, readLE_append _ _ _ (by simpa using ho)]
  exact Nat.mod_eq_of_lt t.idealTqNum.toNat_lt

theorem nominalTq_timingData (d : NetDevice) :
    nominalTq (.fill CAN_MSG_TIMING_SET (timingData d)) =
      (canguruTiming d.bittiming).idealTqNum.toNat :=
  readLE_idealTqNum [d.channelIdx] (canguruTiming d.dataBittiming).toBytes _ rfl

theorem dataTq_timingData (d : NetDevice) :
    dataTq (.fill CAN_MSG_TIMING_SET (timingData d)) =
      (canguruTiming d.dataBittiming).idealTqNum.toNat := by
  have hread := readLE_idealTqNum (d.channelIdx :: (canguruTiming d.bittiming).toBytes) []
    (canguruTiming d.dataBittiming) rfl
  rwa [List.append_nil] at hread

/-- **The message carries the timing the kernel computed** exactly when neither phase has a
bit rate. Within the limits of the kernel nothing is divided by `0`. -/
theorem timingOk_iff (d : NetDevice) :
    ∃ conf m, canguruSetBittiming .ok .ok d = (0, [conf, m]) ∧ m.id = CAN_MSG_TIMING_SET ∧
      (d.bittiming.brp.toNat ≤ 512 → ∀ n ∈ divisors d.bittiming, n ≠ 0) ∧
      (d.dataBittiming.brp.toNat ≤ 32 → ∀ n ∈ divisors d.dataBittiming, n ≠ 0) ∧
      ∀ nominal data, Computed d.bittiming nominal → Computed d.dataBittiming data →
        (TimingOk d nominal data m ↔ d.bittiming.bitrate = 0 ∧ d.dataBittiming.bitrate = 0) := by
  refine ⟨_, .fill CAN_MSG_TIMING_SET (timingData d), rfl, rfl,
    fun h => divisors_ne_zero (h.trans (by decide)),
    fun h => divisors_ne_zero (h.trans (by decide)), fun nominal data hn hd => ?_⟩
  rw [← phaseOk_iff hn, ← phaseOk_iff hd, ← nominalTq_timingData d, ← dataTq_timingData d]
  exact ⟨fun h => ⟨h.nominal, h.data⟩, fun h => ⟨h.1, h.2⟩⟩

/-- A channel with 500 kbit/s and a divider of 10, and no data phase. -/
def arbChannel : NetDevice := { NetDevice.create 0 with bittiming := ⟨500000, 875, 1, 10⟩ }

/-- The 16 quanta of a bit of 500 kbit/s. -/
def arbSegments : Segments := ⟨6, 7, 2⟩

/-- A channel whose bit rates are not set, with dividers of 10 and 4. -/
def unsetChannel : NetDevice :=
  { NetDevice.create 0 with bittiming := ⟨0, 875, 1, 10⟩, dataBittiming := ⟨0, 750, 2, 4⟩ }

/-- The 10 quanta of a bit of the data phase. -/
def dataSegments : Segments := ⟨3, 4, 2⟩

/-- It is told of no quanta, whatever the dividers and the segments. -/
theorem timingOk_unset : ∃ conf m, canguruSetBittiming .ok .ok unsetChannel = (0, [conf, m]) ∧
    (∀ n ∈ divisors unsetChannel.bittiming, n ≠ 0) ∧
    TimingOk unsetChannel arbSegments dataSegments m := by
  obtain ⟨conf, m, hm, -, hdiv, -, h⟩ := timingOk_iff unsetChannel
  exact ⟨conf, m, hm, hdiv (by decide),
    (h arbSegments dataSegments (.inl rfl) (.inl rfl)).mpr ⟨rfl, rfl⟩⟩

/-- The 16 quanta are sent as 14. -/
theorem not_timingOk_arb : Computed arbChannel.bittiming arbSegments ∧
    ∃ conf m, canguruSetBittiming .ok .ok arbChannel = (0, [conf, m]) ∧ nominalTq m = 14 ∧
      ¬ TimingOk arbChannel arbSegments arbSegments m := by
  refine ⟨.inr (by decide), _, _, rfl, by decide, fun h => ?_⟩
  exact absurd (h.nominal.quanta (by decide)) (by decide)

end BitTiming

end CanGuru
