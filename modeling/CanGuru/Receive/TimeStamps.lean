import Mathlib.Data.List.Chain
import CanGuru.LinguruNet

/-!
# Time stamps

A received frame carries the time of the device, in ticks of 100 µs, in a field of 32
bits. `canguru_net_recv` and `linguru_net_recv` widen the field, scale it to nanoseconds
and attach it to the frame; when the counter of the device wraps, the time they attach
falls back.

## The model

The frames of a channel come with the time at which the device received them, counted
without bound, and the field of each message holds that time modulo `2 ^ 32`.

## What is proved

`follows_iff` — the time stamps of a channel go up with the time of the device, tick by
tick, exactly when the counter of the device does not wrap between two frames.
-/

namespace CanGuru

open Packed

namespace TimeStamps

/-- `canguru_net_recv`, `linguru_net_recv`. -/
def netRecv : Bus → List UInt8 → NetDevice → NetDevice × List Fault
  | .can => canguruNetRecv true
  | .lin => linguruNetRecv true

/-- A received frame. -/
structure Reception where
  /-- The time of the device, in ticks. -/
  time : ℕ
  /-- The message. -/
  msg : GuruData

/-- The message carries the time in the 32 bits of its field. -/
def Reception.Stamped (r : Reception) : Prop := readLE 1 4 r.msg.data = r.time % 2 ^ 32

/-- The frames are received, one after the other. -/
def receive (bus : Bus) (rs : List Reception) (d : NetDevice) : NetDevice :=
  rs.foldl (fun d r => (netRecv bus r.msg.data d).1) d

/-- The time stamps that are attached to the frames. -/
def stamps (bus : Bus) (rs : List Reception) (d : NetDevice) : List ℕ :=
  ((receive bus rs d).rx.drop d.rx.length).map RxFrame.hwtstamp

/-- **The time stamps follow the times of the device**: there is one for each frame, they do
not decrease, and from one to the next they grow by the ticks that passed. -/
structure Follows (times stamps : List ℕ) : Prop where
  /-- One for each frame. -/
  length : stamps.length = times.length
  /-- They do not decrease. -/
  mono : stamps.Pairwise (· ≤ ·)
  /-- They grow by the ticks. -/
  gaps : (times.zip stamps).IsChain fun p q => q.2 = p.2 + 100000 * (q.1 - p.1)

/-- The counter of the device does not wrap from one frame to the next. -/
def NoWrap (times : List ℕ) : Prop := times.IsChain fun t t' => t / 2 ^ 32 = t' / 2 ^ 32

/-! ### A counter that wraps -/

/-- A counter that is cut goes up with the one that is not as long as it does not wrap. -/
theorem mod_add_sub_iff {m t t' : ℕ} (hm : 0 < m) (h : t ≤ t') :
    t' % m = t % m + (t' - t) ↔ t / m = t' / m := by
  have ht := Nat.div_add_mod t m
  have ht' := Nat.div_add_mod t' m
  constructor
  · intro hmod
    have hmul : m * (t / m) = m * (t' / m) := by omega
    exact Nat.eq_of_mul_eq_mul_left hm hmul
  · intro hdiv
    rw [hdiv] at ht
    omega

/-- Relations that agree on the links of a chain have the same chains. -/
theorem isChain_iff_of {α : Type} {R P Q : α → α → Prop} (hPQ : ∀ a b, R a b → (P a b ↔ Q a b))
    {l : List α} (hR : l.IsChain R) : l.IsChain P ↔ l.IsChain Q := by
  induction l with
  | nil => simp
  | cons a l ih =>
    cases l with
    | nil => simp
    | cons b l =>
      rw [List.isChain_cons_cons] at hR ⊢
      rw [List.isChain_cons_cons, hPQ a b hR.1, ih hR.2]

/-! ### The stamps of a channel -/

/-- A received frame gets the time of its message, in nanoseconds. -/
theorem netRecv_rx (bus : Bus) (data : List UInt8) (d : NetDevice) :
    ∃ f : RxFrame, (netRecv bus data d).1.rx = d.rx ++ [f] ∧
      f.hwtstamp = readLE 1 4 data * 100000 := by
  cases bus with
  | can => exact ⟨_, rfl, rfl⟩
  | lin => exact ⟨_, rfl, rfl⟩

theorem stamps_eq (bus : Bus) {rs : List Reception} (hrs : ∀ r ∈ rs, r.Stamped) (d : NetDevice) :
    stamps bus rs d = (rs.map Reception.time).map fun t => t % 2 ^ 32 * 100000 := by
  have hrx : ∃ fs : List RxFrame, (receive bus rs d).rx = d.rx ++ fs ∧
      fs.map RxFrame.hwtstamp = (rs.map Reception.time).map fun t => t % 2 ^ 32 * 100000 := by
    induction rs generalizing d with
    | nil => exact ⟨[], (List.append_nil _).symm, rfl⟩
    | cons r rs ih =>
      obtain ⟨f, hf, hstamp⟩ := netRecv_rx bus r.msg.data d
      obtain ⟨fs, hfs, hstamps⟩ :=
        ih (fun r' hr' => hrs r' (List.mem_cons_of_mem r hr')) (netRecv bus r.msg.data d).1
      refine ⟨f :: fs, ?_, ?_⟩
      · rw [receive, List.foldl_cons, ← receive, hfs, hf, List.append_assoc, List.singleton_append]
      · have htime : readLE 1 4 r.msg.data = r.time % 2 ^ 32 := hrs r List.mem_cons_self
        rw [List.map_cons, List.map_cons, List.map_cons, hstamps, hstamp, htime]
  obtain ⟨fs, hfs, hstamps⟩ := hrx
  rw [stamps, hfs, List.drop_left, hstamps]

/-- **The time stamps follow the device** exactly when its counter does not wrap between two
frames. -/
theorem follows_iff (bus : Bus) {rs : List Reception} (hrs : ∀ r ∈ rs, r.Stamped)
    (hmono : (rs.map Reception.time).IsChain (· ≤ ·)) (d : NetDevice) :
    Follows (rs.map Reception.time) (stamps bus rs d) ↔ NoWrap (rs.map Reception.time) := by
  rw [stamps_eq bus hrs]
  generalize rs.map Reception.time = times at hmono
  have hlink : ∀ t t', t ≤ t' →
      (t' % 2 ^ 32 * 100000 = t % 2 ^ 32 * 100000 + 100000 * (t' - t) ↔
          t / 2 ^ 32 = t' / 2 ^ 32) := by
    intro t t' hle
    rw [← mod_add_sub_iff (Nat.two_pow_pos 32) hle]
    omega
  have hchain :
    times.IsChain (fun t t' => t' % 2 ^ 32 * 100000 = t % 2 ^ 32 * 100000 + 100000 * (t' - t)) ↔
      NoWrap times := isChain_iff_of hlink hmono
  constructor
  · intro h
    have hgaps := h.gaps
    rw [← List.map_prod_left_eq_zip, List.isChain_map] at hgaps
    exact hchain.mp hgaps
  · intro h
    have hgaps := hchain.mpr h
    refine ⟨List.length_map _, List.isChain_iff_pairwise.mp ?_, ?_⟩
    · rw [List.isChain_map]
      refine hgaps.imp fun t t' hgap => ?_
      rw [hgap]
      exact Nat.le_add_right _ _
    · rw [← List.map_prod_left_eq_zip, List.isChain_map]
      exact hgaps

/-- A received frame of 1 byte at tick `time`, for both buses. -/
def recvAt (time : ℕ) : Reception where
  time := time
  msg := .fill CAN_MSG_RECV (0 :: toLE 4 (time % 2 ^ 32) ++ [1, 1, 0, 0, 0, 0, 0, 0, 0])

theorem recvAt_stamped (time : ℕ) : (recvAt time).Stamped := by
  have hread : readLE 1 4 (recvAt time).msg.data = time % 2 ^ 32 % 256 ^ 4 :=
    readLE_append [0] _ _ rfl
  rw [Reception.Stamped, hread]
  exact Nat.mod_mod _ _

/-- Three frames in a row. -/
theorem follows_three :
    Follows [5, 5, 70] (stamps .lin [recvAt 5, recvAt 5, recvAt 70] (.create 2)) :=
  (@follows_iff .lin [recvAt 5, recvAt 5, recvAt 70] (by simp [recvAt_stamped]) (by decide) (.create 2)).mpr
    (by unfold NoWrap; decide)

/-- The stamp of a frame after the wrap is lower than that of the one before. -/
theorem not_follows_wrap :
    ¬ Follows [2 ^ 32 - 1,
      2 ^ 32] (stamps .can [recvAt (2 ^ 32 - 1), recvAt (2 ^ 32)] (.create 0)) := by
  intro h
  have hstamps : stamps .can [recvAt (2 ^ 32 - 1), recvAt (2 ^ 32)] (.create 0) =
      [429496729500000, 0] := by decide
  rw [hstamps] at h
  exact absurd h.mono (by decide)

end TimeStamps

end CanGuru
