import CanGuru.Lib.Machine
import CanGuru.Lib.BufferPool
import CanGuru.Lifecycle.Run

/-!
# The buffers that are received into

`canguru_usb_rx_init` submits 32 URBs, and from then on every URB goes round: the host
controller receives a transfer into its buffer, its completion handler dispatches the messages
straight out of that buffer, and submits it again. An URB whose handler does not do that, or
fails to, is never submitted again.

## The model

The host controller works on the submitted URBs in order and writes into their memory, with
any status, whenever it has one. The completion handlers run one after the other in the order
of completion. A handler is entered in one step and does its work in another, and reads the
buffer only then: the host controller goes on in between.

## What is proved

* `orderly_of_run` — **no transfer is lost, repeated, reordered or overwritten**: in every state
  of every run the handlers have seen the transfers in order, each with its status, its length
  and its bytes, and those they have not seen are still in their buffers; the driver is what
  they made of it. Each transfer that the handler gives up on, and each submission that fails,
  costs one of the 32 URBs. The device can receive at once while the host controller has an
  URB, and once more at some time while not all of them are lost or hold a transfer that their
  handler will give up on.
-/

namespace CanGuru

open Machine BufferPool

namespace RxPool

/-- What the host controller makes of an URB. -/
structure Transfer where
  /-- The status. -/
  status : ℤ
  /-- The bytes received, which fit the buffer. -/
  data : List UInt8

/-- The URB after the transfer: the bytes behind those received stay as they were. -/
def Transfer.complete (x : Transfer) (urb : BulkUrb) : BulkUrb where
  status := x.status
  transferBufferLength := urb.transferBufferLength
  actualLength := UInt32.ofNat x.data.length
  transferBuffer := x.data ++ urb.transferBuffer.drop x.data.length

/-- An URB as its handler found it. -/
structure Handled where
  /-- Frames could be allocated. -/
  alloc : Bool
  /-- The URB. -/
  urb : BulkUrb
  /-- What its submission returned, if there was one. -/
  err : ℤ

/-- The URB was submitted again. -/
def Handled.Again (u : Handled) : Prop := Lifecycle.Resubmits u.urb.status ∧ u.err = 0

instance (u : Handled) : Decidable u.Again := inferInstanceAs (Decidable (_ ∧ _))

/-- The device. -/
structure St where
  /-- The driver. -/
  guru : Guru
  /-- The URBs as far as it has them in hand. -/
  usb : Usb
  /-- The URBs with their buffers. -/
  pool : Pool ℕ BulkUrb
  /-- The transfers, newest last. -/
  transfers : List Transfer
  /-- The URBs that were handled, newest last. -/
  handled : List Handled

/-- The steps. -/
inductive Event where
  /-- The host controller is done with its next URB. -/
  | transfer (x : Transfer)
  /-- The completion handler of the next completed URB is entered. -/
  | enter
  /-- It does its work, and what its resubmission returns. -/
  | callback (alloc : Bool) (err : ℤ)

/-- The completion handler of URB `i` does its work. -/
def St.work (i : ℕ) (alloc : Bool) (err : ℤ) (s : St) : St :=
  let urb := s.pool.mem i
  let (guru, resubmit) := canguruReadBulkCallback (runCallback alloc) urb s.guru
  { s with
    guru := guru
    usb := s.usb.rxComplete i resubmit err
    pool := s.pool.release (resubmit && decide (err = 0))
    handled := s.handled ++ [⟨alloc, urb, err⟩] }

/-- How many URBs were not submitted again. -/
def St.retired (s : St) : ℕ := s.handled.countP fun u => ¬ u.Again

/-- How many hold a transfer that their handler will give up on. -/
def St.doomed (s : St) : ℕ := s.pool.pending.countP fun urb => ¬ Lifecycle.Resubmits urb.status

/-- What a step does, where it can happen. -/
def step (s : St) : Event → Option St
  | .transfer x =>
    if x.data.length ≤ GURU_DATA_SIZE then
      (s.pool.fill x.complete).map fun pool =>
        { s with pool := pool, transfers := s.transfers ++ [x] }
    else none
  | .enter => s.pool.take.map fun pool => { s with pool := pool }
  | .callback alloc err =>
    match s.pool.held with
    | none => none
    | some i => some (s.work i alloc err)

/-- A device whose URBs were submitted. -/
structure Start (s : St) : Prop where
  /-- By `canguru_usb_rx_init`. -/
  usb : ∃ o tx, canguruUsbRxInit o ⟨[], tx⟩ = (0, s.usb)
  /-- The host controller has them all, in order. -/
  pool : s.pool.free = List.range GURU_MAX_URBS ∧ s.pool.full = [] ∧ s.pool.held = none
  /-- Their buffers have the size of a message. -/
  buffers : ∀ i, (s.pool.mem i).transferBufferLength = 128 ∧
    (s.pool.mem i).transferBuffer.length = GURU_DATA_SIZE
  /-- Nothing was received. -/
  fresh : s.transfers = [] ∧ s.handled = []

/-! ### What is to be shown -/

/-- An URB has what a transfer brought. -/
structure Carries (urb : BulkUrb) (x : Transfer) : Prop where
  /-- The status. -/
  status : urb.status = x.status
  /-- The number of bytes. -/
  actualLength : urb.actualLength.toNat = x.data.length
  /-- The bytes. -/
  data : urb.transferBuffer.take x.data.length = x.data
  /-- The size of the buffer is that of a message. -/
  size : urb.transferBufferLength = 128 ∧ urb.transferBuffer.length = GURU_DATA_SIZE

/-- **The transfers are handled in order**, by a driver that was `guru`. -/
structure Orderly (guru : Guru) (s : St) : Prop where
  /-- The handlers have seen the transfers, and the buffers have the others. -/
  carries : List.Forall₂ Carries (s.handled.map Handled.urb ++ s.pool.pending) s.transfers
  /-- The driver is what the handlers made of it. -/
  driver : s.guru =
    s.handled.foldl (fun g u => (canguruReadBulkCallback (runCallback u.alloc) u.urb g).1) guru
  /-- Every buffer is in one place. -/
  apart : s.pool.Apart
  /-- An URB is in flight exactly as long as it has one. -/
  inFlight : ∀ i u, s.usb.rx[i]? = some u → (u.inFlight = true ↔ i ∈ s.pool.free ++ s.pool.unread)
  /-- The others were not submitted again. -/
  retired : (s.pool.free ++ s.pool.unread).length + s.retired = GURU_MAX_URBS
  /-- The device can receive at once exactly while the host controller has one. -/
  now : (∃ x, step s (.transfer x) ≠ none) ↔ s.pool.free ≠ []
  /-- It can receive once more, at once or after some handlers, exactly while there is one that
  is not retired and will not be for its status. -/
  later : (∃ es t x, run step s es = some t ∧ step t (.transfer x) ≠ none) ↔
    s.retired + s.doomed < GURU_MAX_URBS

/-! ### The invariant -/

/-- The invariant. -/
structure Inv (guru : Guru) (s : St) : Prop where
  /-- The transfers. -/
  carries : List.Forall₂ Carries (s.handled.map Handled.urb ++ s.pool.pending) s.transfers
  /-- The driver. -/
  driver : s.guru =
    s.handled.foldl (fun g u => (canguruReadBulkCallback (runCallback u.alloc) u.urb g).1) guru
  /-- The places. -/
  apart : s.pool.Apart
  /-- The URBs. -/
  inFlight : ∀ i u, s.usb.rx[i]? = some u → (u.inFlight = true ↔ i ∈ s.pool.free ++ s.pool.unread)
  /-- Their number. -/
  retired : (s.pool.free ++ s.pool.unread).length + s.retired = GURU_MAX_URBS
  /-- Every buffer has the size of a message. -/
  buffers : ∀ i, (s.pool.mem i).transferBufferLength = 128 ∧
    (s.pool.mem i).transferBuffer.length = GURU_DATA_SIZE

theorem rx_of_init {o : ℕ → SendOutcome} {tx : List Urb} {usb : Usb}
    (h : canguruUsbRxInit o ⟨[], tx⟩ = (0, usb)) :
    usb.rx = List.replicate GURU_MAX_URBS .submitted := by
  rcases rx_cases o with hok | ⟨m, hm, hlt, herr⟩
  · rw [canguruUsbRxInit_ok hok, Prod.mk.injEq] at h
    rw [← h.2, List.nil_append]
  · rw [canguruUsbRxInit_err hlt hm herr, Prod.mk.injEq] at h
    exact absurd (SendOutcome.rxErr_eq_zero.mp h.1) herr

theorem Start.inv {s : St} (h : Start s) : Inv s.guru s := by
  obtain ⟨hfree, hfull, hheld⟩ := h.pool
  obtain ⟨htransfers, hhandled⟩ := h.fresh
  obtain ⟨o, tx, hinit⟩ := h.usb
  have hrx := rx_of_init hinit
  have hunread : s.pool.unread = [] := by rw [Pool.unread, hheld, hfull]; rfl
  refine ⟨?_, ?_, ?_, fun i u hu => ?_, ?_, h.buffers⟩
  · rw [htransfers, hhandled, Pool.pending, hunread]
    exact .nil
  · rw [hhandled]
    rfl
  · rw [Pool.Apart, hfree, hunread, List.append_nil]
    exact List.nodup_range
  · rw [hrx] at hu
    obtain ⟨hlt, rfl⟩ := List.getElem?_eq_some_iff.mp hu
    rw [List.length_replicate] at hlt
    rw [hfree, hunread, List.append_nil, List.mem_range, List.getElem_replicate]
    exact ⟨fun _ => hlt, fun _ => rfl⟩
  · rw [hfree, hunread, St.retired, hhandled, List.append_nil, List.length_range, List.countP_nil,
      Nat.add_zero]

section Steps

variable {guru : Guru} {s s' : St}

/-- An URB after a transfer has what it brought. -/
theorem carries_complete {x : Transfer} (hx : x.data.length ≤ GURU_DATA_SIZE) {urb : BulkUrb}
    (hsize : urb.transferBufferLength = 128 ∧ urb.transferBuffer.length = GURU_DATA_SIZE) :
    Carries (x.complete urb) x where
  status := rfl
  actualLength := UInt32.toNat_ofNat_of_lt' (lt_of_le_of_lt hx (by decide))
  data := List.take_left
  size := by
    refine ⟨hsize.1, ?_⟩
    rw [Transfer.complete, List.length_append, List.length_drop, hsize.2]
    omega

theorem Inv.transfer (h : Inv guru s) {x : Transfer} (hs : step s (.transfer x) = some s') :
    Inv guru s' := by
  rw [step] at hs
  split at hs
  case isFalse => cases hs
  case isTrue hx =>
    obtain ⟨pool, hfill, rfl⟩ := Option.map_eq_some_iff.mp hs
    obtain ⟨i, hnext, hpending⟩ := pending_fill h.apart hfill
    obtain ⟨j, hfree, hunread, -, hmem⟩ := fill_eq_some hfill
    obtain rfl : i = j := (List.cons.inj (hnext.symm.trans hfree)).1
    have hcarries := carries_complete hx (h.buffers i)
    have hperm : (pool.free ++ pool.unread).Perm (s.pool.free ++ s.pool.unread) := by
      rw [hfree, hunread, ← List.append_assoc]
      exact List.perm_append_singleton i _
    refine ⟨?_, h.driver, h.apart.fill hfill, fun k u hu => ?_, ?_, fun k => ?_⟩
    · rw [hpending, ← List.append_assoc]
      exact List.rel_append h.carries (.cons hcarries .nil)
    · rw [hperm.mem_iff]
      exact h.inFlight k u hu
    · rw [hperm.length_eq]
      exact h.retired
    · show (pool.mem k).transferBufferLength = 128 ∧
        (pool.mem k).transferBuffer.length = GURU_DATA_SIZE
      rw [hmem]
      by_cases hk : k = i
      · rw [hk, Function.update_self]
        exact hcarries.size
      · rw [Function.update_of_ne hk]
        exact h.buffers k

theorem Inv.enter (h : Inv guru s) (hs : step s .enter = some s') : Inv guru s' := by
  rw [step] at hs
  obtain ⟨pool, htake, rfl⟩ := Option.map_eq_some_iff.mp hs
  obtain ⟨-, -, -, -, hfree, hmem⟩ := take_eq_some htake
  have hplaces : pool.free ++ pool.unread = s.pool.free ++ s.pool.unread := by
    rw [hfree, unread_take htake]
  refine ⟨?_, h.driver, h.apart.take htake, fun i u hu => ?_, ?_, fun i => ?_⟩
  · rw [pending_take htake]
    exact h.carries
  · rw [hplaces]
    exact h.inFlight i u hu
  · rw [hplaces]
    exact h.retired
  · show (pool.mem i).transferBufferLength = 128 ∧
      (pool.mem i).transferBuffer.length = GURU_DATA_SIZE
    rw [hmem]
    exact h.buffers i

theorem again_eq {i : ℕ} (alloc : Bool) (err : ℤ) (s : St) :
    ((canguruReadBulkCallback (runCallback alloc) (s.pool.mem i) s.guru).2 && decide (err = 0)) =
      decide (Handled.Again ⟨alloc, s.pool.mem i, err⟩) := by
  rw [Lifecycle.readBulkCallback_snd]
  exact (Bool.decide_and ..).symm

/-- The places after a handler has done its work: its buffer is with the host controller again
or in none. -/
theorem places_work {i : ℕ} (hheld : s.pool.held = some i) (again : Bool) :
    ((s.pool.release again).free ++ (s.pool.release again).unread).Perm
      ((if again then [i] else []) ++ (s.pool.free ++ s.pool.full)) := by
  simp only [Pool.unread, Pool.release, hheld, Option.toList_none, Option.toList_some,
    List.nil_append]
  rw [← List.append_assoc]
  exact List.perm_append_comm.append_right _

theorem Inv.work (h : Inv guru s) {i : ℕ} (hheld : s.pool.held = some i) (alloc : Bool) (err : ℤ) :
    Inv guru (s.work i alloc err) := by
  set u : Handled := ⟨alloc, s.pool.mem i, err⟩
  have hpool : (s.work i alloc err).pool = s.pool.release (decide u.Again) := by
    rw [← again_eq]; rfl
  have hrx : (s.work i alloc err).usb.rx =
      s.usb.rx.modify i fun v => { Usb.complete v with inFlight := decide u.Again } := by
        rw [← again_eq]; rfl
  have hbefore : (s.pool.free ++ s.pool.unread).Perm (i :: (s.pool.free ++ s.pool.full)) := by
    rw [Pool.unread, hheld]
    exact List.perm_middle
  have hafter := places_work hheld (decide u.Again)
  have hnotin := (List.nodup_cons.mp (hbefore.nodup_iff.mp h.apart)).1
  refine ⟨?_, ?_, ?_, fun k v hv => ?_, ?_, h.buffers⟩
  · show List.Forall₂ Carries ((s.handled ++ [u]).map Handled.urb ++ _) s.transfers
    rw [hpool, List.map_append, List.append_assoc]
    have hcarries := h.carries
    rwa [pending_release hheld (decide u.Again)] at hcarries
  · show _ = (s.handled ++ [u]).foldl _ guru
    rw [List.foldl_concat, ← h.driver]
    rfl
  · rw [hpool]
    exact h.apart.release _
  · rw [hrx, List.getElem?_modify] at hv
    obtain ⟨w, hw, rfl⟩ := Option.map_eq_some_iff.mp hv
    have hflight := h.inFlight k w hw
    rw [hbefore.mem_iff, List.mem_cons] at hflight
    rw [hpool, hafter.mem_iff, List.mem_append]
    by_cases hk : i = k
    · subst hk
      rw [if_pos rfl]
      by_cases ha : u.Again <;> simp [ha, hnotin]
    · rw [if_neg hk, hflight]
      by_cases ha : u.Again <;> simp [ha, Ne.symm hk]
  · have hcount := h.retired
    rw [hbefore.length_eq, List.length_cons] at hcount
    rw [hpool, hafter.length_eq, List.length_append, ← hcount, St.retired, St.retired,
      show (s.work i alloc err).handled = s.handled ++ [u] from rfl, List.countP_append,
        List.countP_singleton]
    by_cases ha : u.Again <;> simp [ha] <;> omega

/-- **One step** keeps the invariant. -/
theorem inv_step (s : St) (e : Event) (s' : St) (h : Inv guru s) (hs : step s e = some s') :
    Inv guru s' := by
  cases e with
  | transfer x => exact h.transfer hs
  | enter => exact h.enter hs
  | callback alloc err =>
    rw [step] at hs
    split at hs
    case h_1 => cases hs
    case h_2 i hheld =>
      obtain rfl := Option.some.inj hs
      exact h.work hheld alloc err

/-! ### How long the device receives -/

/-- A transfer needs an URB that the host controller has, and it can be empty. -/
theorem transfer_iff : (∃ x, step s (.transfer x) ≠ none) ↔ s.pool.free ≠ [] := by
  constructor
  · rintro ⟨x, hx⟩ hfree
    exact hx (by simp [step, Pool.fill, hfree])
  · intro hne
    obtain ⟨i, free, hfree⟩ := List.exists_cons_of_ne_nil hne
    exact ⟨⟨0, []⟩, by simp [step, Pool.fill, hfree]⟩

/-- An URB is retired or doomed at most once. -/
theorem Inv.doomed_le (h : Inv guru s) : s.retired + s.doomed ≤ GURU_MAX_URBS := by
  have hcount := h.retired
  have hle : s.doomed ≤ s.pool.unread.length :=
    List.countP_le_length.trans (List.length_map ..).le
  rw [List.length_append] at hcount
  omega

/-- The host controller has none, and every handler will give up. -/
structure Dead (s : St) : Prop where
  free : s.pool.free = []
  pending : ∀ urb ∈ s.pool.pending, ¬ Lifecycle.Resubmits urb.status

theorem Inv.dead (h : Inv guru s) (hall : s.retired + s.doomed = GURU_MAX_URBS) : Dead s := by
  have hcount := h.retired
  have hlen : s.pool.pending.length = s.pool.unread.length := List.length_map ..
  have hle : s.doomed ≤ s.pool.pending.length := List.countP_le_length
  rw [List.length_append] at hcount
  have hfree : s.pool.free.length = 0 := by omega
  refine ⟨List.length_eq_zero_iff.mp hfree, fun urb hurb => ?_⟩
  have hdoomed : s.doomed = s.pool.pending.length := by omega
  exact of_decide_eq_true (List.countP_eq_length.mp hdoomed urb hurb)

theorem Dead.step (h : Dead s) {e : Event} (hs : step s e = some s') : Dead s' := by
  obtain ⟨hfree, hpending⟩ := h
  cases e with
  | transfer x => exact absurd (hs ▸ Option.some_ne_none s') fun hne =>
    transfer_iff.mp ⟨x, hne⟩ hfree
  | enter =>
    rw [RxPool.step] at hs
    obtain ⟨pool, htake, rfl⟩ := Option.map_eq_some_iff.mp hs
    obtain ⟨-, -, -, -, hfree', -⟩ := take_eq_some htake
    exact ⟨hfree'.trans hfree, (pending_take htake).symm ▸ hpending⟩
  | callback alloc err =>
    rw [RxPool.step] at hs
    split at hs
    case h_1 => cases hs
    case h_2 i hheld =>
      obtain rfl := Option.some.inj hs
      have hpool :
          (s.work i alloc err).pool =
          s.pool.release (decide (Handled.Again ⟨alloc, s.pool.mem i, err⟩)) := by
        rw [← again_eq]
        rfl
      rw [pending_release hheld (decide (Handled.Again ⟨alloc, s.pool.mem i, err⟩)),
        ← hpool] at hpending
      obtain ⟨hgive, hrest⟩ := List.forall_mem_cons.mp hpending
      refine ⟨?_, hrest⟩
      rw [hpool, decide_eq_false fun ha => hgive ha.1, Pool.release, hfree]
      rfl

/-- The handlers that are still to run, with every submission successful. -/
def Event.Handler : Event → Prop
  | .enter => True
  | .callback _ err => err = 0
  | .transfer _ => False

/-- Such a handler retires an URB only if it was doomed. -/
theorem doomed_handler {e : Event} (he : e.Handler) (hs : step s e = some s') :
    s'.retired + s'.doomed = s.retired + s.doomed := by
  cases e with
  | transfer x => exact he.elim
  | enter =>
    rw [step] at hs
    obtain ⟨pool, htake, rfl⟩ := Option.map_eq_some_iff.mp hs
    rw [St.doomed, St.doomed, pending_take htake]
    rfl
  | callback alloc err =>
    obtain rfl : err = 0 := he
    rw [step] at hs
    split at hs
    case h_1 => cases hs
    case h_2 i hheld =>
      obtain rfl := Option.some.inj hs
      set u : Handled := ⟨alloc, s.pool.mem i, 0⟩
      have hpool : (s.work i alloc 0).pool = s.pool.release (decide u.Again) := by
        rw [← again_eq]; rfl
      have hagain : u.Again ↔ Lifecycle.Resubmits (s.pool.mem i).status := and_iff_left rfl
      rw [St.retired, St.doomed, St.retired, St.doomed, hpool,
        pending_release hheld (decide u.Again),
        show (s.work i alloc 0).handled = s.handled ++ [u] from rfl, List.countP_append,
        List.countP_singleton, List.countP_cons]
      by_cases ha : u.Again
      · simp [ha, ← hagain]
      · simp [ha, ← hagain]
        omega

/-- How many steps they still have to take. -/
def St.toHandle (s : St) : ℕ := 2 * s.pool.full.length + s.pool.held.toList.length

theorem toHandle_lt (s : St) (e : Event) (s' : St) (he : e.Handler) (hs : step s e = some s') :
    s'.toHandle < s.toHandle := by
  cases e with
  | transfer x => exact he.elim
  | enter =>
    rw [step] at hs
    obtain ⟨pool, htake, rfl⟩ := Option.map_eq_some_iff.mp hs
    obtain ⟨i, hheld, hfull, hheld', -, -⟩ := take_eq_some htake
    simp only [St.toHandle, hheld, hfull, hheld', Option.toList_none, Option.toList_some,
      List.length_cons, List.length_nil]
    omega
  | callback alloc err =>
    rw [step] at hs
    split at hs
    case h_1 => cases hs
    case h_2 i hheld =>
      obtain rfl := Option.some.inj hs
      have hpool : (s.work i alloc err).pool.full = s.pool.full ∧
          (s.work i alloc err).pool.held = none := ⟨rfl, rfl⟩
      simp only [St.toHandle, hpool.1, hpool.2, hheld, Option.toList_none, Option.toList_some,
        List.length_cons, List.length_nil]
      omega

theorem unread_of_stuck (h : ∀ e, Event.Handler e → step s e = none) : s.pool.unread = [] := by
  have hheld : s.pool.held = none := by
    by_contra hne
    obtain ⟨i, hheld⟩ := Option.ne_none_iff_exists'.mp hne
    have hs := h (.callback true 0) rfl
    simp [step, hheld] at hs
  have hs := h .enter trivial
  cases hfull : s.pool.full with
  | nil => rw [Pool.unread, hheld, hfull]; rfl
  | cons i full => simp [step, Pool.take, hheld, hfull] at hs

/-- **The device receives once more** exactly while an URB is neither retired nor doomed. -/
theorem Inv.later (h : Inv guru s) :
    (∃ es t x, run step s es = some t ∧ step t (.transfer x) ≠ none) ↔
    s.retired + s.doomed < GURU_MAX_URBS := by
  constructor
  · rintro ⟨es, t, x, hr, hx⟩
    by_contra hall
    have hdead : Dead s := h.dead (le_antisymm h.doomed_le (Nat.le_of_not_lt hall))
    have ht : Dead t := inv_of_run (fun _ _ _ hv hs => hv.step hs) hdead hr
    exact transfer_iff.mp ⟨x, hx⟩ ht.free
  · intro hlt
    have hstep : ∀ v e v', Inv guru v ∧ v.retired + v.doomed < GURU_MAX_URBS → Event.Handler e →
        step v e = some v' → Inv guru v' ∧ v'.retired + v'.doomed < GURU_MAX_URBS :=
      fun v e v' hv he hs => ⟨inv_step v e v' hv.1 hs, (doomed_handler he hs).trans_lt hv.2⟩
    obtain ⟨es, t, hr, hes, hstuck⟩ :=
      exists_run_stuck hstep (fun v e v' _ he hs => toHandle_lt v e v' he hs) ⟨h, hlt⟩
    obtain ⟨ht, hlt'⟩ := inv_of_forall hstep ⟨h, hlt⟩ hes hr
    have hcount := ht.retired
    rw [unread_of_stuck hstuck, List.append_nil] at hcount
    have hfree : t.pool.free ≠ [] := by
      intro hnil
      rw [hnil, List.length_nil] at hcount
      omega
    obtain ⟨x, hx⟩ := transfer_iff.mpr hfree
    exact ⟨es, t, x, hr, hx⟩

/-- **The invariant gives the property.** -/
theorem Inv.orderly (h : Inv guru s) : Orderly guru s :=
  ⟨h.carries, h.driver, h.apart, h.inFlight, h.retired, transfer_iff, h.later⟩

/-- **No transfer is lost, repeated, reordered or overwritten**, in every state of every run. -/
theorem orderly_of_run {s t : St} (h : Start s) {es : List Event} (hr : run step s es = some t) :
    Orderly s.guru t :=
  (inv_of_run inv_step h.inv hr).orderly

end Steps

/-! ### A run -/

/-- A probed device whose buffers are zero. -/
def probed : St where
  guru := DeviceKind.canguru.ready
  usb := (canguruUsbRxInit (fun _ => .ok) ⟨[], []⟩).2
  pool := ⟨fun _ => ⟨0, 128, 0, List.replicate GURU_DATA_SIZE 0⟩,
    List.range GURU_MAX_URBS, [], none⟩
  transfers := []
  handled := []

theorem start_probed : Start probed where
  usb := ⟨fun _ => .ok, [], rfl⟩
  pool := ⟨rfl, rfl, rfl⟩
  buffers := fun _ => ⟨rfl, List.length_replicate⟩
  fresh := ⟨rfl, rfl⟩

/-- A transfer overtakes the handler of the one before it, and is lost on the bus. -/
def overtaken : List Event :=
  [.transfer ⟨0, (GuruData.fill GURU_MSG_GET_VERSION [0x31]).toBytes⟩, .enter,
    .transfer ⟨-EPROTO, []⟩, .callback true 0, .enter, .callback true 0]

/-- One URB is left out after it. -/
theorem orderly_overtaken : ∃ t, run step probed overtaken = some t ∧ t.retired = 1 ∧
    Orderly probed.guru t := by
  obtain ⟨t, ht, hone⟩ : ∃ t, run step probed overtaken = some t ∧ t.retired = 1 := ⟨_, rfl, rfl⟩
  exact ⟨t, ht, hone, orderly_of_run start_probed ht⟩

end RxPool

end CanGuru
