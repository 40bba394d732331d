import CanGuru.Lib.Machine
import CanGuru.Lib.Slots
import CanGuru.Boot
import Mathlib.Data.Set.Function

/-!
# Creations and destructions without a lock

`guru_boot_create` looks for a free entry of `guru_boot_table` in one place and takes it in
another, and `guru_boot_destroy` gives up the device node before the entry. Probes and
disconnects of devices on different hubs run at the same time, and nothing orders them.

## The model

Each boot device has a place in the code, `Pc`, and a step is one access to the table, one call
of the kernel or one byte that `sprintf` writes; the steps of different boot devices come in any
order. `device_create` refuses a number that has a node, as the kernel does, and may fail for
any other reason. The serial number is a string, and the memory for it is clear at first, so
what was written of it is the string that is there.

## What is proved

* `create_alone` — the steps of one creation that nothing disturbs make `guruBootCreate`.
* `kept_iff` — **every device keeps its entry** until it gives up its node, in every state of a
  run, exactly if no destruction clears the entry of another device that has not given up its
  node. In any case no two devices have the same number, thanks to the kernel.
* `jammed_of_run` — **a lost entry blocks all later devices**: if the entries below it are taken
  and nothing is being created or destroyed, then as long as the device that lost it and those
  below it stay, every creation picks the lost number and is refused by `device_create`.
-/

namespace CanGuru

open Machine Slots

namespace Race

/-- Where a boot device is in `guru_boot_create` or `guru_boot_destroy`. -/
inductive Pc where
  /-- In neither, and not created. -/
  | idle
  /-- Before it looks at an entry of the table. -/
  | scan (idx : ℕ)
  /-- Before `cdev_add`. -/
  | add
  /-- Before `device_create`. -/
  | node
  /-- Before it takes the entry. -/
  | enter
  /-- Before the check in `guru_sn_init`. -/
  | check
  /-- In `sprintf`, which has written `n` bytes. -/
  | print (n : ℕ)
  /-- In neither, and created. -/
  | live
  /-- Before `device_destroy`. -/
  | unnode
  /-- Before it gives up the entry. -/
  | clear
  /-- Before `cdev_del`. -/
  | del
  deriving DecidableEq

namespace Pc

/-- It has a node. -/
@[simp] def HasNode : Pc → Prop
  | enter | check | print _ | live | unnode => True
  | _ => False

/-- It has taken an entry and not given it up. -/
@[simp] def HasEntry : Pc → Prop
  | check | print _ | live | unnode => True
  | _ => False

/-- Its character device is added. -/
@[simp] def HasCdev : Pc → Prop
  | node | enter | check | print _ | live | unnode | clear | del => True
  | _ => False

end Pc

/-- The boot devices. -/
structure St where
  /-- What the code and the kernel have of them. -/
  boots : GuruBoots
  /-- Where each is. -/
  pc : ℕ → Pc
  /-- The serial number of the USB device of each. -/
  serial : ℕ → List UInt8

/-- The steps. -/
inductive Event where
  /-- `guru_boot_create` is called for a new boot device. -/
  | create (b : ℕ) (serial : List UInt8)
  /-- `guru_boot_destroy` is called. -/
  | destroy (b : ℕ)
  /-- The next step of a boot device, and what a call of the kernel in it returns. -/
  | next (b : ℕ) (err : ℤ)

namespace St

/-- A boot device goes on at `p`, among the boot devices `boots`. -/
def goto (b : ℕ) (p : Pc) (boots : GuruBoots) (s : St) : St :=
  { s with boots := boots, pc := Function.update s.pc b p }

/-- The number of a boot device has a node. -/
def taken (b : ℕ) (s : St) : Bool := s.boots.nodes.any fun e => e.1 = s.boots.minorNum b

/-- What `sprintf` writes. -/
def line (b : ℕ) (s : St) : List UInt8 := s.serial b ++ [0x0A]

/-- The next step of a boot device. -/
def next (b : ℕ) (err : ℤ) (s : St) : Option St :=
  let boots := s.boots
  let minor := boots.minorNum b
  match s.pc b with
  | .idle => none
  | .scan idx =>
    if boots.table idx = none then
      some (s.goto b .add { boots with minorNum := Function.update boots.minorNum b idx })
    else if GURU_DEV_MAX - 1 ≤ idx then some (s.goto b .idle boots)
    else some (s.goto b (.scan (idx + 1)) boots)
  | .add =>
    if err ≠ 0 then some (s.goto b .idle boots)
    else some (s.goto b .node { boots with cdevs := boots.cdevs ++ [(0, b)] })
  | .node =>
    if s.taken b ∨ err ≠ 0 then some (s.goto b .del boots)
    else some (s.goto b .enter { boots with nodes := boots.nodes ++ [(minor, b)] })
  | .enter =>
    some (s.goto b .check { boots with table := Function.update boots.table minor (some b) })
  | .check =>
    some (s.goto b (if (s.serial b).length ≠ GURU_SN_SIZE then .unnode else .print 0) boots)
  | .print n =>
    some (s.goto b (if n + 1 < (s.line b).length then .print (n + 1) else .live)
      { boots with serialNumber := Function.update boots.serialNumber b ((s.line b).take (n + 1)) })
  | .live => none
  | .unnode =>
    some (s.goto b .clear { boots with nodes := boots.nodes.filter fun e => e.1 ≠ minor })
  | .clear => some (s.goto b .del { boots with table := Function.update boots.table minor none })
  | .del => some (s.goto b .idle (boots.cdevDel b))

end St

/-- What a step does, where it can happen. -/
def step (s : St) : Event → Option St
  | .create b serial =>
    if s.pc b = .idle then
      some { s.goto b (.scan 0) { s.boots with serialNumber := Function.update s.boots.serialNumber b [] } with
        serial := Function.update s.serial b serial }
    else none
  | .destroy b => if s.pc b = .live then some (s.goto b .unnode s.boots) else none
  | .next b err => s.next b err

/-- No boot device. -/
def start : St := ⟨.empty, fun _ => .idle, fun _ => []⟩

/-! ### One creation alone -/

section Alone

variable {s t u : St} {b : ℕ} {p p' : Pc} {boots boots' : GuruBoots}

@[simp] theorem goto_pc (b : ℕ) (p : Pc) (boots : GuruBoots) (s : St) :
    (s.goto b p boots).pc b = p :=
  Function.update_self ..

@[simp] theorem goto_goto (b : ℕ) (p p' : Pc) (boots boots' : GuruBoots) (s : St) :
    (s.goto b p boots).goto b p' boots' = s.goto b p' boots' := by
  simp [St.goto]

@[simp] theorem goto_boots (b : ℕ) (p : Pc) (boots : GuruBoots) (s : St) :
    (s.goto b p boots).boots = boots := rfl

@[simp] theorem goto_serial (b : ℕ) (p : Pc) (boots : GuruBoots) (s : St) :
    (s.goto b p boots).serial = s.serial := rfl

@[simp] theorem goto_line (b : ℕ) (p : Pc) (boots : GuruBoots) (s : St) :
    (s.goto b p boots).line b = s.line b := rfl

/-- Steps of `b` alone lead from `s` to `t`. -/
def Solo (b : ℕ) (s t : St) : Prop :=
  ∃ es, (∀ e ∈ es, ∃ err, e = .next b err) ∧ run step s es = some t

theorem Solo.refl (b : ℕ) (s : St) : Solo b s s := ⟨[], nofun, rfl⟩

theorem Solo.head (err : ℤ) (hs : s.next b err = some u) (h : Solo b u t) : Solo b s t := by
  obtain ⟨es, hes, hr⟩ := h
  exact ⟨.next b err :: es, List.forall_mem_cons.mpr ⟨⟨err, rfl⟩, hes⟩,
    run_cons_eq_some.mpr ⟨u, hs, hr⟩⟩

/-- The loop finds the least entry that is free. -/
theorem solo_scan {k : ℕ} (hk : boots.table k = none) (hlt : k < GURU_DEV_MAX) :
    ∀ n idx, idx + n = k → (∀ i < k, boots.table i ≠ none) →
      Solo b (s.goto b .add { boots with minorNum := Function.update boots.minorNum b k }) t →
        Solo b (s.goto b (.scan idx) boots) t := by
  intro n
  induction n with
  | zero =>
    rintro idx rfl - h
    exact h.head 0 (by simp [St.next, show boots.table idx = none from hk])
  | succ n ih =>
    intro idx hn hfull h
    have hidx : idx < k := by omega
    have hlast : ¬ GURU_DEV_MAX - 1 ≤ idx := by omega
    refine (ih (idx + 1) (by omega) hfull h).head 0 ?_
    simp [St.next, hfull idx hidx, hlast]

theorem solo_full (hfull : ∀ i < GURU_DEV_MAX, boots.table i ≠ none) :
    ∀ n idx, idx + n + 1 = GURU_DEV_MAX →
      Solo b (s.goto b (.scan idx) boots) (s.goto b .idle boots) := by
  intro n
  induction n with
  | zero =>
    intro idx hn
    exact (Solo.refl ..).head 0 (by simp [St.next, hfull idx (by omega), show GURU_DEV_MAX - 1 ≤ idx by omega])
  | succ n ih =>
    intro idx hn
    have hlast : ¬ GURU_DEV_MAX - 1 ≤ idx := by omega
    exact (ih (idx + 1) (by omega)).head 0 (by simp [St.next, hfull idx (by omega), hlast])

theorem solo_print : ∀ m n, n + m + 1 = (s.line b).length → Solo b (s.goto b (.print n) boots)
    (s.goto b .live { boots with serialNumber := Function.update boots.serialNumber b (s.line b) }) := by
  intro m
  induction m generalizing boots with
  | zero =>
    intro n hn
    refine (Solo.refl ..).head 0 ?_
    have htake : (s.line b).take (n + 1) = s.line b := List.take_of_length_le (by omega)
    have hlast : ¬ n + 1 < (s.line b).length := by omega
    simp [St.next, hlast, htake]
  | succ m ih =>
    intro n hn
    have hmore : n + 1 < (s.line b).length := by omega
    have h :=
      @ih { boots with serialNumber := Function.update boots.serialNumber b ((s.line b).take (n + 1)) } (n + 1)
      (by omega)
    simp only [Function.update_idem] at h
    exact h.head 0 (by simp [St.next, hmore])

theorem solo_destroy :
    Solo b (s.goto b .unnode boots) (s.goto b .idle (boots.guruBootDestroy b)) := by
  let hidden : GuruBoots :=
    { boots with nodes := boots.nodes.filter fun e => e.1 ≠ boots.minorNum b }
  let cleared : GuruBoots :=
    { hidden with table := Function.update hidden.table (hidden.minorNum b) none }
  have hunnode : (s.goto b .unnode boots).next b 0 = some (s.goto b .clear hidden) := by
    simp only [St.next, goto_pc, goto_boots, goto_goto]
    rfl
  have hclear : (s.goto b .clear hidden).next b 0 = some (s.goto b .del cleared) := by
    simp [St.next, cleared]
  have hdel : (s.goto b .del cleared).next b 0 = some (s.goto b .idle (cleared.cdevDel b)) := by
    simp [St.next]
  exact (((Solo.refl ..).head 0 hdel).head 0 hclear).head 0 hunnode

/-- A serial number of the right length is written. -/
theorem solo_written (hlen : (s.serial b).length = GURU_SN_SIZE) : Solo b (s.goto b .check boots)
    (s.goto b .live { boots with serialNumber := Function.update boots.serialNumber b (s.line b) }) := by
  have hline : 0 + GURU_SN_SIZE + 1 = (s.line b).length := by
    rw [St.line, List.length_append, hlen]
    rfl
  exact (solo_print GURU_SN_SIZE 0 hline).head 0 (by simp [St.next, hlen])

/-- A device with another serial number is destroyed again. -/
theorem solo_refused (hlen : (s.serial b).length ≠ GURU_SN_SIZE) :
    Solo b (s.goto b .check boots) (s.goto b .idle (boots.guruBootDestroy b)) :=
  solo_destroy.head 0 (by simp [St.next, hlen])

/-- **The steps of a creation that nothing disturbs make `guruBootCreate`**, for a device with
clear memory and when no node is left without an entry. -/
theorem create_alone (hpc : s.pc b = .idle) (hclear : s.boots.serialNumber b = [])
    (hnodes : ∀ e ∈ s.boots.nodes, s.boots.table e.1 ≠ none) (o : BootOutcome) :
    ∃ u p, step s (.create b o.serial) = some u ∧
      Solo b u (u.goto b p (s.boots.guruBootCreate o b).2) ∧
      (p = .live ∧ (s.boots.guruBootCreate o b).1 = 0 ∨ p = .idle ∧
        (s.boots.guruBootCreate o b).1 ≠ 0) := by
  have hmem : Function.update s.boots.serialNumber b [] = s.boots.serialNumber := by
    rw [← hclear, Function.update_eq_self]
  let u : St := { s.goto b (.scan 0) s.boots with serial := Function.update s.serial b o.serial }
  have hcreate : step s (.create b o.serial) = some u := by rw [step, if_pos hpc, hmem]
  have hu : u = u.goto b (.scan 0) s.boots := by simp [u, St.goto]
  have hserial : u.serial b = o.serial := Function.update_self ..
  cases hf : s.boots.freeMinor with
  | none =>
    have hfull : ∀ i < GURU_DEV_MAX, s.boots.table i ≠ none := fun i hi hfree =>
      GuruBoots.freeMinor_eq_none.mp hf ⟨i, hi, hfree⟩
    refine ⟨u, .idle, hcreate, ?_, .inr ⟨rfl, by simp [GuruBoots.guruBootCreate, hf, ENOMEM]⟩⟩
    have hsolo := @solo_full u b s.boots hfull (GURU_DEV_MAX - 1) 0 (by decide)
    rw [← hu] at hsolo
    simpa [GuruBoots.guruBootCreate, hf] using hsolo
  | some idx =>
    obtain ⟨hlt, hfree, hleast⟩ := GuruBoots.freeMinor_eq_some hf
    let found : GuruBoots := { s.boots with minorNum := Function.update s.boots.minorNum b idx }
    let added : GuruBoots := { found with cdevs := found.cdevs ++ [(0, b)] }
    let noded : GuruBoots := { added with nodes := added.nodes ++ [(idx, b)] }
    let entered : GuruBoots := { noded with table := Function.update noded.table idx (some b) }
    have hscan : ∀ t, Solo b (u.goto b .add found) t → Solo b u t := by
      intro t h
      rw [hu]
      exact solo_scan hfree hlt idx 0 (Nat.zero_add idx) hleast h
    by_cases hc : o.cdevAdd = 0
    · have hadd : (u.goto b .add found).next b 0 = some (u.goto b .node added) := by
        simp [St.next, added]
      have htaken : (u.goto b .node added).taken b = false := by
        refine List.any_eq_false.mpr fun e he heq => hnodes e he ?_
        have hidx : e.1 = Function.update s.boots.minorNum b idx b := of_decide_eq_true heq
        rw [hidx, Function.update_self, hfree]
      by_cases hd : o.deviceCreate = 0
      · have hnode : (u.goto b .node added).next b 0 = some (u.goto b .enter noded) := by
          simp [St.next, htaken, noded, added, found]
        have henter : (u.goto b .enter noded).next b 0 = some (u.goto b .check entered) := by
          simp [St.next, entered, noded, added, found]
        have hcheck : ∀ t, Solo b (u.goto b .check entered) t → Solo b u t := fun t h =>
          hscan t (((h.head 0 henter).head 0 hnode).head 0 hadd)
        by_cases hs : o.serial.length = GURU_SN_SIZE
        · have hatomic : s.boots.guruBootCreate o b =
              (0, { entered with serialNumber := Function.update entered.serialNumber b (u.line b) }) := by
            simp [GuruBoots.guruBootCreate, hf, hc, hd, GuruBoots.guruSnInit, hs, St.line, hserial,
              entered, noded, added, found]
          rw [hatomic]
          exact ⟨u, .live, hcreate, hcheck _ (solo_written (hserial ▸ hs)), .inl ⟨rfl, rfl⟩⟩
        · have hatomic : s.boots.guruBootCreate o b = (-EINVAL, entered.guruBootDestroy b) := by
            simp [GuruBoots.guruBootCreate, hf, hc, hd, GuruBoots.guruSnInit, hs, EINVAL, entered,
              noded, added, found]
          rw [hatomic]
          exact ⟨u, .idle, hcreate, hcheck _ (solo_refused (hserial ▸ hs)),
            .inr ⟨rfl, show -EINVAL ≠ 0 by decide⟩⟩
      · have hnode : (u.goto b .node added).next b o.deviceCreate = some (u.goto b .del added) := by
          simp [St.next, hd]
        have hdel : (u.goto b .del added).next b 0 = some (u.goto b .idle (added.cdevDel b)) := by
          simp [St.next]
        have hatomic : s.boots.guruBootCreate o b = (o.deviceCreate, added.cdevDel b) := by
          simp [GuruBoots.guruBootCreate, hf, hc, hd, added, found]
        rw [hatomic]
        refine ⟨u, .idle, hcreate,
          hscan _ (Solo.head 0 hadd (Solo.head o.deviceCreate hnode (Solo.head 0 hdel ?_))),
          .inr ⟨rfl, hd⟩⟩
        exact Solo.refl ..
    · have hadd : (u.goto b .add found).next b o.cdevAdd = some (u.goto b .idle found) := by
        simp [St.next, hc]
      have hatomic : s.boots.guruBootCreate o b = (o.cdevAdd, found) := by
        simp [GuruBoots.guruBootCreate, hf, hc, found]
      rw [hatomic]
      exact ⟨u, .idle, hcreate, hscan _ ((Solo.refl ..).head o.cdevAdd hadd), .inr ⟨rfl, hc⟩⟩

/-- **The steps of a destruction that nothing disturbs make `guruBootDestroy`.** -/
theorem destroy_alone (hpc : s.pc b = .live) : ∃ u, step s (.destroy b) = some u ∧
    Solo b u (s.goto b .idle (s.boots.guruBootDestroy b)) :=
  ⟨_, if_pos hpc, solo_destroy⟩

end Alone

/-! ### The invariant -/

/-- It may be in the table. -/
@[simp] def Pc.Entered (p : Pc) : Prop := p.HasEntry ∨ p = .clear

/-- What the kernel has is what the places of the boot devices say. -/
structure Inv (s : St) : Prop where
  /-- The nodes. -/
  nodes : Listed s.boots.nodes (fun b => (s.pc b).HasNode) s.boots.minorNum
  /-- No two of them have the same number. -/
  apart : Set.InjOn s.boots.minorNum {b | (s.pc b).HasNode}
  /-- The entries. -/
  table : ∀ m b, s.boots.table m = some b → (s.pc b).Entered ∧ s.boots.minorNum b = m
  /-- The character devices. -/
  cdevs : Listed s.boots.cdevs (fun b => (s.pc b).HasCdev) fun _ => 0

theorem inv_start : Inv start where
  nodes _ _ := iff_of_false List.not_mem_nil fun h => h.1
  apart _ h := h.elim
  table _ _ := nofun
  cdevs _ _ := iff_of_false List.not_mem_nil fun h => h.1

section Places

variable {f : ℕ → Pc} {b : ℕ} {p : Pc} {Q : Pc → Prop}

/-- A property that a step of `b` leaves alone. -/
theorem at_iff (h : Q p ↔ Q (f b)) (b' : ℕ) : Q (Function.update f b p b') ↔ Q (f b') := by
  by_cases hb : b' = b
  · rw [hb, Function.update_self, h]
  · rw [Function.update_of_ne hb]

theorem at_iff_or (h : Q p) (b' : ℕ) : Q (Function.update f b p b') ↔ Q (f b') ∨ b' = b := by
  by_cases hb : b' = b
  · rw [hb, Function.update_self]
    exact iff_of_true h (.inr rfl)
  · rw [Function.update_of_ne hb, or_iff_left hb]

/-- A property that `b` does not have after a step. -/
theorem at_iff_and (h : ¬ Q p) (b' : ℕ) : Q (Function.update f b p b') ↔ Q (f b') ∧ b' ≠ b := by
  by_cases hb : b' = b
  · rw [hb, Function.update_self]
    exact iff_of_false h fun hq => hq.2 rfl
  · rw [Function.update_of_ne hb, and_iff_left hb]

end Places

section Steps

variable {s s' : St} {b : ℕ} {p : Pc} {boots : GuruBoots}

/-- An entry is still that of a boot device that may be in the table. -/
theorem Inv.entered (h : Inv s) (hp : (s.pc b).Entered → p.Entered) {m b' : ℕ}
    (hm : s.boots.table m = some b') :
    (Function.update s.pc b p b').Entered ∧ s.boots.minorNum b' = m := by
  obtain ⟨hin, hmin⟩ := h.table m b' hm
  refine ⟨?_, hmin⟩
  by_cases hb : b' = b
  · rw [hb, Function.update_self]
    exact hp (hb ▸ hin)
  · rwa [Function.update_of_ne hb]

/-- A step of `b` to `p` that changes nothing the kernel has, nor the table. -/
structure Quiet (s : St) (b : ℕ) (p : Pc) (boots : GuruBoots) : Prop where
  /-- It has a node if it had one. -/
  node : p.HasNode ↔ (s.pc b).HasNode
  /-- It has an entry if it had one. -/
  entry : p.HasEntry ↔ (s.pc b).HasEntry
  /-- It has a character device if it had one. -/
  cdev : p.HasCdev ↔ (s.pc b).HasCdev
  /-- It does not give up an entry. -/
  clear : s.pc b ≠ .clear
  /-- The lists and the table. -/
  kernel : boots.nodes = s.boots.nodes ∧ boots.table = s.boots.table ∧ boots.cdevs = s.boots.cdevs
  /-- The numbers that matter. -/
  minor : ∀ b', (s.pc b').HasNode ∨ (s.pc b').Entered → boots.minorNum b' = s.boots.minorNum b'

theorem Inv.quiet (h : Inv s) (hq : Quiet s b p boots) : Inv (s.goto b p boots) := by
  obtain ⟨hnodes, htable, hcdevs⟩ := hq.kernel
  have hnode := at_iff (Q := Pc.HasNode) hq.node
  refine ⟨?_, ?_, fun m b' hm => ?_, ?_⟩
  · show Listed boots.nodes _ _
    rw [hnodes]
    exact h.nodes.congr hnode fun b' hb' => hq.minor b' (.inl hb')
  · refine Set.InjOn.congr (h.apart.mono fun b' hb' => (hnode b').mp hb') fun b' hb' => ?_
    exact (hq.minor b' (.inl ((hnode b').mp hb'))).symm
  · change boots.table m = some b' at hm
    rw [htable] at hm
    have hin := h.entered (p := p) (fun hb => .inl (hq.entry.mpr (hb.resolve_right hq.clear))) hm
    exact ⟨hin.1, (hq.minor b' (.inr (h.table m b' hm).1)).trans hin.2⟩
  · show Listed boots.cdevs _ _
    rw [hcdevs]
    exact h.cdevs.congr (at_iff hq.cdev) fun _ _ => rfl

theorem Inv.add (h : Inv s) (hpc : s.pc b = .add) :
    Inv (s.goto b .node { s.boots with cdevs := s.boots.cdevs ++ [(0, b)] }) := by
  have hnode := at_iff (f := s.pc) (b := b) (p := .node) (Q := Pc.HasNode) (by simp [hpc])
  refine ⟨h.nodes.congr hnode fun _ _ => rfl, ?_, fun m b' hm => ?_,
    h.cdevs.append (at_iff_or trivial)⟩
  · exact h.apart.mono fun b' hb' => (hnode b').mp hb'
  · exact h.entered (by simp [hpc]) hm

/-- `device_create` succeeds, for a number that has no node. -/
theorem Inv.makeNode (h : Inv s) (hpc : s.pc b = .node) (hfree : ¬ s.taken b) :
    Inv (s.goto b .enter { s.boots with nodes := s.boots.nodes ++ [(s.boots.minorNum b, b)] }) := by
  have hnode := at_iff_or (f := s.pc) (b := b) (p := .enter) (Q := Pc.HasNode) trivial
  have hcdev := at_iff (f := s.pc) (b := b) (p := .enter) (Q := Pc.HasCdev) (by simp [hpc])
  refine ⟨h.nodes.append hnode, ?_, fun m b' hm => ?_, h.cdevs.congr hcdev fun _ _ => rfl⟩
  · have hset :
        {b' | (Function.update s.pc b Pc.enter b').HasNode} =
        insert b {b' | (s.pc b').HasNode} := by
      ext b'
      exact (hnode b').trans or_comm
    show Set.InjOn s.boots.minorNum {b' | (Function.update s.pc b Pc.enter b').HasNode}
    rw [hset, Set.injOn_insert (by simp [hpc])]
    refine ⟨h.apart, ?_⟩
    rintro ⟨b', hb', he⟩
    refine hfree (List.any_eq_true.mpr ⟨_, (h.nodes _ b').mpr ⟨hb', rfl⟩, ?_⟩)
    simpa using he
  · exact h.entered (by simp [hpc]) hm

theorem Inv.enter (h : Inv s) (hpc : s.pc b = .enter) :
    Inv (s.goto b .check { s.boots with table := Function.update s.boots.table (s.boots.minorNum b) (some b) }) := by
  have hnode := at_iff (f := s.pc) (b := b) (p := .check) (Q := Pc.HasNode) (by simp [hpc])
  have hcdev := at_iff (f := s.pc) (b := b) (p := .check) (Q := Pc.HasCdev) (by simp [hpc])
  refine ⟨h.nodes.congr hnode fun _ _ => rfl, ?_, fun m b' hm => ?_,
    h.cdevs.congr hcdev fun _ _ => rfl⟩
  · exact h.apart.mono fun b' hb' => (hnode b').mp hb'
  · change Function.update s.boots.table (s.boots.minorNum b) (some b) m = some b' at hm
    by_cases hmin : m = s.boots.minorNum b
    · rw [hmin, Function.update_self, Option.some.injEq] at hm
      subst hm
      refine ⟨?_, hmin.symm⟩
      show (Function.update s.pc b Pc.check b).Entered
      rw [Function.update_self]
      exact .inl trivial
    · rw [Function.update_of_ne hmin] at hm
      exact h.entered (by simp) hm

theorem Inv.unnode (h : Inv s) (hpc : s.pc b = .unnode) :
    Inv (s.goto b .clear { s.boots with nodes := s.boots.nodes.filter fun e => e.1 ≠ s.boots.minorNum b }) := by
  have hnode := at_iff_and (f := s.pc) (b := b) (p := .clear) (Q := Pc.HasNode) id
  have hcdev := at_iff (f := s.pc) (b := b) (p := .clear) (Q := Pc.HasCdev) (by simp [hpc])
  have hb : (s.pc b).HasNode := by simp [hpc]
  refine ⟨h.nodes.filter_slot hnode fun b' hb' he => h.apart hb' hb he, ?_, fun m b' hm => ?_,
    h.cdevs.congr hcdev fun _ _ => rfl⟩
  · exact h.apart.mono fun b' hb' => ((hnode b').mp hb').1
  · exact h.entered (by simp) hm

theorem Inv.clear (h : Inv s) (hpc : s.pc b = .clear) :
    Inv (s.goto b .del { s.boots with table := Function.update s.boots.table (s.boots.minorNum b) none }) := by
  have hnode := at_iff (f := s.pc) (b := b) (p := .del) (Q := Pc.HasNode) (by simp [hpc])
  have hcdev := at_iff (f := s.pc) (b := b) (p := .del) (Q := Pc.HasCdev) (by simp [hpc])
  refine ⟨h.nodes.congr hnode fun _ _ => rfl, ?_, fun m b' hm => ?_,
    h.cdevs.congr hcdev fun _ _ => rfl⟩
  · exact h.apart.mono fun b' hb' => (hnode b').mp hb'
  · change Function.update s.boots.table (s.boots.minorNum b) none m = some b' at hm
    by_cases hmin : m = s.boots.minorNum b
    · rw [hmin, Function.update_self] at hm
      cases hm
    · rw [Function.update_of_ne hmin] at hm
      obtain ⟨hin, hmin'⟩ := h.table m b' hm
      have hb : b' ≠ b := fun hb => hmin (by rw [← hmin', hb])
      refine ⟨?_, hmin'⟩
      show (Function.update s.pc b Pc.del b').Entered
      rwa [Function.update_of_ne hb]

theorem Inv.del (h : Inv s) (hpc : s.pc b = .del) : Inv (s.goto b .idle (s.boots.cdevDel b)) := by
  have hnode := at_iff (f := s.pc) (b := b) (p := .idle) (Q := Pc.HasNode) (by simp [hpc])
  refine ⟨h.nodes.congr hnode fun _ _ => rfl, ?_, fun m b' hm => ?_,
    h.cdevs.filter_obj (at_iff_and id)⟩
  · exact h.apart.mono fun b' hb' => (hnode b').mp hb'
  · exact h.entered (by simp [hpc]) hm

/-- **What the next step of a boot device can be.** -/
theorem next_cases {err : ℤ} (hs : s.next b err = some s') : ∃ p boots, s' = s.goto b p boots ∧
    (Quiet s b p boots ∨
      s.pc b = .add ∧ p = .node ∧ boots = { s.boots with cdevs := s.boots.cdevs ++ [(0, b)] } ∨
      s.pc b = .node ∧ ¬ s.taken b ∧ p = .enter ∧
        boots = { s.boots with nodes := s.boots.nodes ++ [(s.boots.minorNum b, b)] } ∨
      s.pc b = .enter ∧ p = .check ∧
        boots = { s.boots with table := Function.update s.boots.table (s.boots.minorNum b) (some b) } ∨
      s.pc b = .unnode ∧ p = .clear ∧
        boots = { s.boots with nodes := s.boots.nodes.filter fun e => e.1 ≠ s.boots.minorNum b } ∨
      s.pc b = .clear ∧ p = .del ∧
        boots = { s.boots with table := Function.update s.boots.table (s.boots.minorNum b) none } ∨
      s.pc b = .del ∧ p = .idle ∧ boots = s.boots.cdevDel b) := by
  have hsame : s.boots.nodes = s.boots.nodes ∧ s.boots.table = s.boots.table ∧
      s.boots.cdevs = s.boots.cdevs :=
    ⟨rfl, rfl, rfl⟩
  cases hpc : s.pc b with
  | idle =>
    simp only [St.next, hpc] at hs
    cases hs
  | scan idx =>
    simp only [St.next, hpc] at hs
    split_ifs at hs <;> obtain rfl := Option.some.inj hs <;> refine ⟨_, _, rfl, .inl ?_⟩
    · refine ⟨by simp [hpc], by simp [hpc], by simp [hpc], by simp [hpc], hsame, fun b' hb' => ?_⟩
      have hb : b' ≠ b := by
        rintro rfl
        simp [hpc] at hb'
      exact Function.update_of_ne hb ..
    all_goals exact ⟨by simp [hpc], by simp [hpc], by simp [hpc], by simp [hpc], hsame,
      fun _ _ => rfl⟩
  | add =>
    simp only [St.next, hpc] at hs
    split_ifs at hs <;> obtain rfl := Option.some.inj hs <;> refine ⟨_, _, rfl, ?_⟩
    · exact .inl ⟨by simp [hpc], by simp [hpc], by simp [hpc], by simp [hpc], hsame, fun _ _ => rfl⟩
    · exact .inr (.inl ⟨rfl, rfl, rfl⟩)
  | node =>
    simp only [St.next, hpc] at hs
    split_ifs at hs with htaken <;> obtain rfl := Option.some.inj hs <;> refine ⟨_, _, rfl, ?_⟩
    · exact .inl ⟨by simp [hpc], by simp [hpc], by simp [hpc], by simp [hpc], hsame, fun _ _ => rfl⟩
    · exact .inr (.inr (.inl ⟨rfl, fun ht => htaken (.inl ht), rfl, rfl⟩))
  | enter =>
    simp only [St.next, hpc] at hs
    obtain rfl := Option.some.inj hs
    exact ⟨_, _, rfl, .inr (.inr (.inr (.inl ⟨rfl, rfl, rfl⟩)))⟩
  | check =>
    simp only [St.next, hpc] at hs
    obtain rfl := Option.some.inj hs
    refine ⟨_, _, rfl, .inl ?_⟩
    split <;>
      exact ⟨by simp [hpc], by simp [hpc], by simp [hpc], by simp [hpc], hsame, fun _ _ => rfl⟩
  | print n =>
    simp only [St.next, hpc] at hs
    obtain rfl := Option.some.inj hs
    refine ⟨_, _, rfl, .inl ?_⟩
    split <;>
      exact ⟨by simp [hpc], by simp [hpc], by simp [hpc], by simp [hpc], hsame, fun _ _ => rfl⟩
  | live =>
    simp only [St.next, hpc] at hs
    cases hs
  | unnode =>
    simp only [St.next, hpc] at hs
    obtain rfl := Option.some.inj hs
    exact ⟨_, _, rfl, .inr (.inr (.inr (.inr (.inl ⟨rfl, rfl, rfl⟩))))⟩
  | clear =>
    simp only [St.next, hpc] at hs
    obtain rfl := Option.some.inj hs
    exact ⟨_, _, rfl, .inr (.inr (.inr (.inr (.inr (.inl ⟨rfl, rfl, rfl⟩)))))⟩
  | del =>
    simp only [St.next, hpc] at hs
    obtain rfl := Option.some.inj hs
    exact ⟨_, _, rfl, .inr (.inr (.inr (.inr (.inr (.inr ⟨rfl, rfl, rfl⟩)))))⟩

/-- A new boot device begins quietly, and so does a destruction. -/
theorem quiet_create (hpc : s.pc b = .idle) :
    Quiet s b (.scan 0)
      { s.boots with serialNumber := Function.update s.boots.serialNumber b [] } :=
  ⟨by simp [hpc], by simp [hpc], by simp [hpc], by simp [hpc], ⟨rfl, rfl, rfl⟩, fun _ _ => rfl⟩

theorem quiet_destroy (hpc : s.pc b = .live) : Quiet s b .unnode s.boots :=
  ⟨by simp [hpc], by simp [hpc], by simp [hpc], by simp [hpc], ⟨rfl, rfl, rfl⟩, fun _ _ => rfl⟩

/-- **One step** keeps the invariant. -/
theorem inv_step (s : St) (e : Event) (s' : St) (h : Inv s) (hs : step s e = some s') : Inv s' := by
  cases e with
  | create b serial =>
    rw [step] at hs
    split at hs
    case isTrue hpc =>
      obtain rfl := Option.some.inj hs
      have hq := h.quiet (quiet_create hpc)
      exact ⟨hq.nodes, hq.apart, hq.table, hq.cdevs⟩
    case isFalse => cases hs
  | destroy b =>
    rw [step] at hs
    split at hs
    case isTrue hpc =>
      obtain rfl := Option.some.inj hs
      exact h.quiet (quiet_destroy hpc)
    case isFalse => cases hs
  | next b err =>
    obtain ⟨p, boots, rfl, hq | ⟨hpc, rfl, rfl⟩ | ⟨hpc, hfree, rfl, rfl⟩ | ⟨hpc, rfl, rfl⟩ |
      ⟨hpc, rfl, rfl⟩ | ⟨hpc, rfl, rfl⟩ | ⟨hpc, rfl, rfl⟩⟩ := next_cases hs
    · exact h.quiet hq
    · exact h.add hpc
    · exact h.makeNode hpc hfree
    · exact h.enter hpc
    · exact h.unnode hpc
    · exact h.clear hpc
    · exact h.del hpc

/-! ### The table -/

/-- **Every device keeps its entry**, from when it takes it until it gives up its node. -/
def Kept (s : St) : Prop := ∀ b, (s.pc b).HasEntry → s.boots.table (s.boots.minorNum b) = some b

/-- A destruction clears no entry of another device, unless that has given up its node and is
about to clear its entry, too. -/
def Own (s : St) : Event → Prop
  | .next b _ => s.pc b = .clear → ∀ b', s.boots.table (s.boots.minorNum b) = some b' →
    s.pc b' = .clear
  | _ => True

theorem Pc.HasEntry.hasNode (h : p.HasEntry) : p.HasNode := by cases p <;> simp_all

theorem Kept.goto (h : Kept s) (hentry : p.HasEntry → (s.pc b).HasEntry)
    (htable : boots.table = s.boots.table)
    (hminor : ∀ b', (s.pc b').HasEntry → boots.minorNum b' = s.boots.minorNum b') :
    Kept (s.goto b p boots) := by
  intro b' hb'
  have hbefore : (s.pc b').HasEntry := by
    change (Function.update s.pc b p b').HasEntry at hb'
    by_cases hb : b' = b
    · rw [hb, Function.update_self] at hb'
      exact hb ▸ hentry hb'
    · rwa [Function.update_of_ne hb] at hb'
  show boots.table (boots.minorNum b') = some b'
  rw [htable, hminor b' hbefore]
  exact h b' hbefore

theorem Kept.quiet (h : Kept s) (hq : Quiet s b p boots) : Kept (s.goto b p boots) :=
  h.goto hq.entry.mp hq.kernel.2.1 fun b' hb' => hq.minor b' (.inl hb'.hasNode)

/-- A device that takes its entry takes it from none that has a node. -/
theorem Kept.enter (h : Kept s) (hi : Inv s) (hpc : s.pc b = .enter) :
    Kept (s.goto b .check { s.boots with table := Function.update s.boots.table (s.boots.minorNum b) (some b) }) := by
  intro b' hb'
  show Function.update s.boots.table (s.boots.minorNum b) (some b) (s.boots.minorNum b') = some b'
  by_cases hb : b' = b
  · rw [hb, Function.update_self]
  · change (Function.update s.pc b Pc.check b').HasEntry at hb'
    rw [Function.update_of_ne hb] at hb'
    have hne : s.boots.minorNum b' ≠ s.boots.minorNum b :=
      fun he => hb (hi.apart hb'.hasNode (by simp [hpc]) he)
    rw [Function.update_of_ne hne]
    exact h b' hb'

/-- A destruction that clears an entry of its own. -/
theorem Kept.clear (h : Kept s)
    (hown : ∀ b', s.boots.table (s.boots.minorNum b) = some b' → s.pc b' = .clear) :
    Kept (s.goto b .del { s.boots with table := Function.update s.boots.table (s.boots.minorNum b) none }) := by
  intro b' hb'
  show Function.update s.boots.table (s.boots.minorNum b) none (s.boots.minorNum b') = some b'
  have hbefore : (s.pc b').HasEntry := ((at_iff_and (Q := Pc.HasEntry) id b').mp hb').1
  have hne : s.boots.minorNum b' ≠ s.boots.minorNum b := by
    intro he
    have hclear := hown b' (he ▸ h b' hbefore)
    simp [hclear] at hbefore
  rw [Function.update_of_ne hne]
  exact h b' hbefore

/-- One that clears the entry of a device that has its node. -/
theorem not_kept_clear (hi : Inv s) {b' : ℕ} (hb' : s.boots.table (s.boots.minorNum b) = some b')
    (hne : s.pc b' ≠ .clear) (hpc : s.pc b = .clear) :
    ¬ Kept (s.goto b .del { s.boots with table := Function.update s.boots.table (s.boots.minorNum b) none }) := by
  intro h
  obtain ⟨hin, hmin⟩ := hi.table _ b' hb'
  have hb : b' ≠ b := fun hb => hne (hb ▸ hpc)
  have hentry : (Function.update s.pc b Pc.del b').HasEntry := by
    rw [Function.update_of_ne hb]
    exact hin.resolve_right hne
  have hlost : Function.update s.boots.table (s.boots.minorNum b) none (s.boots.minorNum b') =
      some b' := h b' hentry
  rw [hmin, Function.update_self] at hlost
  cases hlost

/-- **One step** keeps every entry if no destruction clears one that is not its own. -/
theorem kept_step (s : St) (e : Event) (s' : St) (h : Inv s ∧ Kept s) (hown : Own s e)
    (hs : step s e = some s') : Inv s' ∧ Kept s' := by
  obtain ⟨hi, hk⟩ := h
  refine ⟨inv_step s e s' hi hs, ?_⟩
  cases e with
  | create b serial =>
    rw [step] at hs
    split at hs
    case isTrue hpc =>
      obtain rfl := Option.some.inj hs
      exact hk.quiet (quiet_create hpc)
    case isFalse => cases hs
  | destroy b =>
    rw [step] at hs
    split at hs
    case isTrue hpc =>
      obtain rfl := Option.some.inj hs
      exact hk.quiet (quiet_destroy hpc)
    case isFalse => cases hs
  | next b err =>
    obtain ⟨p, boots, rfl, hq | ⟨hpc, rfl, rfl⟩ | ⟨hpc, hfree, rfl, rfl⟩ | ⟨hpc, rfl, rfl⟩ |
      ⟨hpc, rfl, rfl⟩ | ⟨hpc, rfl, rfl⟩ | ⟨hpc, rfl, rfl⟩⟩ := next_cases hs
    · exact hk.quiet hq
    · exact hk.goto nofun rfl fun _ _ => rfl
    · exact hk.goto nofun rfl fun _ _ => rfl
    · exact hk.enter hi hpc
    · exact hk.goto nofun rfl fun _ _ => rfl
    · exact hk.clear (hown hpc)
    · exact hk.goto nofun rfl fun _ _ => rfl

/-- **Every device keeps its entry** exactly if no destruction clears that of another device
that has its node; in any case no two devices have the same number. -/
theorem kept_iff {es : List Event} {t : St} (hr : run step start es = some t) :
    (Always step Kept start es ↔ Meets step Own start es) ∧
      ∀ b b', (t.pc b).HasNode → (t.pc b').HasNode → t.boots.minorNum b = t.boots.minorNum b' →
        b = b' := by
  constructor
  · refine always_iff_meets kept_step (fun _ h => h.2) ?_ ⟨inv_start, nofun⟩ hr
    rintro s e s' ⟨hi, -⟩ hown hs
    cases e with
    | create b serial => exact absurd trivial hown
    | destroy b => exact absurd trivial hown
    | next b err =>
      obtain ⟨hpc, hbad⟩ := Classical.not_imp.mp hown
      push Not at hbad
      obtain ⟨b', hb', hne⟩ := hbad
      simp only [step, St.next, hpc] at hs
      obtain rfl := Option.some.inj hs
      exact not_kept_clear hi hb' hne hpc
  · exact fun b b' hb hb' he => (inv_of_run inv_step inv_start hr).apart hb hb' he

/-! ### A lost entry -/

/-- No device at a number up to `m` is destroyed. -/
def Stays (m : ℕ) (s : St) : Event → Prop
  | .destroy b => m < s.boots.minorNum b
  | _ => True

/-- Where a boot device with number `n` can be while entry `m` looks free and is not. -/
def Stuck (m n : ℕ) : Pc → Prop
  | .idle | .live | .del => True
  | .scan idx => idx ≤ m
  | .add | .node => n = m
  | .unnode | .clear => m < n
  | .enter | .check | .print _ => False

/-- The entry of `b`, which is `m`, is lost, those below it are taken, and the live devices are
among `live`. -/
structure Jammed (m b : ℕ) (live : ℕ → Prop) (s : St) : Prop where
  /-- The device is there. -/
  there : s.pc b = .live ∧ s.boots.minorNum b = m
  /-- Its entry is lost. -/
  lost : s.boots.table m = none
  /-- The entries below are taken, by devices that are there. -/
  below : ∀ m' < m, ∃ b', s.pc b' = .live ∧ s.boots.minorNum b' = m' ∧ s.boots.table m' = some b'
  /-- Nothing gets past `device_create`. -/
  stuck : ∀ b', Stuck m (s.boots.minorNum b') (s.pc b')
  /-- No device is new. -/
  old : ∀ b', s.pc b' = .live → live b'

/-- No device is new, and every creation that has a number has picked `m`, which
`device_create` refuses. -/
structure Blocked (m : ℕ) (live : ℕ → Prop) (s : St) : Prop where
  /-- No device is new. -/
  old : ∀ b, s.pc b = .live → live b
  /-- A creation picks the number whose entry is lost. -/
  picked : ∀ b, s.pc b = .add ∨ s.pc b = .node → s.boots.minorNum b = m
  /-- It is refused. -/
  refused : ∀ b err, s.pc b = .node → s.next b err = some (s.goto b .del s.boots)

section Jam

variable {m b₀ : ℕ} {live : ℕ → Prop}

theorem Jammed.taken (h : Jammed m b₀ live s) (hi : Inv s) (hpc : s.pc b = .node) :
    s.taken b = true := by
  have hnode := (hi.nodes m b₀).mpr ⟨by simp [h.there.1], h.there.2⟩
  have hstuck := h.stuck b
  rw [hpc] at hstuck
  exact List.any_eq_true.mpr ⟨_, hnode,
    by simpa using (show s.boots.minorNum b = m from hstuck).symm⟩

/-- **A jammed table blocks every creation.** -/
theorem Jammed.blocked (h : Jammed m b₀ live s) (hi : Inv s) : Blocked m live s where
  old := h.old
  picked b hpc := by
    have hstuck := h.stuck b
    rcases hpc with hpc | hpc <;>
      · rw [hpc] at hstuck
        exact hstuck
  refused b err hpc := by
    simp only [St.next, hpc]
    rw [if_pos (.inl (h.taken hi hpc))]

/-- A step of a boot device that is not there after it, and takes no entry up to `m`. -/
theorem Jammed.goto (h : Jammed m b₀ live s) (hb : s.pc b ≠ .live ∨ m < s.boots.minorNum b)
    (hp : p ≠ .live) (hstuck : Stuck m (boots.minorNum b) p)
    (hminor : ∀ b' ≠ b, boots.minorNum b' = s.boots.minorNum b')
    (htable : ∀ m' ≤ m, boots.table m' = s.boots.table m') :
    Jammed m b₀ live (s.goto b p boots) := by
  have hne : ∀ b', s.pc b' = .live → s.boots.minorNum b' ≤ m → b' ≠ b := by
    rintro b' hl hm rfl
    exact hb.elim (fun hn => hn hl) fun hlt => absurd hm (Nat.not_le.mpr hlt)
  have hpc : ∀ b', s.pc b' = .live → s.boots.minorNum b' ≤ m → (s.goto b p boots).pc b' = .live ∧
      (s.goto b p boots).boots.minorNum b' = s.boots.minorNum b' := by
    intro b' hl hm
    exact ⟨(Function.update_of_ne (hne b' hl hm) ..).trans hl, hminor b' (hne b' hl hm)⟩
  obtain ⟨hl, hm⟩ := h.there
  refine ⟨?_, (htable m le_rfl).trans h.lost, fun m' hm' => ?_, fun b' => ?_, fun b' hb' => ?_⟩
  · obtain ⟨hl', hm'⟩ := hpc b₀ hl hm.le
    exact ⟨hl', hm'.trans hm⟩
  · obtain ⟨b', hl', hn', ht'⟩ := h.below m' hm'
    obtain ⟨hl'', hn''⟩ := hpc b' hl' (hn'.trans_le hm'.le)
    exact ⟨b', hl'', hn''.trans hn', (htable m' hm'.le).trans ht'⟩
  · show Stuck m (boots.minorNum b') (Function.update s.pc b p b')
    by_cases hbb : b' = b
    · rw [hbb, Function.update_self]
      exact hstuck
    · rw [Function.update_of_ne hbb, hminor b' hbb]
      exact h.stuck b'
  · change Function.update s.pc b p b' = .live at hb'
    by_cases hbb : b' = b
    · rw [hbb, Function.update_self] at hb'
      exact absurd hb' hp
    · rw [Function.update_of_ne hbb] at hb'
      exact h.old b' hb'

/-- The next step of a boot device keeps the table jammed. -/
theorem Jammed.next (h : Jammed m b₀ live s) (hi : Inv s) {err : ℤ} (hs : s.next b err = some s') :
    Jammed m b₀ live s' := by
  have hstuck := h.stuck b
  cases hpc : s.pc b <;> rw [hpc] at hstuck <;> simp only [St.next, hpc] at hs
  case idle => cases hs
  case live => cases hs
  case enter => exact hstuck.elim
  case check => exact hstuck.elim
  case print => exact hstuck.elim
  case scan idx =>
    change idx ≤ m at hstuck
    have hidx : s.boots.table idx = none → idx = m := by
      intro hfree
      refine hstuck.eq_or_lt.resolve_right fun hlt => ?_
      obtain ⟨b', -, -, ht⟩ := h.below idx hlt
      rw [hfree] at ht
      cases ht
    split_ifs at hs with hfree hlast <;> obtain rfl := Option.some.inj hs
    · refine h.goto (.inl (by simp [hpc])) nofun ?_ (fun b' hb' => Function.update_of_ne hb' ..)
        fun _ _ => rfl
      show Function.update s.boots.minorNum b idx b = m
      rw [Function.update_self, hidx hfree]
    · exact h.goto (.inl (by simp [hpc])) nofun trivial (fun _ _ => rfl) fun _ _ => rfl
    · have hne : idx ≠ m := fun he => hfree (he ▸ h.lost)
      exact h.goto (.inl (by simp [hpc])) nofun (Nat.succ_le_of_lt (hstuck.lt_of_ne hne))
        (fun _ _ => rfl)
        fun _ _ => rfl
  case add =>
    split_ifs at hs <;> obtain rfl := Option.some.inj hs
    · exact h.goto (.inl (by simp [hpc])) nofun trivial (fun _ _ => rfl) fun _ _ => rfl
    · exact h.goto (.inl (by simp [hpc])) nofun hstuck (fun _ _ => rfl) fun _ _ => rfl
  case node =>
    rw [if_pos (.inl (h.taken hi hpc))] at hs
    obtain rfl := Option.some.inj hs
    exact h.goto (.inl (by simp [hpc])) nofun trivial (fun _ _ => rfl) fun _ _ => rfl
  case unnode =>
    obtain rfl := Option.some.inj hs
    exact h.goto (.inl (by simp [hpc])) nofun hstuck (fun _ _ => rfl) fun _ _ => rfl
  case clear =>
    obtain rfl := Option.some.inj hs
    refine h.goto (.inl (by simp [hpc])) nofun trivial (fun _ _ => rfl) fun m' hm' => ?_
    exact Function.update_of_ne (hm'.trans_lt hstuck).ne ..
  case del =>
    obtain rfl := Option.some.inj hs
    exact h.goto (.inl (by simp [hpc])) nofun trivial (fun _ _ => rfl) fun _ _ => rfl

/-- **One step** keeps the table jammed if the devices up to it stay. -/
theorem jammed_step (s : St) (e : Event) (s' : St) (h : Inv s ∧ Jammed m b₀ live s)
    (hstay : Stays m s e) (hs : step s e = some s') : Inv s' ∧ Jammed m b₀ live s' := by
  obtain ⟨hi, hj⟩ := h
  refine ⟨inv_step s e s' hi hs, ?_⟩
  cases e with
  | create b serial =>
    rw [step] at hs
    split at hs
    case isTrue hpc =>
      obtain rfl := Option.some.inj hs
      have hg : Jammed m b₀ live
          (s.goto b (.scan 0) { s.boots with serialNumber := Function.update s.boots.serialNumber b [] }) :=
        hj.goto (.inl (by simp [hpc])) nofun (Nat.zero_le m) (fun _ _ => rfl) fun _ _ => rfl
      exact ⟨hg.there, hg.lost, hg.below, hg.stuck, hg.old⟩
    case isFalse => cases hs
  | destroy b =>
    rw [step] at hs
    split at hs
    case isTrue hpc =>
      obtain rfl := Option.some.inj hs
      exact hj.goto (.inr hstay) nofun hstay (fun _ _ => rfl) fun _ _ => rfl
    case isFalse => cases hs
  | next b err => exact hj.next hi hs

/-- **A lost entry blocks all later devices.** In a state in which nothing is created or
destroyed, let the entry of a device be lost and those below it be taken. As long as these
devices stay, no other becomes live: every creation picks the lost number and is refused. -/
theorem jammed_of_run {es es' : List Event} {t : St} (hr : run step start es = some s)
    (hb : s.pc b = .live) (hlost : s.boots.table (s.boots.minorNum b) = none)
    (hbelow : ∀ m < s.boots.minorNum b, s.boots.table m ≠ none)
    (hrest : ∀ b', s.pc b' = .idle ∨ s.pc b' = .live)
    (hstay : Meets step (Stays (s.boots.minorNum b)) s es') (hr' : run step s es' = some t) :
    Blocked (s.boots.minorNum b) (fun b' => s.pc b' = .live) t := by
  have hi := inv_of_run inv_step inv_start hr
  have hj : Jammed (s.boots.minorNum b) b (fun b' => s.pc b' = .live) s := by
    refine ⟨⟨hb, rfl⟩, hlost, fun m' hm' => ?_, fun b' => ?_, fun _ h => h⟩
    · obtain ⟨b', hb'⟩ := Option.ne_none_iff_exists'.mp (hbelow m' hm')
      obtain ⟨hin, hmin⟩ := hi.table m' b' hb'
      refine ⟨b', (hrest b').resolve_left fun hidle => ?_, hmin, hb'⟩
      simp [hidle] at hin
    · rcases hrest b' with h | h <;> rw [h] <;> trivial
  obtain ⟨hi', hj'⟩ := (always_of_meets jammed_step ⟨hi, hj⟩ hstay).last hr'
  exact hj'.blocked hi'

end Jam

end Steps

/-! ### A run -/

/-- The steps of `b`, `n` of them, with no call failing. -/
def steps (b n : ℕ) : List Event := List.replicate n (.next b 0)

/-- A serial number. -/
def serial : List UInt8 := List.replicate GURU_SN_SIZE 0x30

/-- Two devices find the first entry free. The one that takes it is destroyed, and the other
takes it before the first gives it up. -/
def crossed : List Event :=
  [.create 5 serial, .create 6 serial] ++ steps 6 1 ++ steps 5 22 ++ [.destroy 5] ++ steps 5 1 ++
    steps 6 21 ++
    steps 5 2

/-- The boot device a step is of. -/
def Event.boot : Event → ℕ
  | .create b _ | .destroy b | .next b _ => b

/-- A step leaves the other boot devices where they are. -/
theorem step_pc_of_ne {s s' : St} {e : Event} {b : ℕ} (hb : b ≠ e.boot) (hs : step s e = some s') :
    s'.pc b = s.pc b := by
  cases e with
  | create b' serial =>
    rw [step] at hs
    split at hs
    case isTrue =>
      obtain rfl := Option.some.inj hs
      exact Function.update_of_ne hb ..
    case isFalse => cases hs
  | destroy b' =>
    rw [step] at hs
    split at hs
    case isTrue =>
      obtain rfl := Option.some.inj hs
      exact Function.update_of_ne hb ..
    case isFalse => cases hs
  | next b' err =>
    obtain ⟨p, boots, rfl, -⟩ := next_cases hs
    exact Function.update_of_ne hb ..

/-- A device that no step is of stays where it is. -/
theorem pc_of_run {b : ℕ} {es : List Event} {s t : St} (hes : ∀ e ∈ es, b ≠ e.boot)
    (hr : run step s es = some t) : t.pc b = s.pc b := by
  induction es generalizing s with
  | nil =>
    rw [run_nil, Option.some.injEq] at hr
    rw [hr]
  | cons e es ih =>
    obtain ⟨s', hs, hr⟩ := run_cons_eq_some.mp hr
    obtain ⟨he, hes⟩ := List.forall_mem_cons.mp hes
    exact (ih hes hr).trans (step_pc_of_ne he hs)

/-- The second device has lost its entry, and did not come by it rightly. -/
theorem kept_crossed : ∃ t, run step start crossed = some t ∧ ¬ Meets step Own start crossed := by
  obtain ⟨t, ht, hpc, hlost⟩ : ∃ t, run step start crossed = some t ∧ t.pc 6 = .live ∧
      t.boots.table (t.boots.minorNum 6) = none := ⟨_, rfl, rfl, rfl⟩
  refine ⟨t, ht, fun hown => ?_⟩
  have hkept := ((kept_iff ht).1.mpr hown).last ht 6 (by simp [hpc])
  rw [hlost] at hkept
  cases hkept

/-- A third device cannot be created after that. -/
def third : List Event := [.create 7 serial] ++ steps 7 4

theorem jammed_third : ∃ s t, run step start crossed = some s ∧ run step s third = some t ∧
    t.pc 7 ≠ .live := by
  obtain ⟨s, t, hs, ht, h5, h6, h7, hlost, hminor⟩ : ∃ s t, run step start crossed = some s ∧
      run step s third = some t ∧ s.pc 5 = .idle ∧ s.pc 6 = .live ∧ s.pc 7 = .idle ∧
        s.boots.table 0 = none ∧ s.boots.minorNum 6 = 0 :=
    ⟨_, _, rfl, rfl, rfl, rfl, rfl, rfl, rfl⟩
  have hrest : ∀ b, s.pc b = .idle ∨ s.pc b = .live := by
    intro b
    by_cases hb : b = 5 ∨ b = 6
    · rcases hb with rfl | rfl
      · exact .inl h5
      · exact .inr h6
    · have hboot : ∀ e ∈ crossed, e.boot = 5 ∨ e.boot = 6 := by decide
      exact .inl (pc_of_run (fun e he (hbe : b = e.boot) => hb (by rw [hbe]; exact hboot e he)) hs)
  have hstay : Meets step (Stays (s.boots.minorNum 6)) s third := by
    refine meets_of_forall (fun e he s' => ?_) s
    simp only [third, steps, List.cons_append, List.nil_append, List.mem_cons,
      List.mem_replicate] at he
    rcases he with rfl | ⟨-, rfl⟩ <;> trivial
  refine ⟨s, t, hs, ht, fun hlive => ?_⟩
  have hold :=
    (jammed_of_run hs h6 (by rw [hminor, hlost]) (by rw [hminor]; nofun) hrest hstay ht).old 7 hlive
  rw [h7] at hold
  cases hold

end Race

end CanGuru
