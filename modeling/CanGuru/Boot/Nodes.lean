import CanGuru.Boot.Minors

/-!
# Device nodes and character devices

`guru_boot_create` makes a device node with the minor number of its boot device, and
adds a character device with the first number of the driver, whatever the minor number.
The node of a boot device leads to its character device if that minor number is the
first, and to nothing or to another one otherwise.

## What is proved

`reached_iff` — a run goes only through states in which the node of every live boot
device leads to it and to no other exactly when no creation succeeds while a boot device
is live.
-/

namespace CanGuru

open Machine

namespace Nodes

open Minors

/-- **Every node leads to its boot device**: that is the one `guru_boot_open` finds
under the number of its node, no other is bound to that number, and `guru_boot_read`
reads the serial number it was created for. -/
structure Reached (s : St) : Prop where
  /-- A live boot device has its node. -/
  node : ∀ b ∈ s.live, (s.boots.minorNum b, b) ∈ s.boots.nodes
  /-- Its character device is bound to the number of the node, and no other is. -/
  bound : ∀ b ∈ s.live, s.boots.cdevsAt (s.boots.minorNum b) = [b]
  /-- It is what opening the node finds. -/
  opened : ∀ b ∈ s.live, s.boots.guruBootOpen (s.boots.minorNum b) = some b
  /-- Reading gives its serial number. -/
  read : ∀ b ∈ s.live, ∀ length offset,
    s.boots.guruBootRead length offset b = ((s.serial b ++ [0x0A]).drop offset).take length

/-- No creation that would succeed comes while a boot device is live. -/
def Alone (s : St) : Event → Prop
  | .create _ o => o.cdevAdd = 0 → o.deviceCreate = 0 → o.serial.length = GURU_SN_SIZE → s.live = []
  | .destroy _ => True

/-- The only live boot device is `b`, under the first minor number. -/
structure Only (s : St) (b : ℕ) : Prop where
  /-- It is live. -/
  live : s.live = [b]
  /-- It has the first minor number. -/
  minor : s.boots.minorNum b = 0
  /-- It has its node. -/
  nodes : s.boots.nodes = [(0, b)]
  /-- It has its character device. -/
  cdevs : s.boots.cdevs = [(0, b)]
  /-- It has the serial number it was created for. -/
  serial : s.boots.serialNumber b = s.serial b ++ [0x0A]

/-- The invariant: there is at most one live boot device. -/
structure Inv (s : St) : Prop where
  /-- The table is sound. -/
  minors : Minors.Inv s
  /-- There is no live boot device, or one. -/
  only : s.live = [] ∨ ∃ b, Only s b

theorem inv_start : Inv start := ⟨Minors.inv_start, .inl rfl⟩

/-- What is registered is registered for a live boot device. -/
theorem nothing_registered {s : St} (h : Minors.Inv s) (hlive : s.live = []) :
    s.boots.cdevs = [] ∧ s.boots.nodes = [] ∧ ∀ m, s.boots.table m = none := by
  have htable : ∀ m, s.boots.table m = none := by
    intro m
    cases hm : s.boots.table m with
    | none => rfl
    | some b =>
      have hb := ((h.table m b).mp hm).1
      rw [hlive] at hb
      cases hb
  refine ⟨List.eq_nil_iff_forall_not_mem.mpr fun e he => ?_,
    List.eq_nil_iff_forall_not_mem.mpr fun e he => ?_, htable⟩
  · have hb := h.cdevs e he
    rw [hlive] at hb
    cases hb
  · have hm := h.nodes e he
    rw [htable] at hm
    cases hm

theorem Only.reached {s : St} {b : ℕ} (h : Only s b) : Reached s := by
  have hat : s.boots.cdevsAt (s.boots.minorNum b) = [b] := by
    rw [h.minor, GuruBoots.cdevsAt, h.cdevs]
    rfl
  have hall : ∀ {P : ℕ → Prop}, P b → ∀ b' ∈ s.live, P b' := by
    intro P hP b' hb'
    rw [h.live] at hb'
    rwa [List.mem_singleton.mp hb']
  refine ⟨hall ?_, hall hat, hall ?_, hall fun length offset => ?_⟩
  · rw [h.minor, h.nodes]
    exact List.mem_singleton_self _
  · rw [GuruBoots.guruBootOpen, hat]
    rfl
  · rw [GuruBoots.guruBootRead, h.serial]

/-- **The invariant gives the property.** -/
theorem Inv.reached {s : St} (h : Inv s) : Reached s := by
  obtain hlive | ⟨b, hb⟩ := h.only
  · refine ⟨?_, ?_, ?_, ?_⟩ <;> simp [hlive]
  · exact hb.reached

/-! ### The steps -/

section Steps

variable {s s' : St}

/-- **One step**: a step that leaves boot devices alone keeps the invariant. -/
theorem inv_step (e : Event) (h : Inv s) (hC : Alone s e) (hs : step s e = some s') : Inv s' := by
  refine ⟨Minors.inv_step e h.minors hs, ?_⟩
  cases e with
  | create b o =>
    obtain ⟨hb, ⟨-, minorNum, hother, rfl⟩ | ⟨hok, idx, hf, rfl⟩⟩ := step_create h.minors hs
    · refine h.only.imp_right fun ⟨b', hb'⟩ => ⟨b', hb'.live, ?_, hb'.nodes, hb'.cdevs, hb'.serial⟩
      have hne : b' ≠ b := by
        rintro rfl
        exact hb (hb'.live ▸ List.mem_singleton_self b')
      exact (hother b' hne).trans hb'.minor
    · obtain ⟨-, hc, hd, hser⟩ := GuruBoots.guruBootCreate_eq_zero.mp hok
      have hlive : s.live = [] := hC hc hd hser
      obtain ⟨hcdevs, hnodes, htable⟩ := nothing_registered h.minors hlive
      have hidx : idx = 0 := by
        obtain ⟨-, -, hleast⟩ := GuruBoots.freeMinor_eq_some hf
        by_contra hne
        exact hleast 0 (Nat.pos_of_ne_zero hne) (htable 0)
      subst hidx
      refine .inr ⟨b, ?_, Function.update_self .., ?_, ?_, ?_⟩
      · simp [hlive]
      · simp [GuruBoots.registered, hnodes]
      · simp [GuruBoots.registered, hcdevs]
      · simp [GuruBoots.registered]
  | destroy b =>
    obtain ⟨hb, rfl⟩ := step_destroy hs
    obtain hlive | ⟨b', hb'⟩ := h.only
    · rw [hlive] at hb
      cases hb
    · rw [hb'.live, List.mem_singleton] at hb
      subst hb
      exact .inl (by simp [hb'.live])

/-- A creation that succeeds while a boot device is live makes a node that leads
nowhere. -/
theorem not_reached {e : Event} (h : Inv s) (hC : ¬ Alone s e) (hs : step s e = some s') :
    ¬ Reached s' := by
  cases e with
  | destroy b => exact absurd trivial hC
  | create b o =>
    simp only [Alone, not_forall] at hC
    obtain ⟨hc, hd, hser, hlive⟩ := hC
    obtain ⟨b', hb'⟩ := h.only.resolve_left hlive
    have hmem : b' ∈ s.live := hb'.live ▸ List.mem_singleton_self b'
    have htable : ∀ m, s.boots.table m ≠ none → m = 0 := by
      intro m hm
      obtain ⟨b'', hm⟩ := Option.ne_none_iff_exists'.mp hm
      obtain ⟨hlive', hminor⟩ := (h.minors.table m b'').mp hm
      rw [hb'.live, List.mem_singleton] at hlive'
      rw [← hminor, hlive', hb'.minor]
    have hfree : s.boots.HasFree := by
      refine ⟨1, by decide, ?_⟩
      by_contra hne
      exact absurd (htable 1 hne) (by decide)
    have hok : (s.boots.guruBootCreate o b).1 = 0 :=
      GuruBoots.guruBootCreate_eq_zero.mpr ⟨hfree, hc, hd, hser⟩
    obtain ⟨hb, ⟨herr, -⟩ | ⟨-, idx, hf, rfl⟩⟩ := step_create h.minors hs
    · exact absurd hok herr
    · -- The entry under the first minor number is taken, and its number has both devices.
      have hidx : idx ≠ 0 := by
        rintro rfl
        have htaken := (h.minors.table 0 b').mpr ⟨hmem, hb'.minor⟩
        rw [(GuruBoots.freeMinor_eq_some hf).2.1] at htaken
        cases htaken
      intro hreached
      have hat := hreached.bound b (List.mem_append_right _ (List.mem_singleton_self b))
      simp [GuruBoots.cdevsAt, GuruBoots.registered, hb'.cdevs, hidx.symm] at hat

end Steps

/-- **Every node leads to its boot device** exactly when no creation succeeds while a
boot device is live. -/
theorem reached_iff {t : St} {es : List Event} (hr : run step start es = some t) :
    Always step Reached start es ↔ Meets step Alone start es := by
  refine @always_iff_meets _ _ step Alone Inv Reached (fun _ e _ h hC hs => inv_step e h hC hs)
    (fun _ => Inv.reached)
    ?_ start t es inv_start hr
  exact fun _ _ _ h hC hs => not_reached h hC hs

/-- One device is unplugged before the next is plugged. -/
theorem reached_in_turn :
    Always step Reached start [.create 5 .ok, .destroy 5, .create 6 .ok] := by
  apply (reached_iff rfl).mpr
  exact .cons rfl (fun _ _ _ => rfl) (.cons rfl trivial (.cons rfl (fun _ _ _ => rfl) trivial))

/-- Two devices are plugged: the node of the second leads nowhere. -/
theorem not_reached_second : ¬ Always step Reached start [.create 5 .ok, .create 6 .ok] := by
  intro h
  have hopened := (h.last rfl).opened 6 (by decide)
  exact absurd hopened (by decide)

end Nodes

end CanGuru
