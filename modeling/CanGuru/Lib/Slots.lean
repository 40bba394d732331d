import Mathlib.Logic.Function.Basic
import Mathlib.Data.List.Basic

/-!
# Tables of slots

A driver often keeps its objects in a table, one to a slot, and in each object the slot it
has. This module gives what it is for the two to agree, and what putting an object into a
free slot and taking one out do to it.

## What is proved

* `Assigned.inj` — two objects of a table do not share a slot.
* `Assigned.put`, `Assigned.take` — **the operations keep the table**: an object that goes
  into a free slot, and one that goes out.
* `Listed.append`, `Listed.filter_slot`, `Listed.filter_obj` — the same of a list of pairs, for
  objects that share slots as well.
-/

namespace Slots

universe u v

variable {κ : Type u} {β : Type v}

/-- The table has the objects of a list, each in its own slot, and nothing else. -/
def Assigned (table : κ → Option β) (objs : List β) (slot : β → κ) : Prop :=
  ∀ m b, table m = some b ↔ b ∈ objs ∧ slot b = m

namespace Assigned

variable {table : κ → Option β} {objs : List β} {slot slot' : β → κ} (h : Assigned table objs slot)

include h

theorem inj {b b' : β} (hb : b ∈ objs) (hb' : b' ∈ objs) (he : slot b = slot b') : b = b' := by
  have hm := (h _ b).mpr ⟨hb, rfl⟩
  have hm' := (h _ b').mpr ⟨hb', rfl⟩
  rw [he, hm', Option.some.injEq] at hm
  exact hm.symm

theorem slot_ne {m : κ} (hm : table m = none) {b : β} (hb : b ∈ objs) : slot b ≠ m := by
  intro he
  have htable := (h m b).mpr ⟨hb, he⟩
  rw [hm] at htable
  cases htable

/-- Only the slots of the objects in the table matter. -/
theorem congr (hs : ∀ b ∈ objs, slot' b = slot b) : Assigned table objs slot' := by
  intro m b
  rw [h m b]
  refine and_congr_right fun hb => ?_
  rw [hs b hb]

variable [DecidableEq κ]

theorem put [DecidableEq β] {b : β} (hb : b ∉ objs) {m : κ} (hm : table m = none) :
    Assigned (Function.update table m (some b)) (objs ++ [b]) (Function.update slot b m) := by
  intro m' b'
  simp only [List.mem_append, List.mem_singleton]
  by_cases hb' : b' = b
  · subst hb'
    rw [Function.update_self]
    by_cases hm' : m' = m
    · subst hm'
      rw [Function.update_self]
      exact ⟨fun _ => ⟨.inr rfl, rfl⟩, fun _ => rfl⟩
    · rw [Function.update_of_ne hm', h m' b']
      exact ⟨fun hin => absurd hin.1 hb, fun hin => absurd hin.2.symm hm'⟩
  · rw [Function.update_of_ne hb']
    have hmem : b' ∈ objs ∨ b' = b ↔ b' ∈ objs := or_iff_left hb'
    rw [hmem]
    by_cases hm' : m' = m
    · subst hm'
      rw [Function.update_self, Option.some.injEq]
      exact ⟨fun he => absurd he.symm hb', fun hin => absurd hin.2 (h.slot_ne hm hin.1)⟩
    · rw [Function.update_of_ne hm']
      exact h m' b'

theorem take [BEq β] [LawfulBEq β] (hn : objs.Nodup) {b : β} (hb : b ∈ objs) :
    Assigned (Function.update table (slot b) none) (objs.erase b) slot := by
  intro m' b'
  rw [hn.mem_erase_iff]
  by_cases hm' : m' = slot b
  · subst hm'
    rw [Function.update_self]
    constructor
    · intro he
      cases he
    · rintro ⟨⟨hne, hb'⟩, he⟩
      exact absurd (h.inj hb' hb he) hne
  · rw [Function.update_of_ne hm', h m' b']
    constructor
    · rintro ⟨hb', he⟩
      exact ⟨⟨fun hbb => hm' (hbb ▸ he.symm), hb'⟩, he⟩
    · rintro ⟨⟨-, hb'⟩, he⟩
      exact ⟨hb', he⟩

end Assigned

/-! ### Lists of pairs -/

/-- The list has the objects of a kind, each with its slot, and nothing else. -/
def Listed (l : List (κ × β)) (P : β → Prop) (slot : β → κ) : Prop :=
  ∀ m b, (m, b) ∈ l ↔ P b ∧ slot b = m

namespace Listed

variable {l : List (κ × β)} {P P' : β → Prop} {slot slot' : β → κ} (h : Listed l P slot)

include h

/-- Only the slots of the objects in the list matter. -/
theorem congr (hP : ∀ b, P' b ↔ P b) (hs : ∀ b, P b → slot' b = slot b) : Listed l P' slot' := by
  intro m b
  rw [h m b, hP]
  refine and_congr_right fun hb => ?_
  rw [hs b hb]

theorem append {b : β} (hP : ∀ b', P' b' ↔ P b' ∨ b' = b) :
    Listed (l ++ [(slot b, b)]) P' slot := by
  intro m b'
  rw [List.mem_append, List.mem_singleton, Prod.mk.injEq, h m b', hP, or_and_right]
  refine or_congr_right ⟨?_, ?_⟩
  · rintro ⟨rfl, rfl⟩
    exact ⟨rfl, rfl⟩
  · rintro ⟨rfl, rfl⟩
    exact ⟨rfl, rfl⟩

/-- An object goes out of it, with all that share its slot, which are none. -/
theorem filter_slot [DecidableEq κ] {b : β} (hP : ∀ b', P' b' ↔ P b' ∧ b' ≠ b)
    (hinj : ∀ b', P b' → slot b' = slot b → b' = b) :
    Listed (l.filter fun e => e.1 ≠ slot b) P' slot := by
  intro m b'
  rw [List.mem_filter, decide_eq_true_iff, h m b', hP]
  constructor
  · rintro ⟨⟨hb', rfl⟩, hne⟩
    exact ⟨⟨hb', fun he => hne (he ▸ rfl)⟩, rfl⟩
  · rintro ⟨⟨hb', hne⟩, rfl⟩
    exact ⟨⟨hb', rfl⟩, fun he => hne (hinj b' hb' he)⟩

theorem filter_obj [DecidableEq β] {b : β} (hP : ∀ b', P' b' ↔ P b' ∧ b' ≠ b) :
    Listed (l.filter fun e => e.2 ≠ b) P' slot := by
  intro m b'
  rw [List.mem_filter, decide_eq_true_iff, h m b', hP, and_right_comm]

end Listed

end Slots
