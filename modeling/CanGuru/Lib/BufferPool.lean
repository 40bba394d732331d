import Mathlib.Data.List.Nodup
import Mathlib.Logic.Function.Basic

/-!
# Buffers that go round

A producer and a consumer share some buffers and no lock. The producer has a queue of buffers
it may write, and fills them in that order; the consumer takes the full ones in the order in
which they were filled, holds one at a time, and gives it back to the end of the queue of the
producer or drops it for good. What keeps them apart is that a buffer is in one place.

## What is proved

* `Pool.Apart.fill`, `Pool.Apart.take`, `Pool.Apart.release` — **a buffer stays in one place.**
* `pending_fill` — what the producer writes comes behind what was not read, and touches
  nothing of that.
* `pending_take`, `pending_release` — the consumer goes through it in order.
-/

namespace BufferPool

universe u v

/-- The buffers. -/
structure Pool (ι : Type u) (α : Type v) where
  /-- What they hold. -/
  mem : ι → α
  /-- Those the producer may write, in the order in which it will. -/
  free : List ι
  /-- Those it has filled, oldest first. -/
  full : List ι
  /-- The one the consumer works on. -/
  held : Option ι

variable {ι : Type u} {α : Type v}

namespace Pool

/-- The producer writes its next buffer. -/
def fill [DecidableEq ι] (write : α → α) (p : Pool ι α) : Option (Pool ι α) :=
  match p.free with
  | [] => none
  | i :: rest =>
    some { p with mem := Function.update p.mem i (write (p.mem i)), free := rest, full := p.full ++ [i] }

/-- The consumer takes the oldest full buffer. -/
def take (p : Pool ι α) : Option (Pool ι α) :=
  match p.held, p.full with
  | none, i :: rest => some { p with full := rest, held := some i }
  | _, _ => none

/-- The consumer is done with its buffer, and gives it back or drops it. -/
def release (keep : Bool) (p : Pool ι α) : Pool ι α :=
  { p with held := none, free := p.free ++ if keep then p.held.toList else [] }

/-- The buffers that are filled and not released, oldest first. -/
def unread (p : Pool ι α) : List ι := p.held.toList ++ p.full

/-- What the producer wrote and the consumer is not done with. -/
def pending (p : Pool ι α) : List α := p.unread.map p.mem

/-- Every buffer is in one place. -/
def Apart (p : Pool ι α) : Prop := (p.free ++ p.unread).Nodup

end Pool

open Pool

variable {p p' : Pool ι α}

section Fill

variable [DecidableEq ι] {write : α → α}

/-- What a write does: the next buffer goes behind those that are full. -/
theorem fill_eq_some (h : p.fill write = some p') :
    ∃ i, p.free = i :: p'.free ∧ p'.unread = p.unread ++ [i] ∧
    p'.held = p.held ∧ p'.mem = Function.update p.mem i (write (p.mem i)) := by
  unfold fill at h
  split at h
  case h_1 => cases h
  case h_2 i rest hfree =>
    obtain rfl := Option.some.inj h
    exact ⟨i, hfree, (List.append_assoc ..).symm, rfl, rfl⟩

/-- **A write** keeps every buffer in one place. -/
theorem Pool.Apart.fill (ha : p.Apart) (h : p.fill write = some p') : p'.Apart := by
  obtain ⟨i, hfree, hunread, -, -⟩ := fill_eq_some h
  have hperm : (p.free ++ p.unread).Perm (p'.free ++ p'.unread) := by
    rw [hfree, hunread, List.cons_append, ← List.append_assoc]
    exact (List.perm_append_singleton i _).symm
  exact hperm.nodup_iff.mp ha

/-- What is written comes behind what is pending, and leaves that alone. -/
theorem pending_fill (ha : p.Apart) (h : p.fill write = some p') :
    ∃ i, p.free = i :: p'.free ∧ p'.pending = p.pending ++ [write (p.mem i)] := by
  obtain ⟨i, hfree, hunread, -, hmem⟩ := fill_eq_some h
  have hi : i ∈ p.free := hfree ▸ List.mem_cons_self
  refine ⟨i, hfree, ?_⟩
  rw [pending, hunread, List.map_append, hmem, pending]
  congr 1
  · refine List.map_congr_left fun j hj => Function.update_of_ne ?_ ..
    exact fun hji => (List.nodup_append.mp ha).2.2 i hi j hj hji.symm
  · rw [List.map_singleton, Function.update_self]

end Fill

/-- What a take does: the oldest full buffer is held. -/
theorem take_eq_some (h : p.take = some p') : ∃ i, p.held = none ∧ p.full = i :: p'.full ∧
    p'.held = some i ∧ p'.free = p.free ∧ p'.mem = p.mem := by
  unfold take at h
  split at h
  case h_1 i rest hheld hfull =>
    obtain rfl := Option.some.inj h
    exact ⟨i, hheld, hfull, rfl, rfl, rfl⟩
  case h_2 => cases h

/-- Taking a buffer leaves it among those not read. -/
theorem unread_take (h : p.take = some p') : p'.unread = p.unread := by
  obtain ⟨i, hheld, hfull, hheld', -, -⟩ := take_eq_some h
  rw [unread, unread, hheld, hheld', hfull]
  rfl

/-- **A take** keeps every buffer in one place. -/
theorem Pool.Apart.take (ha : p.Apart) (h : p.take = some p') : p'.Apart := by
  obtain ⟨-, -, -, -, hfree, -⟩ := take_eq_some h
  rwa [Apart, hfree, unread_take h]

theorem pending_take (h : p.take = some p') : p'.pending = p.pending := by
  obtain ⟨-, -, -, -, -, hmem⟩ := take_eq_some h
  rw [pending, unread_take h, hmem, pending]

/-- **A release** keeps every buffer in one place. -/
theorem Pool.Apart.release (ha : p.Apart) (keep : Bool) : (p.release keep).Apart := by
  have hperm : (p.free ++ p.unread).Perm ((p.release true).free ++ (p.release true).unread) := by
    simp only [unread, Pool.release, if_true, Option.toList_none, List.nil_append]
    rw [List.append_assoc]
  cases keep with
  | true => exact hperm.nodup_iff.mp ha
  | false =>
    refine List.Nodup.sublist ?_ ha
    simp only [unread, Pool.release, Option.toList_none, List.nil_append, List.append_nil,
      Bool.false_eq_true, if_false]
    exact List.Sublist.append_left (List.sublist_append_right _ _) _

/-- What is held is the oldest of what is pending, and is read then. -/
theorem pending_release {i : ι} (h : p.held = some i) (keep : Bool) :
    p.pending = p.mem i :: (p.release keep).pending := by
  rw [pending, unread, h]
  rfl

end BufferPool
