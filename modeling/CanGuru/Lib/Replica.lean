import Mathlib.Logic.Function.Basic
import Mathlib.Data.List.Basic

/-!
# Registers told by messages

Somebody keeps a register for every key, and is told of them by messages: a message is an
order for one register, or none. What he keeps after a log of messages is what he kept
before, told the messages one by one. An order that is not for a register does not touch it.

## What is proved

* `replay_apply` — a register is what the orders for it make of it.
* `replay_congr` — **the interleaving rule**: two logs with the same orders for every register,
  in the same order, leave the same registers, wherever the orders for the others come.
-/

namespace Replica

universe u v w x

variable {κ : Type u} {α : Type v} {ω : Type w} {μ : Type x} [DecidableEq κ]

/-- What a message does to the registers: `read` finds the register and the order in it, and
`obey` is what the order does. -/
def hear (read : μ → Option (κ × ω)) (obey : ω → α → α) (r : κ → α) (m : μ) : κ → α :=
  match read m with
  | none => r
  | some (k, o) => Function.update r k (obey o (r k))

/-- The registers after a log of messages. -/
def replay (read : μ → Option (κ × ω)) (obey : ω → α → α) (r : κ → α) (log : List μ) : κ → α :=
  log.foldl (hear read obey) r

/-- The order for register `k` in a message. -/
def orderFor (read : μ → Option (κ × ω)) (k : κ) (m : μ) : Option ω :=
  match read m with
  | none => none
  | some (k', o) => if k' = k then some o else none

/-- The orders for register `k` in a log. -/
def orders (read : μ → Option (κ × ω)) (k : κ) (log : List μ) : List ω :=
  log.filterMap (orderFor read k)

variable {read : μ → Option (κ × ω)} {obey : ω → α → α}

/-- A register hears the order for it and nothing else. -/
theorem hear_apply (r : κ → α) (m : μ) (k : κ) :
    hear read obey r m k = (orderFor read k m).elim (r k) fun o => obey o (r k) := by
  unfold hear orderFor
  cases read m with
  | none => rfl
  | some ko =>
    obtain ⟨k', o⟩ := ko
    by_cases h : k' = k
    · subst h
      simp
    · simp [h, Function.update_of_ne (Ne.symm h)]

/-- **A register is what the orders for it make of it.** -/
theorem replay_apply (r : κ → α) (log : List μ) (k : κ) :
    replay read obey r log k = (orders read k log).foldl (fun a o => obey o a) (r k) := by
  induction log generalizing r with
  | nil => rfl
  | cons m log ih =>
    have hstep : replay read obey r (m :: log) k = replay read obey (hear read obey r m) log k :=
      rfl
    rw [hstep, ih, hear_apply]
    cases hm : orderFor read k m with
    | none => rw [orders, orders, List.filterMap_cons_none hm]; rfl
    | some o => rw [orders, orders, List.filterMap_cons_some hm]; rfl

theorem orders_append (k : κ) (log log' : List μ) :
    orders read k (log ++ log') = orders read k log ++ orders read k log' := List.filterMap_append

/-- Orders for one register are no orders for another. -/
theorem orders_of_map {log : List μ} {k : κ} {os : List ω}
    (h : log.map read = os.map fun o => some (k, o)) (k' : κ) :
    orders read k' log = if k' = k then os else [] := by
  induction log generalizing os with
  | nil =>
    obtain rfl := List.map_eq_nil_iff.mp h.symm
    exact (ite_self []).symm
  | cons m log ih =>
    cases os with
    | nil => cases h
    | cons o os =>
      rw [List.map_cons, List.map_cons] at h
      obtain ⟨hm, hlog⟩ := List.cons.inj h
      have hfor : orderFor read k' m = if k = k' then some o else none := by rw [orderFor, hm]
      have ih := ih hlog
      by_cases hk : k' = k
      · rw [if_pos hk] at ih ⊢
        rw [if_pos hk.symm] at hfor
        rw [orders, List.filterMap_cons_some hfor, ← orders, ih]
      · rw [if_neg hk] at ih ⊢
        rw [if_neg (Ne.symm hk)] at hfor
        rw [orders, List.filterMap_cons_none hfor, ← orders, ih]

theorem orders_of_none {log : List μ} (h : ∀ m ∈ log, read m = none) (k : κ) :
    orders read k log = [] := by
  refine List.filterMap_eq_nil_iff.mpr fun m hm => ?_
  rw [orderFor, h m hm]

theorem replay_append (r : κ → α) (log log' : List μ) (k : κ) :
    replay read obey r (log ++ log') k =
      (orders read k log').foldl (fun a o => obey o a) (replay read obey r log k) := by
  rw [replay_apply, orders_append, List.foldl_append, ← replay_apply]

/-- **The interleaving rule**: only the order of the messages for each register matters. -/
theorem replay_congr {log log' : List μ} (h : ∀ k, orders read k log = orders read k log')
    (r : κ → α) : replay read obey r log = replay read obey r log' := by
  funext k
  rw [replay_apply, replay_apply, h]

end Replica
