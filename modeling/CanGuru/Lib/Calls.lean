import Mathlib.Data.List.Basic

/-!
# Calls that return an error

C code often is a row of calls, each of which returns `0` or an error, and the
first error is returned at once; and it has loops over an index whose turns return
nothing. This module gives both as functions on a state, and the rules for
reasoning about them.

## What is proved

* `seq_cut` — a call of a row may be cut into pieces.
* `inv_seq`, `inv_forEach` — **the invariant rules**: what every call keeps, the row
  keeps, wherever it ends.
* `view_forEach` — **the index rule**: if a turn changes what belongs to its own
  index and nothing that belongs to another, the loop does to each index what the
  turn of that index does.
* `log_forEach` — the same for a log the turns append to.
-/

namespace Calls

universe u v w

variable {σ : Type u} {ε : Type v} [Zero ε] [DecidableEq ε]

/-- The calls in turn, up to the first that returns an error. -/
def seq : List (σ → ε × σ) → σ → ε × σ
  | [], s => (0, s)
  | f :: fs, s =>
    let (err, s) := f s
    if err ≠ 0 then (err, s) else seq fs s

/-- A call that returns nothing. -/
def void (f : σ → σ) : σ → ε × σ := fun s => (0, f s)

/-- A loop over the indices of a list. -/
def forEach {ι : Type w} (f : ι → σ → σ) (l : List ι) (s : σ) : σ := l.foldl (fun s i => f i s) s

/-! ### A row of calls -/

variable {f : σ → ε × σ} {fs : List (σ → ε × σ)} {s : σ}

@[simp] theorem seq_nil (s : σ) : seq (ε := ε) [] s = (0, s) := rfl

theorem seq_of_err (h : (f s).1 ≠ 0) : seq (f :: fs) s = f s := by
  rw [seq]
  exact if_pos h

/-- After a call that returns `0` come the others. -/
theorem seq_of_ok (h : (f s).1 = 0) : seq (f :: fs) s = seq fs (f s).2 := by
  rw [seq]
  exact if_neg (not_not.mpr h)

@[simp] theorem seq_void (f : σ → σ) (fs : List (σ → ε × σ)) (s : σ) :
    seq (void f :: fs) s = seq fs (f s) :=
  seq_of_ok rfl

@[simp] theorem seq_singleton (f : σ → ε × σ) (s : σ) : seq [f] s = f s := by
  by_cases h : (f s).1 = 0
  · rw [seq_of_ok h, seq_nil, ← h]
  · rw [seq_of_err h]

/-- **The invariant rule** of a row of calls. -/
theorem inv_seq {P : σ → Prop} (h : ∀ f ∈ fs, ∀ s, P s → P (f s).2) (hs : P s) :
    P (seq fs s).2 := by
  induction fs generalizing s with
  | nil => exact hs
  | cons f fs ih =>
    have hf : P (f s).2 := h f List.mem_cons_self s hs
    by_cases he : (f s).1 = 0
    · rw [seq_of_ok he]
      exact ih (fun g hg => h g (List.mem_cons_of_mem _ hg)) hf
    · rw [seq_of_err he]
      exact hf

/-- What no call changes, the row does not change. -/
theorem frame_seq {α : Type w} (v : σ → α) (h : ∀ f ∈ fs, ∀ s, v (f s).2 = v s) (s : σ) :
    v (seq fs s).2 = v s :=
  @inv_seq _ _ _ _ fs s (fun t => v t = v s) (fun f hf t ht => (h f hf t).trans ht) rfl

/-- Calls that return `0` make a row that does. -/
theorem seq_eq_zero (h : ∀ f ∈ fs, ∀ s, (f s).1 = 0) (s : σ) : (seq fs s).1 = 0 := by
  induction fs generalizing s with
  | nil => rfl
  | cons f fs ih =>
    rw [seq_of_ok (h f List.mem_cons_self s)]
    exact ih (fun g hg => h g (List.mem_cons_of_mem _ hg)) _

/-- A row that returns `0` ran all its calls. -/
theorem seq_ok (h : (seq fs s).1 = 0) : (seq fs s).2 = fs.foldl (fun s f => (f s).2) s := by
  induction fs generalizing s with
  | nil => rfl
  | cons f fs ih =>
    have hf : (f s).1 = 0 := by
      by_contra he
      rw [seq_of_err he] at h
      exact he h
    rw [seq_of_ok hf] at h ⊢
    exact ih h

theorem seq_append (fs gs : List (σ → ε × σ)) (s : σ) :
    seq (fs ++ gs) s = if (seq fs s).1 ≠ 0 then seq fs s else seq gs (seq fs s).2 := by
  induction fs generalizing s with
  | nil => simp
  | cons f fs ih =>
    by_cases h : (f s).1 = 0
    · rw [List.cons_append, seq_of_ok h, seq_of_ok h, ih]
    · rw [List.cons_append, seq_of_err h, seq_of_err h, if_pos h]

/-- **A call may be cut into pieces.** -/
theorem seq_cut {gs : List (σ → ε × σ)} (h : ∀ s, f s = seq gs s) (fs : List (σ → ε × σ)) (s : σ) :
    seq (f :: fs) s = seq (gs ++ fs) s := by
  rw [seq_append, ← h, seq]

/-- Rows that do the same do the same after a call. -/
theorem seq_cons_congr {gs : List (σ → ε × σ)} (h : ∀ s, seq fs s = seq gs s)
    (f : σ → ε × σ) (s : σ) : seq (f :: fs) s = seq (f :: gs) s := by
  by_cases hf : (f s).1 = 0
  · rw [seq_of_ok hf, seq_of_ok hf, h]
  · rw [seq_of_err hf, seq_of_err hf]

/-! ### Loops -/

section Loops

variable {ι : Type w} {g : ι → σ → σ} {l : List ι}

@[simp] theorem forEach_nil (g : ι → σ → σ) (s : σ) : forEach g [] s = s := rfl

@[simp] theorem forEach_cons (g : ι → σ → σ) (i : ι) (l : List ι) (s : σ) :
    forEach g (i :: l) s = forEach g l (g i s) := rfl

theorem seq_map_void (g : ι → σ → σ) (l : List ι) (s : σ) :
    seq (ε := ε) (l.map fun i => void (g i)) s = (0, forEach g l s) := by
  induction l generalizing s with
  | nil => rfl
  | cons i l ih => rw [List.map_cons, seq_void, ih, forEach_cons]

/-- **The invariant rule** of a loop. -/
theorem inv_forEach {P : σ → Prop} (h : ∀ i ∈ l, ∀ s, P s → P (g i s)) (hs : P s) :
    P (forEach g l s) := by
  induction l generalizing s with
  | nil => exact hs
  | cons i l ih =>
    exact ih (fun j hj => h j (List.mem_cons_of_mem _ hj)) (h i List.mem_cons_self s hs)

/-- What no turn changes, the loop does not change. -/
theorem frame_forEach {α : Type v} (v : σ → α) (h : ∀ i ∈ l, ∀ s, v (g i s) = v s) (s : σ) :
    v (forEach g l s) = v s :=
  @inv_forEach _ s _ g l (fun t => v t = v s) (fun i hi t ht => (h i hi t).trans ht) rfl

variable {α : Type v} {v : ι → σ → α}

/-- A loop does nothing to an index that is not in its list. -/
theorem view_forEach_of_not_mem (hne : ∀ i j s, j ≠ i → v j (g i s) = v j s) {j : ι}
    (hj : j ∉ l) (s : σ) : v j (forEach g l s) = v j s :=
  frame_forEach (v j) (fun i hi s => hne i j s fun he => hj (he ▸ hi)) s

/-- **The index rule**: the loop does to each index of its list what the turn of that
index does. -/
theorem view_forEach {t : ι → α → α} (hself : ∀ i s, v i (g i s) = t i (v i s))
    (hne : ∀ i j s, j ≠ i → v j (g i s) = v j s) (hl : l.Nodup) {j : ι} (hj : j ∈ l) (s : σ) :
    v j (forEach g l s) = t j (v j s) := by
  induction l generalizing s with
  | nil => cases hj
  | cons i l ih =>
    obtain ⟨hi, hl⟩ := List.nodup_cons.mp hl
    rw [forEach_cons]
    rcases List.mem_cons.mp hj with rfl | hj
    · rw [view_forEach_of_not_mem hne hi, hself]
    · rw [ih hl hj, hne i j s fun he => hi (he ▸ hj)]

/-- A log to which the turn of each index appends what belongs to it: the loop
appends it for each index. -/
theorem log_forEach {β : Type v} {log : σ → List β} {t : ι → α → List β}
    (hself : ∀ i s, log (g i s) = log s ++ t i (v i s)) (hne : ∀ i j s, j ≠ i → v j (g i s) = v j s)
    (hl : l.Nodup) (s : σ) : log (forEach g l s) = log s ++ l.flatMap fun i => t i (v i s) := by
  induction l generalizing s with
  | nil => simp
  | cons i l ih =>
    obtain ⟨hi, hl⟩ := List.nodup_cons.mp hl
    have hrest : (l.flatMap fun j => t j (v j (g i s))) = l.flatMap fun j => t j (v j s) := by
      refine List.flatMap_congr fun j hj => ?_
      rw [hne i j s fun he => hi (he ▸ hj)]
    rw [forEach_cons, ih hl, hself, hrest, List.flatMap_cons, List.append_assoc]

end Loops

end Calls
