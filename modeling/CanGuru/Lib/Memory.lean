import Mathlib.Data.Nat.Find
import Mathlib.Logic.Function.Basic
import Mathlib.Data.List.Basic
import Mathlib.Order.Basic

/-!
# Copies and strings in memory

A memory is what a pointer leads to, as a function of the offset. A copy reads and writes
one element after the other; the offsets it touches are kept, so that statements can say
where it goes. The string in a buffer is what comes before the first `nul`, if there is one
within the buffer.

## What is proved

* `memcpy_reads`, `memcpy_writes`, `memcpy_mem` — a copy of `n` elements touches the
  offsets below `n` on both sides, and nothing else.
* `IsString.le`, `exists_isString_iff` — a buffer has a string exactly if it has a `nul`,
  and the string ends at the first one.
* `exists_isString_memcpy_iff` — **a copy into a cleared buffer leaves a string of what is
  copied** exactly when there is room for one more, or a `nul` is copied.
-/

namespace Memory

universe u

variable {β : Type u}

/-! ### Copies -/

/-- What a copy does. -/
structure Copy (β : Type u) where
  /-- The offsets it reads, in order. -/
  reads : List ℕ
  /-- The offsets it writes, in order. -/
  writes : List ℕ
  /-- The destination when it is done. -/
  mem : ℕ → β

/-- A copy of `n` elements from `src` to `dst`. -/
def memcpy (src dst : ℕ → β) : ℕ → Copy β
  | 0 => ⟨[], [], dst⟩
  | n + 1 =>
    let c := memcpy src dst n
    ⟨c.reads ++ [n], c.writes ++ [n], Function.update c.mem n (src n)⟩

variable {src dst : ℕ → β} {n : ℕ}

@[simp] theorem memcpy_reads : (memcpy src dst n).reads = List.range n := by
  induction n with
  | zero => rfl
  | succ n ih => rw [memcpy, ih, List.range_succ]

@[simp] theorem memcpy_writes : (memcpy src dst n).writes = List.range n := by
  induction n with
  | zero => rfl
  | succ n ih => rw [memcpy, ih, List.range_succ]

theorem forall_reads_lt_iff {room : ℕ} : (∀ i ∈ (memcpy src dst n).reads, i < room) ↔ n ≤ room := by
  simp only [memcpy_reads, List.mem_range]
  exact forall_lt_iff_le

theorem forall_writes_lt_iff {room : ℕ} : (∀ i ∈ (memcpy src dst n).writes, i < room) ↔
    n ≤ room := by
  simp only [memcpy_writes, List.mem_range]
  exact forall_lt_iff_le

/-- The destination has what was copied, and behind it what it had. -/
theorem memcpy_mem (i : ℕ) : (memcpy src dst n).mem i = if i < n then src i else dst i := by
  induction n with
  | zero => rfl
  | succ n ih =>
    rw [memcpy]
    by_cases hi : i = n
    · subst hi
      simp
    · have hlt : i < n + 1 ↔ i < n := by omega
      simp [hi, hlt, ih]

/-! ### Strings -/

section Strings

variable {nul : β} {mem : ℕ → β} {room len : ℕ}

/-- The string in a buffer of `room` elements, which a `nul` ends, has `len` of them. -/
structure IsString (nul : β) (mem : ℕ → β) (room len : ℕ) : Prop where
  /-- It ends within the buffer. -/
  bound : len < room
  /-- A `nul` ends it. -/
  ends : mem len = nul
  /-- No `nul` is in it. -/
  ne_nul : ∀ i < len, mem i ≠ nul

theorem IsString.le (h : IsString nul mem room len) {i : ℕ} (hi : mem i = nul) : len ≤ i := by
  by_contra hlt
  exact h.ne_nul i (Nat.lt_of_not_le hlt) hi

/-- A buffer has a string if it has a `nul`. -/
theorem exists_isString_iff : (∃ len, IsString nul mem room len) ↔ ∃ i < room, mem i = nul := by
  constructor
  · rintro ⟨len, h⟩
    exact ⟨len, h.bound, h.ends⟩
  · rintro ⟨i, hi, hz⟩
    classical
    have hex : ∃ i, mem i = nul := ⟨i, hz⟩
    refine ⟨Nat.find hex, lt_of_le_of_lt (Nat.find_min' hex hz) hi, Nat.find_spec hex, ?_⟩
    exact fun j hj => Nat.find_min hex hj

/-- **A copy into a cleared buffer leaves a string of what is copied** exactly when there
is room for one more, or a `nul` is copied. -/
theorem exists_isString_memcpy_iff (hclear : ∀ i < room, dst i = nul) (hn : n ≤ room) :
    (∃ len ≤ n, IsString nul (memcpy src dst n).mem room len) ↔ n < room ∨
    ∃ i < n, src i = nul := by
  constructor
  · rintro ⟨len, hle, h⟩
    by_cases hlt : len < n
    · refine .inr ⟨len, hlt, ?_⟩
      rw [← h.ends, memcpy_mem, if_pos hlt]
    · exact .inl (lt_of_le_of_lt (Nat.le_of_not_lt hlt) h.bound)
  · intro h
    have hnul : ∃ i < room, i ≤ n ∧ (memcpy src dst n).mem i = nul := by
      rcases h with hlt | ⟨i, hi, hz⟩
      · refine ⟨n, hlt, le_rfl, ?_⟩
        rw [memcpy_mem, if_neg (lt_irrefl n), hclear n hlt]
      · refine ⟨i, lt_of_lt_of_le hi hn, Nat.le_of_lt hi, ?_⟩
        rw [memcpy_mem, if_pos hi, hz]
    obtain ⟨i, hi, hin, hz⟩ := hnul
    obtain ⟨len, hs⟩ := exists_isString_iff.mpr ⟨i, hi, hz⟩
    exact ⟨len, Nat.le_trans (hs.le hz) hin, hs⟩

end Strings

end Memory
