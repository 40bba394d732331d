import CanGuru.Lib.ListWalk

/-!
# Adding to a list from many threads

`list_add_tail` and `list_del` take no lock. This module cuts both into their loads and
stores: any number of threads add nodes, each its own, and one thread deletes the node at the
head, all mixed in any order.

## What is proved

`Racing h xs l add d` says that `xs` is the list of head `h` as it will be when the threads
have come to their ends. A node counts as added from the store to `h->prev` on, and as deleted
from the load of its `next` on.

* `Racing.tail`, `Racing.del` — **each piece keeps the list**, if it is `TailApart` or
  `DelApart`: no two threads are between the load of `h->prev` and the store to it; no node is
  linked behind one that has not stored its own `next`; the last node is not deleted while
  another is being linked behind it, and the other way round; no node is added while it is
  being deleted.
* `Racing.holds` — when all threads are at their ends the list is `xs`.
-/

namespace ListHead

universe u

variable {ν : Type u}

/-- Where a call of `list_add_tail(n, h)` stands. -/
inductive TailPc (ν : Type u) where
  /-- No call is in progress. -/
  | idle
  /-- `p = h->prev` is loaded. -/
  | loaded (p : ν)
  /-- `h->prev = n` is stored. -/
  | headPrev (p : ν)
  /-- `n->next = h` is stored. -/
  | nodeNext (p : ν)
  /-- `n->prev = p` is stored. -/
  | nodePrev (p : ν)
  deriving DecidableEq

namespace TailPc

/-- The node that the new one is linked behind. -/
def behind : TailPc ν → Option ν
  | .idle => none
  | .loaded p | .headPrev p | .nodeNext p | .nodePrev p => some p

/-- The head points back at the node, and the node before it does not point at it yet. -/
def Lags : TailPc ν → Prop
  | .headPrev _ | .nodeNext _ | .nodePrev _ => True
  | _ => False

/-- The node does not point at the head yet. -/
def Open : TailPc ν → Prop
  | .headPrev _ => True
  | _ => False

/-- The node points back. -/
def Back : TailPc ν → Prop
  | .headPrev _ | .nodeNext _ => False
  | _ => True

/-- A thread that has not loaded `h->prev` or has linked its node is at its end. -/
theorem eq_idle {a : TailPc ν} (hlags : ¬ a.Lags) (hload : ∀ p, a ≠ .loaded p) : a = .idle := by
  cases a with
  | idle => rfl
  | loaded p => exact absurd rfl (hload p)
  | headPrev p => exact absurd trivial hlags
  | nodeNext p => exact absurd trivial hlags
  | nodePrev p => exact absurd trivial hlags

end TailPc

/-- Where a call of `list_del(x)` stands. -/
inductive DelPc (ν : Type u) where
  /-- No call is in progress. -/
  | idle
  /-- Before its first load. -/
  | start (x : ν)
  /-- `q = x->next` is loaded. -/
  | next (x q : ν)
  /-- `p = x->prev` is loaded. -/
  | both (x q p : ν)
  /-- `q->prev = p` is stored. -/
  | prevStored (x q p : ν)
  /-- `p->next = q` is stored. -/
  | nextStored (x : ν)
  /-- `x->next` is poisoned. -/
  | poisoned (x : ν)
  deriving DecidableEq

namespace DelPc

/-- The node in hand. -/
def hand : DelPc ν → Option ν
  | .idle => none
  | .start x | .next x _ | .both x _ _ | .prevStored x _ _ | .nextStored x | .poisoned x => some x

/-- The node, once its `next` is loaded. -/
def taken : DelPc ν → Option ν
  | .idle | .start _ => none
  | .next x _ | .both x _ _ | .prevStored x _ _ | .nextStored x | .poisoned x => some x

/-- The head is yet to be stored to, with what is behind the node. -/
def behind : DelPc ν → Option ν
  | .next _ q | .both _ q _ | .prevStored _ q _ => some q
  | _ => none

/-- What is behind the node does not point back past it yet. -/
def Open : DelPc ν → Option ν
  | .next _ q | .both _ q _ => some q
  | _ => none

theorem hand_of_taken {d : DelPc ν} {x : ν} (h : d.taken = some x) : d.hand = some x := by
  cases d <;> first | exact h | cases h

theorem behind_of_open {d : DelPc ν} {q : ν} (h : d.Open = some q) : d.behind = some q := by
  cases d <;> first | exact h | cases h

end DelPc

section Pieces

variable [DecidableEq ν]

/-- The next piece of `list_add_tail(n, h)`. -/
def tailNext (h n : ν) (l : Links ν) : TailPc ν → TailPc ν × Links ν
  | .idle =>
    match l.prev h with
    | none => (.idle, { l with oops := true })
    | some p => (.loaded p, l)
  | .loaded p => (.headPrev p, l.setPrev h (some n))
  | .headPrev p => (.nodeNext p, l.setNext n (some h))
  | .nodeNext p => (.nodePrev p, l.setPrev n (some p))
  | .nodePrev p => (.idle, l.setNext p (some n))

/-- The next piece of `list_del`. -/
def delNext (l : Links ν) : DelPc ν → DelPc ν × Links ν
  | .idle => (.idle, l)
  | .start x =>
    match l.next x with
    | none => (.idle, { l with oops := true })
    | some q => (.next x q, l)
  | .next x q =>
    match l.prev x with
    | none => (.idle, { l with oops := true })
    | some p => (.both x q p, l)
  | .both x q p => (.prevStored x q p, l.setPrev q (some p))
  | .prevStored x q p => (.nextStored x, l.setNext p (some q))
  | .nextStored x => (.poisoned x, l.setNext x none)
  | .poisoned x => (.idle, l.setPrev x none)

end Pieces

/-! ### What a list is while nodes are added -/

section Ring

variable {h a b : ν} {xs : List ν} {l : Links ν}

/-- Every node of the list points at the next one, which points back. -/
theorem Holds.exists_next (hl : Holds l h xs) (ha : a ∈ h :: xs) :
    ∃ b, l.next a = some b ∧ l.prev b = some a := by
  obtain ⟨as, bs, he⟩ := List.append_of_mem ha
  have hc := hl.chain
  rw [he, List.append_assoc, List.cons_append, chain_append] at hc
  cases bs with
  | nil => exact ⟨h, hc.2.1, hc.2.2.1⟩
  | cons c bs => exact ⟨c, hc.2.1, hc.2.2.1⟩

theorem Holds.exists_prev (hl : Holds l h xs) (hb : b ∈ h :: xs) :
    ∃ a, l.prev b = some a ∧ l.next a = some b := by
  obtain ⟨as, c, cs, hring⟩ : ∃ as c cs, h :: xs ++ [h] = as ++ c :: b :: cs := by
    rcases List.mem_cons.mp hb with rfl | hb
    · obtain ⟨as, c, hc⟩ := List.eq_nil_or_concat' (b :: xs) |>.resolve_left (List.cons_ne_nil b xs)
      exact ⟨as, c, [], by rw [hc]; simp⟩
    · obtain ⟨as, bs, he⟩ := List.append_of_mem hb
      obtain ⟨as', c, hc⟩ :=
        List.eq_nil_or_concat' (h :: as) |>.resolve_left (List.cons_ne_nil h as)
      exact ⟨as', c, bs ++ [h], by rw [he, ← List.cons_append, hc]; simp⟩
  have hc := hl.chain
  rw [hring, chain_append] at hc
  exact ⟨c, hc.2.2.1, hc.2.1⟩

/-- A pointer forth is between nodes of the list. -/
theorem Holds.mem_of_next (hl : Holds l h xs) (hab : l.next a = some b) : a ∈ h :: xs := by
  by_contra hn
  rw [(hl.others a hn).1] at hab
  cases hab

theorem Holds.mem_of_prev (hl : Holds l h xs) (hba : l.prev b = some a) : b ∈ h :: xs := by
  by_contra hn
  rw [(hl.others b hn).2] at hba
  cases hba

theorem Holds.next_iff_prev (hl : Holds l h xs) : l.next a = some b ↔ l.prev b = some a := by
  constructor
  · intro hab
    obtain ⟨c, hac, hca⟩ := hl.exists_next (hl.mem_of_next hab)
    rw [hab, Option.some.injEq] at hac
    rw [hac, hca]
  · intro hba
    obtain ⟨c, hbc, hcb⟩ := hl.exists_prev (hl.mem_of_prev hba)
    rw [hba, Option.some.injEq] at hbc
    rw [hbc, hcb]

theorem Holds.congr {l' : Links ν} (hl : Holds l h xs) (hnext : ∀ a, l'.next a = l.next a)
    (hprev : ∀ a, l'.prev a = l.prev a) (hsound : l'.oops = false) : Holds l' h xs where
  nodup := hl.nodup
  chain := hl.chain.congr (fun a _ => hnext a) fun a _ => hprev a
  others m hm := by
    rw [hnext, hprev]
    exact hl.others m hm
  sound := hsound

end Ring

/-- **The pointers `l` lag behind those of a list**, which has the nodes `xs`, by the stores
that the threads have not made. -/
structure Lagging (h : ν) (xs : List ν) (full l : Links ν) (add : ν → TailPc ν) : Prop where
  /-- The list as it will be. -/
  whole : Holds full h xs
  /-- The head is not added to itself. -/
  head : add h = .idle
  /-- A node that lags is in the list, behind the node that was loaded. -/
  behind : ∀ n, (add n).Lags → n ∈ xs ∧ full.prev n = (add n).behind
  /-- A node points at the one behind it, or at the head if that one lags. -/
  next : ∀ a b, full.next a = some b → ¬ (add a).Open →
    ((add b).Lags → l.next a = some h) ∧ (¬ (add b).Lags → l.next a = some b)
  /-- Before it points at the head, nothing points it elsewhere. -/
  opened : ∀ a b, full.next a = some b → (add a).Open → b = h ∨ (add b).Lags
  /-- A node points back at the one before it. -/
  prev : ∀ a b, full.prev b = some a → (add b).Back → l.prev b = some a
  /-- The pointers of the other nodes hold nothing usable. -/
  others : ∀ n, n ∉ h :: xs → l.next n = none ∧ l.prev n = none
  /-- A thread that has loaded `h->prev` has loaded the last node, and adds a new one. -/
  loaded : ∀ n p, add n = .loaded p → full.prev h = some p ∧ n ∉ h :: xs
  /-- There is one of them at a time. -/
  alone : ∀ n m p q, add n = .loaded p → add m = .loaded q → n = m
  /-- No fault has happened. -/
  sound : l.oops = false

section Lagging

variable {h n p : ν} {xs : List ν} {full l : Links ν} {add : ν → TailPc ν}

theorem Lagging.holds (hl : Lagging h xs full l add) (hidle : ∀ n, add n = .idle) :
    Holds l h xs := by
  refine hl.whole.congr (fun a => ?_) (fun b => ?_) hl.sound
  · by_cases ha : a ∈ h :: xs
    · obtain ⟨b, hab, -⟩ := hl.whole.exists_next ha
      rw [hab]
      exact (hl.next a b hab (by rw [hidle]; exact id)).2 (by rw [hidle]; exact id)
    · rw [(hl.others a ha).1, (hl.whole.others a ha).1]
  · by_cases hb : b ∈ h :: xs
    · obtain ⟨a, hba, -⟩ := hl.whole.exists_prev hb
      rw [hba]
      exact hl.prev a b hba (by rw [hidle]; trivial)
    · rw [(hl.others b hb).2, (hl.whole.others b hb).2]

theorem Holds.lagging (hl : Holds l h xs) : Lagging h xs l l fun _ => .idle where
  whole := hl
  head := rfl
  behind _ := nofun
  next _ _ hab _ := ⟨nofun, fun _ => hab⟩
  opened _ _ _ := nofun
  prev _ _ hba _ := hba
  others := hl.others
  loaded _ _ := nofun
  alone _ _ _ _ := nofun
  sound := hl.sound

variable [DecidableEq ν]

/-- What a thread's place says of any node, when its own node says the same before and after. -/
theorem update_iff (add : ν → TailPc ν) (n : ν) (Q : TailPc ν → Prop) (a : TailPc ν)
    (h : Q a ↔ Q (add n)) (m : ν) : Q (Function.update add n a m) ↔ Q (add m) := by
  by_cases hm : m = n
  · rw [hm, Function.update_self, h]
  · rw [Function.update_of_ne hm]

/-- **A thread loads `h->prev`**, and no other has loaded it and not stored to it. -/
theorem Lagging.load (hl : Lagging h xs full l add) (hn : n ∉ h :: xs) (hidle : add n = .idle)
    (hp : l.prev h = some p) (halone : ∀ m q, add m ≠ .loaded q) :
    Lagging h xs full l (Function.update add n (.loaded p)) := by
  have hlags := update_iff add n TailPc.Lags (.loaded p) (by simp [hidle, TailPc.Lags])
  have hopen := update_iff add n TailPc.Open (.loaded p) (by simp [hidle, TailPc.Open])
  have hback := update_iff add n TailPc.Back (.loaded p) (by simp [hidle, TailPc.Back])
  have hnh : h ≠ n := fun he => hn (he ▸ List.mem_cons_self)
  refine ⟨hl.whole, ?_, fun m hm => ?_, fun a b hab ha => ?_, fun a b hab ha => ?_,
    fun a b hba hb => ?_, hl.others, fun m q hm => ?_, fun m m' q q' hm hm' => ?_, hl.sound⟩
  · rw [Function.update_of_ne hnh, hl.head]
  · have hmn : m ≠ n := by
      rintro rfl
      rw [hlags, hidle] at hm
      exact hm
    rw [Function.update_of_ne hmn] at hm ⊢
    exact hl.behind m hm
  · rw [hlags]
    exact hl.next a b hab (mt (hopen a).mpr ha)
  · rw [hlags]
    exact hl.opened a b hab ((hopen a).mp ha)
  · exact hl.prev a b hba ((hback b).mp hb)
  · have hmn : m = n := by
      by_contra hne
      rw [Function.update_of_ne hne] at hm
      exact halone m q hm
    obtain ⟨q', hq'⟩ := hl.whole.prev_head
    have hpq := (hl.prev q' h hq' (by rw [hl.head]; trivial)).symm.trans hp
    rw [hmn, Function.update_self] at hm
    obtain rfl : p = q := by simpa using hm
    exact ⟨hq'.trans hpq, hmn ▸ hn⟩
  · have honly : ∀ m q, Function.update add n (.loaded p) m = .loaded q → m = n := by
      intro m q hm
      by_contra hne
      rw [Function.update_of_ne hne] at hm
      exact halone m q hm
    rw [honly m q hm, honly m' q' hm']

/-- **It stores to `h->prev`**, and its node is in the list from then on. -/
theorem Lagging.headPrev (hl : Lagging h xs full l add) (hn : add n = .loaded p) :
    Lagging h (xs ++ [n]) (listAddTail full n h) (l.setPrev h (some n))
      (Function.update add n (.headPrev p)) := by
  obtain ⟨hp, hnot⟩ := hl.loaded n p hn
  have hnh : n ≠ h := fun he => hnot (he ▸ List.mem_cons_self)
  have hnp : n ≠ p := by
    rintro rfl
    exact hnot (hl.whole.mem_of_next (hl.whole.next_iff_prev.mpr hp))
  have hadd :
    listAddTail full n h = ⟨Function.update (Function.update full.next n (some h)) p (some n),
      Function.update (Function.update full.prev h (some n)) n (some p), full.oops⟩ := by
    simp only [listAddTail, hp, Links.setNext, Links.setPrev]
  have hmem : ∀ m, m ∉ h :: (xs ++ [n]) → m ≠ h ∧ m ∉ h :: xs := by
    intro m hm
    rw [← List.cons_append, List.mem_append, not_or] at hm
    exact ⟨fun he => hm.1 (he ▸ List.mem_cons_self), hm.1⟩
  refine ⟨hl.whole.listAddTail hnot, ?_, fun m hm => ?_, fun a b hab ha => ?_, fun a b hab ha => ?_,
    fun a b hba hb => ?_, fun m hm => ?_, fun m q hm => ?_, fun m m' q q' hm hm' => ?_, hl.sound⟩
  · rw [Function.update_of_ne hnh.symm, hl.head]
  · by_cases hmn : m = n
    · subst hmn
      simp [hadd, TailPc.behind]
    · rw [Function.update_of_ne hmn] at hm ⊢
      obtain ⟨hmx, hprev⟩ := hl.behind m hm
      have hmh : m ≠ h := fun he => (List.nodup_cons.mp hl.whole.nodup).1 (he ▸ hmx)
      refine ⟨List.mem_append_left _ hmx, ?_⟩
      rw [hadd]
      simpa [Function.update_of_ne hmn, Function.update_of_ne hmh] using hprev
  · have han : a ≠ n := by
      rintro rfl
      exact ha (by rw [Function.update_self]; trivial)
    rw [Function.update_of_ne han] at ha
    by_cases hap : a = p
    · subst hap
      obtain rfl : n = b := by simpa [hadd] using hab
      rw [Function.update_self]
      have hlast := (hl.next a h (hl.whole.next_iff_prev.mpr hp) ha).2 (by rw [hl.head]; exact id)
      exact ⟨fun _ => hlast, fun hno => absurd trivial hno⟩
    · rw [hadd] at hab
      simp only [Function.update_of_ne hap, Function.update_of_ne han] at hab
      have hbn : b ≠ n := by
        rintro rfl
        exact hnot (hl.whole.mem_of_prev (hl.whole.next_iff_prev.mp hab))
      rw [Function.update_of_ne hbn]
      exact hl.next a b hab ha
  · by_cases han : a = n
    · subst han
      left
      rw [hadd] at hab
      simpa [Function.update_of_ne hnp] using hab.symm
    · rw [Function.update_of_ne han] at ha
      by_cases hap : a = p
      · subst hap
        obtain rfl : n = b := by simpa [hadd] using hab
        rw [Function.update_self]
        exact .inr trivial
      · rw [hadd] at hab
        simp only [Function.update_of_ne hap, Function.update_of_ne han] at hab
        refine (hl.opened a b hab ha).imp_right fun hb => ?_
        have hbn : b ≠ n := by
          rintro rfl
          rw [hn] at hb
          exact hb
        rwa [Function.update_of_ne hbn]
  · have hbn : b ≠ n := by
      rintro rfl
      rw [Function.update_self] at hb
      exact hb
    rw [Function.update_of_ne hbn] at hb
    rw [hadd] at hba
    simp only [Function.update_of_ne hbn] at hba
    by_cases hbh : b = h
    · rw [hbh, Function.update_self] at hba
      rw [hbh, ← hba]
      exact Function.update_self ..
    · rw [Function.update_of_ne hbh] at hba
      exact (Function.update_of_ne hbh ..).trans (hl.prev a b hba hb)
  · obtain ⟨hmh, hmx⟩ := hmem m hm
    exact ⟨(hl.others m hmx).1, (Function.update_of_ne hmh ..).trans (hl.others m hmx).2⟩
  · by_cases hmn : m = n
    · rw [hmn, Function.update_self] at hm
      cases hm
    · rw [Function.update_of_ne hmn] at hm
      exact absurd (hl.alone m n q p hm hn) hmn
  · by_cases hmn : m = n
    · rw [hmn, Function.update_self] at hm
      cases hm
    · rw [Function.update_of_ne hmn] at hm
      exact absurd (hl.alone m n q p hm hn) hmn

/-- A thread goes on, and what it has loaded and where its node is in the list stay. -/
theorem Lagging.go {a : TailPc ν} {l' : Links ν} (hl : Lagging h xs full l add) (hn : (add n).Lags)
    (hlags : a.Lags) (hbehind : a.behind = (add n).behind) (hnext : ∀ c b, full.next c = some b →
      ¬ (Function.update add n a c).Open → ((add b).Lags → l'.next c = some h) ∧
        (¬ (add b).Lags → l'.next c = some b))
    (hopen : a.Open → (add n).Open)
    (hprev : ∀ c b, full.prev b = some c → (Function.update add n a b).Back →
      l'.prev b = some c) (hothers : ∀ m, m ∉ h :: xs → l'.next m = l.next m ∧ l'.prev m = l.prev m)
    (hsound : l'.oops = l.oops) : Lagging h xs full l' (Function.update add n a) := by
  have hlag := update_iff add n TailPc.Lags a (iff_of_true hlags hn)
  have hnh : h ≠ n := by
    rintro rfl
    rw [hl.head] at hn
    exact hn
  have hload : ∀ m q, Function.update add n a m = .loaded q → add m = .loaded q := by
    intro m q hm
    by_cases hmn : m = n
    · rw [hmn, Function.update_self] at hm
      rw [hm] at hlags
      exact hlags.elim
    · rwa [Function.update_of_ne hmn] at hm
  refine ⟨hl.whole, ?_, fun m hm => ?_, fun c b hcb hc => ?_, fun c b hcb hc => ?_, hprev,
    fun m hm => ?_, fun m q hm => hl.loaded m q (hload m q hm),
    fun m m' q q' hm hm' => hl.alone m m' q q' (hload m q hm) (hload m' q' hm'),
      hsound.trans hl.sound⟩
  · rw [Function.update_of_ne hnh, hl.head]
  · obtain ⟨hmx, hb⟩ := hl.behind m ((hlag m).mp hm)
    refine ⟨hmx, hb.trans ?_⟩
    by_cases hmn : m = n
    · rw [hmn, Function.update_self, hbehind]
    · rw [Function.update_of_ne hmn]
  · rw [hlag]
    exact hnext c b hcb hc
  · rw [hlag]
    refine hl.opened c b hcb ?_
    by_cases hcn : c = n
    · rw [hcn, Function.update_self] at hc
      exact hcn ▸ hopen hc
    · rwa [Function.update_of_ne hcn] at hc
  · rw [(hothers m hm).1, (hothers m hm).2]
    exact hl.others m hm

/-- **It stores to the `next` of its node.** -/
theorem Lagging.nodeNext (hl : Lagging h xs full l add) (hn : add n = .headPrev p) :
    Lagging h xs full (l.setNext n (some h)) (Function.update add n (.nodeNext p)) := by
  have hlags : (add n).Lags := by rw [hn]; trivial
  have hnx := (hl.behind n hlags).1
  refine hl.go hlags trivial (by rw [hn]; rfl) (fun c b hcb hc => ?_) nofun (fun c b hcb hb => ?_) (fun m hm => ?_) rfl
  · by_cases hcn : c = n
    · subst hcn
      have hself : (l.setNext c (some h)).next c = some h := Function.update_self ..
      refine ⟨fun _ => hself, fun hb => ?_⟩
      have hbh := (hl.opened c b hcb (by rw [hn]; trivial)).resolve_right hb
      rw [hself, hbh]
    · rw [Function.update_of_ne hcn] at hc
      rw [show (l.setNext n (some h)).next c = l.next c from Function.update_of_ne hcn ..]
      exact hl.next c b hcb hc
  · refine hl.prev c b hcb ?_
    by_cases hbn : b = n
    · rw [hbn, Function.update_self] at hb
      exact hb.elim
    · rwa [Function.update_of_ne hbn] at hb
  · have hmn : m ≠ n := fun he => hm (he ▸ List.mem_cons_of_mem _ hnx)
    exact ⟨Function.update_of_ne hmn .., rfl⟩

/-- **It stores to the `prev` of its node.** -/
theorem Lagging.nodePrev (hl : Lagging h xs full l add) (hn : add n = .nodeNext p) :
    Lagging h xs full (l.setPrev n (some p)) (Function.update add n (.nodePrev p)) := by
  have hlags : (add n).Lags := by rw [hn]; trivial
  obtain ⟨hnx, hbehind⟩ := hl.behind n hlags
  refine hl.go hlags trivial (by rw [hn]; rfl) (fun c b hcb hc => ?_) nofun (fun c b hcb hb => ?_) (fun m hm => ?_) rfl
  · refine hl.next c b hcb fun hopen => hc ?_
    by_cases hcn : c = n
    · rw [hcn, hn] at hopen
      exact hopen.elim
    · rwa [Function.update_of_ne hcn]
  · by_cases hbn : b = n
    · subst hbn
      rw [hcb, hn] at hbehind
      rw [show c = p from Option.some.inj hbehind]
      exact Function.update_self ..
    · rw [Function.update_of_ne hbn] at hb
      exact (Function.update_of_ne hbn ..).trans (hl.prev c b hcb hb)
  · have hmn : m ≠ n := fun he => hm (he ▸ List.mem_cons_of_mem _ hnx)
    exact ⟨rfl, Function.update_of_ne hmn ..⟩

/-- **It points the node before its own at it**, if that one has stored its own `next`. -/
theorem Lagging.link (hl : Lagging h xs full l add) (hn : add n = .nodePrev p)
    (hp : ¬ (add p).Open) :
    Lagging h xs full (l.setNext p (some n)) (Function.update add n .idle) := by
  have hlags : (add n).Lags := by rw [hn]; trivial
  obtain ⟨hnx, hbehind⟩ := hl.behind n hlags
  rw [hn] at hbehind
  have hpn : full.next p = some n := hl.whole.next_iff_prev.mpr hbehind
  have hpx := hl.whole.mem_of_next hpn
  have hnh : h ≠ n := fun he => (List.nodup_cons.mp hl.whole.nodup).1 (he ▸ hnx)
  have hopen := update_iff add n TailPc.Open .idle (by simp [hn, TailPc.Open])
  have hback := update_iff add n TailPc.Back .idle (by simp [hn, TailPc.Back])
  have hload : ∀ m q, Function.update add n .idle m = .loaded q → add m = .loaded q := by
    intro m q hm
    by_cases hmn : m = n
    · rw [hmn, Function.update_self] at hm
      cases hm
    · rwa [Function.update_of_ne hmn] at hm
  refine ⟨hl.whole, ?_, fun m hm => ?_, fun a b hab ha => ?_, fun a b hab ha => ?_,
    fun a b hba hb => ?_, fun m hm => ?_, fun m q hm => hl.loaded m q (hload m q hm),
    fun m m' q q' hm hm' => hl.alone m m' q q' (hload m q hm) (hload m' q' hm'), hl.sound⟩
  · rw [Function.update_of_ne hnh, hl.head]
  · have hmn : m ≠ n := by
      rintro rfl
      rw [Function.update_self] at hm
      exact hm
    rw [Function.update_of_ne hmn] at hm ⊢
    exact hl.behind m hm
  · rw [hopen] at ha
    by_cases hap : a = p
    · subst hap
      obtain rfl : n = b := Option.some.inj (hpn.symm.trans hab)
      rw [Function.update_self]
      exact ⟨False.elim, fun _ => Function.update_self ..⟩
    · have hbn : b ≠ n := by
        rintro rfl
        exact hap (Option.some.inj ((hl.whole.next_iff_prev.mp hab).symm.trans hbehind))
      rw [Function.update_of_ne hbn,
        show (l.setNext p (some n)).next a = l.next a from Function.update_of_ne hap ..]
      exact hl.next a b hab ha
  · rw [hopen] at ha
    refine (hl.opened a b hab ha).imp_right fun hb => ?_
    have hbn : b ≠ n := by
      rintro rfl
      exact hp (Option.some.inj ((hl.whole.next_iff_prev.mp hab).symm.trans hbehind) ▸ ha)
    rwa [Function.update_of_ne hbn]
  · exact hl.prev a b hba ((hback b).mp hb)
  · have hmp : m ≠ p := fun he => hm (he ▸ hpx)
    exact ⟨(Function.update_of_ne hmp ..).trans (hl.others m hm).1, (hl.others m hm).2⟩

omit [DecidableEq ν] in
theorem Lagging.first (hl : Lagging h (n :: xs) full l add) (hn : add n = .idle) :
    full.prev n = some h ∧ l.prev n = some h ∧ l.next h = some n := by
  have hfirst : full.next h = some n := hl.whole.listFirst
  have hprev := hl.whole.next_iff_prev.mp hfirst
  refine ⟨hprev, hl.prev h n hprev (by rw [hn]; trivial), ?_⟩
  exact (hl.next h n hfirst (by rw [hl.head]; exact id)).2 (by rw [hn]; exact id)

omit [DecidableEq ν] in
/-- What is behind the first node does not lag, with nothing being linked behind that. -/
theorem Lagging.second {q : ν} (hl : Lagging h (n :: xs) full l add) (hn : add n = .idle)
    (hbehind : ∀ m, (add m).behind ≠ some n) (hq : l.next n = some q) :
    full.next n = some q ∧ q ∈ h :: xs ∧ add q = .idle ∧
    (q = h → xs = [] ∧ ∀ m, add m = .idle) := by
  have hnd := hl.whole.nodup
  simp only [List.nodup_cons, List.mem_cons, not_or] at hnd
  obtain ⟨⟨hnh, hhx⟩, -, -⟩ := hnd
  obtain ⟨hprev, -, -⟩ := hl.first hn
  have hlag : ∀ b, full.next n = some b → ¬ (add b).Lags := fun b hb hlags =>
    hbehind b ((hl.behind b hlags).2.symm.trans (hl.whole.next_iff_prev.mp hb))
  obtain ⟨q', hq', hback⟩ :=
    hl.whole.exists_next (List.mem_cons_of_mem h (List.mem_cons_self (a := n) (l := xs)))
  have hnq := (hl.next n q' hq' (by rw [hn]; exact id)).2 (hlag q' hq')
  obtain rfl : q = q' := Option.some.inj (hq.symm.trans hnq)
  have hqmem : q ∈ h :: xs := by
    have hqn : q ≠ n := by
      rintro rfl
      exact hnh (Option.some.inj (hprev.symm.trans hback))
    simpa [hqn] using hl.whole.mem_of_prev hback
  have hqidle : add q = .idle :=
    TailPc.eq_idle (hlag q hq') fun p hp => (hl.loaded q p hp).2 (hl.whole.mem_of_prev hback)
  refine ⟨hq', hqmem, hqidle, ?_⟩
  rintro rfl
  have hnil : xs = [] := by
    cases xs with
    | nil => rfl
    | cons y ys =>
      have hny : full.next n = some y := hl.whole.chain.2.2.1
      rw [hq', Option.some.injEq] at hny
      exact absurd (hny ▸ List.mem_cons_self) hhx
  refine ⟨hnil, fun m => TailPc.eq_idle (fun hm => ?_) fun p hm => ?_⟩
  · have hmx := (hl.behind m hm).1
    rw [hnil, List.mem_singleton] at hmx
    rw [hmx, hn] at hm
    exact hm
  · have hp := (hl.loaded m p hm).1.symm.trans hback
    exact hbehind m (by rw [hm]; exact hp)

/-- **The first node is taken out**, with nothing being linked behind it. -/
theorem Lagging.delete {q : ν} (hl : Lagging h (n :: xs) full l add) (hn : add n = .idle)
    (hbehind : ∀ m, (add m).behind ≠ some n) (hq : l.next n = some q) :
    Lagging h xs (listDel full n) ((((l.setPrev q (some h)).setNext h (some q)).setNext n none).setPrev n none) add ∧
      q ∈ h :: xs ∧ add q = .idle ∧ (q = h → xs = [] ∧ ∀ m, add m = .idle) := by
  have hnd := hl.whole.nodup
  simp only [List.nodup_cons, List.mem_cons, not_or] at hnd
  obtain ⟨⟨hnh, -⟩, -, -⟩ := hnd
  obtain ⟨hprev, -, -⟩ := hl.first hn
  obtain ⟨hq', hqmem, hqidle, hlast⟩ := hl.second hn hbehind hq
  have hdel : listDel full n = ⟨Function.update (Function.update full.next h (some q)) n none,
      Function.update (Function.update full.prev q (some h)) n none, full.oops⟩ := by
    simp only [listDel, hprev, hq', Links.setNext, Links.setPrev]
  have hwhole := hl.whole.listDel_head
  refine ⟨⟨hwhole, hl.head, fun m hm => ?_, fun a b hab ha => ?_, fun a b hab ha => ?_, fun a b hba hb => ?_,
    fun m hm => ?_, fun m p hm => ?_, hl.alone, hl.sound⟩, hqmem, hqidle, hlast⟩
  · obtain ⟨hmx, hb⟩ := hl.behind m hm
    have hmn : m ≠ n := by
      rintro rfl
      rw [hn] at hm
      exact hm
    have hmq : m ≠ q := by
      rintro rfl
      rw [hqidle] at hm
      exact hm
    refine ⟨(List.mem_cons.mp hmx).resolve_left hmn, ?_⟩
    rw [hdel]
    simpa [Function.update_of_ne hmn, Function.update_of_ne hmq] using hb
  · have han : a ≠ n := by
      rintro rfl
      simp [hdel] at hab
    rw [hdel] at hab
    simp only [Function.update_of_ne han] at hab
    by_cases hah : a = h
    · subst hah
      obtain rfl : q = b := by simpa using hab
      rw [hqidle]
      exact ⟨False.elim, fun _ => (Function.update_of_ne han ..).trans (Function.update_self ..)⟩
    · rw [Function.update_of_ne hah] at hab
      have hreal :
          ((((l.setPrev q (some h)).setNext h (some q)).setNext n none).setPrev n none).next a =
          l.next a :=
        (Function.update_of_ne han ..).trans (Function.update_of_ne hah ..)
      rw [hreal]
      exact hl.next a b hab ha
  · have han : a ≠ n := by
      rintro rfl
      simp [hdel] at hab
    rw [hdel] at hab
    simp only [Function.update_of_ne han] at hab
    by_cases hah : a = h
    · rw [hah, hl.head] at ha
      exact ha.elim
    · rw [Function.update_of_ne hah] at hab
      exact hl.opened a b hab ha
  · have hbn : b ≠ n := by
      rintro rfl
      simp [hdel] at hba
    rw [hdel] at hba
    simp only [Function.update_of_ne hbn] at hba
    refine (Function.update_of_ne hbn ..).trans ?_
    by_cases hbq : b = q
    · rw [hbq, Function.update_self] at hba
      rw [hbq, ← hba]
      exact Function.update_self ..
    · rw [Function.update_of_ne hbq] at hba
      exact (Function.update_of_ne hbq ..).trans (hl.prev a b hba hb)
  · by_cases hmn : m = n
    · subst hmn
      exact ⟨Function.update_self .., Function.update_self ..⟩
    · have hmh : m ≠ h := fun he => hm (he ▸ List.mem_cons_self)
      have hmq : m ≠ q := fun he => hm (he ▸ hqmem)
      have hout : m ∉ h :: n :: xs := by
        intro hmem
        rcases List.mem_cons.mp hmem with he | hmem
        · exact hmh he
        · exact hm (List.mem_cons_of_mem _ ((List.mem_cons.mp hmem).resolve_left hmn))
      obtain ⟨hnext, hprev⟩ := hl.others m hout
      exact ⟨(Function.update_of_ne hmn ..).trans ((Function.update_of_ne hmh ..).trans hnext),
        (Function.update_of_ne hmn ..).trans ((Function.update_of_ne hmq ..).trans hprev)⟩
  · obtain ⟨hp, hm'⟩ := hl.loaded m p hm
    have hqh : q ≠ h := fun he => by
      rw [(hlast he).2 m] at hm
      cases hm
    refine ⟨?_, fun hmem => hm' ?_⟩
    · rw [hdel]
      simpa [Function.update_of_ne hnh, Function.update_of_ne hqh.symm] using hp
    · exact (List.mem_cons.mp hmem).elim (fun he => he ▸ List.mem_cons_self) fun hx =>
        List.mem_cons_of_mem _ (List.mem_cons_of_mem _ hx)

end Lagging

/-! ### All threads -/

section Rest

variable [DecidableEq ν] {h a x : ν} {l : Links ν} {d : DelPc ν}

/-- The pointers after the stores that are left of `list_del` of the node behind `h`. -/
def DelPc.rest (h : ν) (l : Links ν) : DelPc ν → Links ν
  | .idle | .start _ => l
  | .next x q | .both x q _ =>
    (((l.setPrev q (some h)).setNext h (some q)).setNext x none).setPrev x none
  | .prevStored x q _ => ((l.setNext h (some q)).setNext x none).setPrev x none
  | .nextStored x => (l.setNext x none).setPrev x none
  | .poisoned x => l.setPrev x none

theorem rest_oops : (d.rest h l).oops = l.oops := by
  cases d <;> rfl

theorem rest_prev (hx : d.taken ≠ some a) (ho : d.Open ≠ some a) :
    (d.rest h l).prev a = l.prev a := by
  cases d <;> simp_all [DelPc.rest, DelPc.taken, DelPc.Open, Links.setPrev, Links.setNext, eq_comm]

theorem rest_setPrev (hx : d.taken ≠ some a) (ho : d.Open ≠ some a) (v : Option ν) :
    d.rest h (l.setPrev a v) = (d.rest h l).setPrev a v := by
  cases d <;>
    simp_all [DelPc.rest, DelPc.taken, DelPc.Open, Links.setPrev, Links.setNext,
    Function.update_comm]

theorem rest_setNext (hx : d.taken ≠ some a) (hb : a = h → d.behind = none) (v : Option ν) :
    d.rest h (l.setNext a v) = (d.rest h l).setNext a v := by
  by_cases hah : a = h
  · have hnone := hb hah
    cases d <;>
      simp_all [DelPc.rest, DelPc.taken, DelPc.behind, Links.setPrev, Links.setNext,
      Function.update_comm]
  · cases d <;>
      simp_all [DelPc.rest, DelPc.taken, Links.setPrev, Links.setNext, Function.update_comm]

end Rest

/-- **What the thread that deletes knows** of the node in hand and of the list. -/
structure Deleting (h : ν) (xs : List ν) (l : Links ν) (add : ν → TailPc ν)
    (d : DelPc ν) : Prop where
  /-- The node in hand is not being added. -/
  hand : ∀ x, d.hand = some x → x ≠ h ∧ add x = .idle
  /-- It is the first node before its `next` is loaded. -/
  first : ∀ x, d = .start x → xs.head? = some x
  /-- It is not in the list after that. -/
  gone : ∀ x, d.taken = some x → x ∉ xs
  /-- What was behind it is the head or a node that is linked. -/
  after : ∀ q, d.behind = some q → q = h ∨ q ∈ xs ∧ add q = .idle
  /-- While the head points back at it, no node is being added. -/
  last : d.Open = some h → ∀ n, add n = .idle
  /-- It points back at the head. -/
  back : ∀ x q, d = .next x q → l.prev x = some h
  /-- The head was loaded. -/
  head : ∀ x q p, d = .both x q p ∨ d = .prevStored x q p → p = h

/-- **The list of head `h` will be `xs`** when all threads have come to their ends. -/
structure Racing (h : ν) (xs : List ν) (l : Links ν) (add : ν → TailPc ν) (d : DelPc ν)
    [DecidableEq ν] : Prop where
  /-- The threads that add. -/
  lagging : ∃ full, Lagging h xs full (d.rest h l) add
  /-- The thread that deletes. -/
  deleting : Deleting h xs l add d

section Racing

variable [DecidableEq ν] {h n x : ν} {xs : List ν} {l : Links ν} {add : ν → TailPc ν} {d : DelPc ν}

omit [DecidableEq ν] in
theorem Deleting.idle : Deleting h xs l add .idle :=
  ⟨nofun, nofun, nofun, nofun, nofun, nofun, nofun⟩

theorem Holds.racing (hl : Holds l h xs) : Racing h xs l (fun _ => .idle) .idle :=
  ⟨⟨l, hl.lagging⟩, .idle⟩

theorem Racing.sound (hr : Racing h xs l add d) : l.oops = false := by
  obtain ⟨full, hl⟩ := hr.lagging
  exact rest_oops.symm.trans hl.sound

/-- **When all threads are at their ends the list is `xs`.** -/
theorem Racing.holds (hr : Racing h xs l add .idle) (hidle : ∀ n, add n = .idle) :
    Holds l h xs := by
  obtain ⟨full, hl⟩ := hr.lagging
  exact hl.holds hidle

theorem Racing.nodup (hr : Racing h xs l add d) : (h :: xs).Nodup := by
  obtain ⟨full, hl⟩ := hr.lagging
  exact hl.whole.nodup

/-- A node that is to be stored to the head is not in the list. -/
theorem Racing.not_mem {p : ν} (hr : Racing h xs l add d) (hn : add n = .loaded p) :
    n ∉ h :: xs := by
  obtain ⟨full, hl⟩ := hr.lagging
  exact (hl.loaded n p hn).2

/-- `list_first_entry` finds the first node if it is linked. -/
theorem Racing.listFirst (hr : Racing h (x :: xs) l add .idle) (hx : ¬ (add x).Lags) :
    listFirst l h = some x := by
  obtain ⟨full, hl⟩ := hr.lagging
  exact (hl.next h x hl.whole.listFirst (by rw [hl.head]; exact id)).2 hx

/-- `list_empty` finds the list empty if the first node is not linked. -/
theorem Racing.listEmpty (hr : Racing h xs l add .idle)
    (hx : ∀ x, xs.head? = some x → (add x).Lags) : listEmpty l h = true := by
  obtain ⟨full, hl⟩ := hr.lagging
  have hhead : ¬ (add h).Open := by
    rw [hl.head]
    exact id
  have hfirst := hl.whole.listFirst
  suffices hnext : l.next h = some h by simpa [ListHead.listEmpty] using hnext
  cases xs with
  | nil => exact (hl.next h h hfirst hhead).2 (by rw [hl.head]; exact id)
  | cons x xs => exact (hl.next h x hfirst hhead).1 (hx x rfl)

/-- The thread that deletes begins with the first node. -/
theorem Racing.start (hr : Racing h (x :: xs) l add .idle) (hx : add x = .idle) :
    Racing h (x :: xs) l add (.start x) where
  lagging := hr.lagging
  deleting := by
    have hxh : x ≠ h := fun he => (List.nodup_cons.mp hr.nodup).1 (he ▸ List.mem_cons_self)
    refine ⟨fun y hy => ?_, fun y hy => ?_, nofun, nofun, nofun, nofun, nofun⟩
    · obtain rfl : x = y := by simpa [DelPc.hand] using hy
      exact ⟨hxh, hx⟩
    · obtain rfl : x = y := by simpa using hy
      rfl

/-! ### A thread that adds -/

/-- The list after a piece of `list_add_tail(n, h)`. -/
def grown (n : ν) (xs : List ν) : TailPc ν → List ν
  | .loaded _ => xs ++ [n]
  | _ => xs

/-- **A piece that may come in between.** `h->prev` is loaded when no other thread has loaded
it and not stored to it, and neither the last node nor `n` itself is being deleted. The node
before the new one is pointed at it when that node has stored its own `next`, or, if it is the
head, when nothing else is about to be stored there. -/
def TailApart (h n : ν) (add : ν → TailPc ν) (d : DelPc ν) : TailPc ν → Prop
  | .idle => (∀ m p, add m ≠ .loaded p) ∧ d.Open ≠ some h ∧ d.hand ≠ some n
  | .nodePrev p => ¬ (add p).Open ∧ (p = h → d.behind = none)
  | _ => True

omit [DecidableEq ν] in
theorem subset_grown (n : ν) (xs : List ν) (a : TailPc ν) :
    ∃ ys, grown n xs a = xs ++ ys ∧ ∀ y ∈ ys, y = n := by
  cases a with
  | loaded p => exact ⟨[n], rfl, by simp⟩
  | _ => exact ⟨[], (List.append_nil xs).symm, nofun⟩

/-- What the thread that deletes knows stays when another adds. -/
theorem Deleting.tail (hd : Deleting h xs l add d) (l' : Links ν) (a : TailPc ν)
    (hn : d.hand ≠ some n) (hq : d.behind = some n → n = h) (ho : d.Open ≠ some h)
    (hprev : ∀ x, d.hand = some x → l'.prev x = l.prev x) :
    Deleting h (grown n xs (add n)) l' (Function.update add n a) d := by
  obtain ⟨ys, hys, hy⟩ := subset_grown n xs (add n)
  have hne : ∀ x, d.hand = some x → x ≠ n := fun x hx he => hn (he ▸ hx)
  rw [hys]
  refine ⟨fun x hx => ?_, fun x hx => ?_, fun x hx => ?_, fun q hq' => ?_, fun h => absurd h ho,
    fun x q hx => ?_, hd.head⟩
  · rw [Function.update_of_ne (hne x hx)]
    exact hd.hand x hx
  · rw [List.head?_append, hd.first x hx]
    rfl
  · rw [List.mem_append, not_or]
    exact ⟨hd.gone x hx, fun hm => hne x (DelPc.hand_of_taken hx) (hy x hm)⟩
  · rcases hd.after q hq' with hqh | ⟨hqx, hidle⟩
    · exact .inl hqh
    · by_cases hqn : q = n
      · exact .inl (hqn ▸ hq (hqn ▸ hq'))
      · rw [Function.update_of_ne hqn]
        exact .inr ⟨List.mem_append_left _ hqx, hidle⟩
  · rw [hprev x (by rw [hx]; rfl)]
    exact hd.back x q hx

omit [DecidableEq ν] in
/-- A node that is being added is not one that the thread that deletes has to do with. -/
theorem Deleting.apart (hd : Deleting h xs l add d) (hh : add h = .idle) (hn : add n ≠ .idle) :
    d.hand ≠ some n ∧ d.behind ≠ some n ∧ d.Open ≠ some h := by
  refine ⟨fun hx => hn (hd.hand n hx).2, fun hq => ?_, fun ho => hn (hd.last ho n)⟩
  rcases hd.after n hq with rfl | ⟨-, hidle⟩
  · exact hn hh
  · exact hn hidle

/-- **Each piece of `list_add_tail` keeps the list.** -/
theorem Racing.tail (hr : Racing h xs l add d) (hnew : add n = .idle → n ∉ h :: xs)
    (hap : TailApart h n add d (add n)) :
    Racing h (grown n xs (add n)) (tailNext h n l (add n)).2
      (Function.update add n (tailNext h n l (add n)).1) d := by
  obtain ⟨⟨full, hl⟩, hd⟩ := hr
  have hxh : d.taken ≠ some h := fun hx => (hd.hand h (DelPc.hand_of_taken hx)).1 rfl
  cases hpc : add n with
  | idle =>
    rw [hpc] at hap
    obtain ⟨halone, ho, hn⟩ := hap
    have hnx := hnew hpc
    obtain ⟨p, hp⟩ := hl.whole.prev_head
    have hp : l.prev h = some p := by
      rw [← rest_prev hxh ho]
      exact hl.prev p h hp (by rw [hl.head]; trivial)
    have hq : d.behind = some n → n = h := by
      intro hq
      exact (hd.after n hq).resolve_right fun hmem => hnx (List.mem_cons_of_mem _ hmem.1)
    have hpiece : tailNext h n l .idle = (.loaded p, l) := by simp [tailNext, hp]
    have hdel := hd.tail l (.loaded p) hn hq ho fun _ _ => rfl
    rw [hpc] at hdel
    rw [hpiece]
    exact ⟨⟨full, hl.load hnx hpc ((rest_prev hxh ho).trans hp) halone⟩, hdel⟩
  | loaded p =>
    obtain ⟨hn, hq, ho⟩ := hd.apart hl.head (n := n) (by rw [hpc]; nofun)
    have hdel := hd.tail (l.setPrev h (some n)) (.headPrev p) hn (fun h => absurd h hq)
        ho fun x hx =>
      Function.update_of_ne (hd.hand x hx).1 ..
    have hstore : d.rest h (l.setPrev h (some n)) = (d.rest h l).setPrev h (some n) :=
      rest_setPrev hxh ho _
    rw [hpc] at hdel
    refine ⟨⟨listAddTail full n h, ?_⟩, hdel⟩
    rw [show (tailNext h n l (.loaded p)).2 = l.setPrev h (some n) from rfl, hstore]
    exact hl.headPrev hpc
  | headPrev p =>
    obtain ⟨hn, hq, ho⟩ := hd.apart hl.head (n := n) (by rw [hpc]; nofun)
    have hnh : n ≠ h := by
      rintro rfl
      rw [hl.head] at hpc
      cases hpc
    have hdel :=
      hd.tail (l.setNext n (some h)) (.nodeNext p) hn (fun h => absurd h hq) ho fun _ _ => rfl
    have hstore : d.rest h (l.setNext n (some h)) = (d.rest h l).setNext n (some h) :=
      rest_setNext (mt DelPc.hand_of_taken hn) (fun he => absurd he hnh) _
    rw [hpc] at hdel
    refine ⟨⟨full, ?_⟩, hdel⟩
    rw [show (tailNext h n l (.headPrev p)).2 = l.setNext n (some h) from rfl, hstore]
    exact hl.nodeNext hpc
  | nodeNext p =>
    obtain ⟨hn, hq, ho⟩ := hd.apart hl.head (n := n) (by rw [hpc]; nofun)
    have hne : ∀ x, d.hand = some x → x ≠ n := by
      rintro x hx rfl
      exact hn hx
    have hdel := hd.tail (l.setPrev n (some p)) (.nodePrev p) hn (fun h => absurd h hq)
        ho fun x hx =>
      Function.update_of_ne (hne x hx) ..
    have hstore : d.rest h (l.setPrev n (some p)) = (d.rest h l).setPrev n (some p) :=
      rest_setPrev (mt DelPc.hand_of_taken hn) (mt DelPc.behind_of_open hq) _
    rw [hpc] at hdel
    refine ⟨⟨full, ?_⟩, hdel⟩
    rw [show (tailNext h n l (.nodeNext p)).2 = l.setPrev n (some p) from rfl, hstore]
    exact hl.nodePrev hpc
  | nodePrev p =>
    rw [hpc] at hap
    obtain ⟨hopen, hhead⟩ := hap
    obtain ⟨hn, hq, ho⟩ := hd.apart hl.head (n := n) (by rw [hpc]; nofun)
    have hdel := hd.tail (l.setNext p (some n)) .idle hn (fun h => absurd h hq) ho fun _ _ => rfl
    have hpx : d.taken ≠ some p := by
      intro hx
      have hbehind := (hl.behind n (by rw [hpc]; trivial)).2
      rw [hpc] at hbehind
      rcases List.mem_cons.mp (hl.whole.mem_of_next (hl.whole.next_iff_prev.mpr hbehind)) with rfl | hmem
      · exact hxh hx
      · exact hd.gone p hx hmem
    have hstore : d.rest h (l.setNext p (some n)) = (d.rest h l).setNext p (some n) :=
      rest_setNext hpx hhead _
    rw [hpc] at hdel
    refine ⟨⟨full, ?_⟩, hdel⟩
    rw [show (tailNext h n l (.nodePrev p)).2 = l.setNext p (some n) from rfl, hstore]
    exact hl.link hpc hopen

/-! ### The thread that deletes -/

/-- The list after a piece of `list_del`. -/
def shrunk (xs : List ν) : DelPc ν → List ν
  | .start _ => xs.tail
  | _ => xs

/-- **A piece that may come in between**: `x->next` is loaded when no node is being linked
behind `x`. -/
def DelApart (add : ν → TailPc ν) : DelPc ν → Prop
  | .start x => ∀ m, (add m).behind ≠ some x
  | _ => True

/-- **Each piece of `list_del` keeps the list.** -/
theorem Racing.del (hr : Racing h xs l add d) (hap : DelApart add d) :
    Racing h (shrunk xs d) (delNext l d).2 add (delNext l d).1 := by
  obtain ⟨⟨full, hl⟩, hd⟩ := hr
  cases d with
  | idle => exact ⟨⟨full, hl⟩, hd⟩
  | start x =>
    obtain ⟨ys, rfl⟩ : ∃ ys, xs = x :: ys := by
      have hhead := hd.first x rfl
      cases xs with
      | nil => cases hhead
      | cons y ys => exact ⟨ys, by rw [Option.some.inj hhead]⟩
    change Lagging h (x :: ys) full l add at hl
    have hx := (hd.hand x rfl).2
    have hxopen : ¬ (add x).Open := by
      rw [hx]
      exact id
    obtain ⟨q, hq⟩ : ∃ q, l.next x = some q := by
      obtain ⟨q', hq', -⟩ := hl.whole.exists_next (List.mem_cons_of_mem h List.mem_cons_self)
      by_cases hlag : (add q').Lags
      · exact ⟨h, (hl.next x q' hq' hxopen).1 hlag⟩
      · exact ⟨q', (hl.next x q' hq' hxopen).2 hlag⟩
    obtain ⟨hdel, hmem, hqidle, hlast⟩ := hl.delete hx hap hq
    have hxnot : x ∉ ys := (List.nodup_cons.mp (List.nodup_cons.mp hl.whole.nodup).2).1
    have hpiece : delNext l (.start x) = (.next x q, l) := by simp [delNext, hq]
    rw [hpiece]
    refine ⟨⟨listDel full x, hdel⟩, fun y hy => hd.hand y hy, nofun, fun y hy => ?_,
      fun q' hq' => ?_, fun ho => ?_, fun y q' hy => ?_, fun y q' p hy => hy.elim nofun nofun⟩
    · obtain rfl : x = y := by simpa [DelPc.taken] using hy
      exact hxnot
    · obtain rfl : q = q' := by simpa [DelPc.behind] using hq'
      exact (List.mem_cons.mp hmem).imp_right fun hqy => ⟨hqy, hqidle⟩
    · exact (hlast (by simpa [DelPc.Open] using ho)).2
    · obtain ⟨rfl, rfl⟩ : x = y ∧ q = q' := by simpa using hy
      exact (hl.first hx).2.1
  | next x q =>
    have hpiece : delNext l (.next x q) = (.both x q h, l) := by simp [delNext, hd.back x q rfl]
    rw [hpiece]
    refine ⟨⟨full, hl⟩, hd.hand, nofun, hd.gone, hd.after, hd.last, nofun, fun y q' p hy => ?_⟩
    rcases hy with hy | hy
    · obtain ⟨rfl, rfl, rfl⟩ : x = y ∧ q = q' ∧ h = p := by simpa using hy
      rfl
    · cases hy
  | both x q p =>
    obtain rfl := hd.head x q p (.inl rfl)
    refine ⟨⟨full, hl⟩, hd.hand, nofun, hd.gone, hd.after, nofun, nofun, fun y q' p' hy => ?_⟩
    rcases hy with hy | hy
    · cases hy
    · obtain ⟨rfl, rfl, rfl⟩ : x = y ∧ q = q' ∧ p = p' := by simpa [delNext] using hy
      rfl
  | prevStored x q p =>
    obtain rfl := hd.head x q p (.inr rfl)
    exact ⟨⟨full, hl⟩, hd.hand, nofun, hd.gone, nofun, nofun, nofun,
      fun _ _ _ hy => hy.elim nofun nofun⟩
  | nextStored x =>
    exact ⟨⟨full, hl⟩, hd.hand, nofun, hd.gone, nofun, nofun, nofun,
      fun _ _ _ hy => hy.elim nofun nofun⟩
  | poisoned x => exact ⟨⟨full, hl⟩, .idle⟩

end Racing

end ListHead
