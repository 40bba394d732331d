import Mathlib.Logic.Function.Basic
import Mathlib.Data.List.Nodup
import Mathlib.Data.List.Infix

/-!
# Intrusive doubly linked lists

The circular list of `struct list_head`: the links live in the nodes, a list is
known by its head, and a node that is moved, added twice or deleted twice does to
the pointers whatever the assignments do.

The state is the two pointers of every node. A pointer that holds nothing usable
(`NULL` in fresh memory, the poison `list_del` leaves) is `none`; to store through
one is a fault, which sets the flag `oops` and leaves the pointers alone.

## What is proved

`Holds l h xs` says that the list of head `h` is `xs`, linked both ways, and that
no other node is linked.

* `Holds.unique` — the list gives the pointers of every node.
* `Holds.listEmpty_iff`, `Holds.listFirst`, `Holds.linked_iff` — what the readers
  read.
* `Holds.listAddTail` — adding a node that is not in the list appends it.
* `Holds.listDel_head` — deleting the first node takes it out.

`Solo l h n` says that at most the node `n` is in the list, which may have been added
while it was linked or deleted while it was not.

* `Solo.listAddTail`, `Solo.listDel` — adding and deleting the node keep it so, and the
  node is the first entry once it was added.
-/

namespace ListHead

universe u

/-- The pointers of every node. -/
structure Links (ν : Type u) where
  /-- `node->next`. -/
  next : ν → Option ν
  /-- `node->prev`. -/
  prev : ν → Option ν
  /-- A pointer that holds nothing usable has been followed. -/
  oops : Bool

variable {ν : Type u}

/-- Fresh memory: every pointer is `NULL`. -/
def fresh : Links ν := ⟨fun _ => none, fun _ => none, false⟩

/-- The node is linked: its pointers are neither `NULL` nor poison. -/
def Links.linked (l : Links ν) (n : ν) : Bool := (l.next n).isSome

/-- `list_first_entry(h)`: `h->next`. -/
def listFirst (l : Links ν) (h : ν) : Option ν := l.next h

variable [DecidableEq ν]

/-- `node->next = m`. -/
def Links.setNext (l : Links ν) (n : ν) (m : Option ν) : Links ν :=
  { l with next := Function.update l.next n m }

/-- `node->prev = m`. -/
def Links.setPrev (l : Links ν) (n : ν) (m : Option ν) : Links ν :=
  { l with prev := Function.update l.prev n m }

/-- `INIT_LIST_HEAD(h)`. -/
def initListHead (l : Links ν) (h : ν) : Links ν := (l.setNext h (some h)).setPrev h (some h)

/-- `list_empty(h)`: `h->next == h`. -/
def listEmpty (l : Links ν) (h : ν) : Bool := l.next h = some h

/-- `list_add_tail(n, h)`: with `p = h->prev`, the stores `h->prev = n`,
`n->next = h`, `n->prev = p`, `p->next = n`, in this order. -/
def listAddTail (l : Links ν) (n h : ν) : Links ν :=
  match l.prev h with
  | none => { l with oops := true }
  | some p => (((l.setPrev h (some n)).setNext n (some h)).setPrev n (some p)).setNext p (some n)

/-- `list_del(n)`: with `p = n->prev` and `q = n->next`, the stores `q->prev = p`,
`p->next = q`, and both pointers of `n` poisoned. -/
def listDel (l : Links ν) (n : ν) : Links ν :=
  match l.prev n, l.next n with
  | some p, some q => (((l.setPrev q (some p)).setNext p (some q)).setNext n none).setPrev n none
  | _, _ => { l with oops := true }

/-! ### What a list is -/

omit [DecidableEq ν] in
/-- Consecutive nodes are linked both ways. -/
def Chain (l : Links ν) : List ν → Prop
  | a :: b :: rest => l.next a = some b ∧ l.prev b = some a ∧ Chain l (b :: rest)
  | _ => True

/-- **The list of head `h` is `xs`**, and no other node is linked. -/
structure Holds (l : Links ν) (h : ν) (xs : List ν) : Prop where
  /-- No node occurs twice. -/
  nodup : (h :: xs).Nodup
  /-- From the head through the nodes and back. -/
  chain : Chain l (h :: xs ++ [h])
  /-- The pointers of the other nodes hold nothing usable. -/
  others : ∀ n, n ∉ h :: xs → l.next n = none ∧ l.prev n = none
  /-- No fault has happened. -/
  sound : l.oops = false

variable {l : Links ν} {h n : ν} {xs ys : List ν}

omit [DecidableEq ν] in
theorem chain_append (xs : List ν) (a : ν) (ys : List ν) :
    Chain l (xs ++ a :: ys) ↔ Chain l (xs ++ [a]) ∧ Chain l (a :: ys) := by
  induction xs with
  | nil => simp [Chain]
  | cons x xs ih =>
    cases xs with
    | nil => simp [Chain, and_assoc]
    | cons y xs =>
      simp only [List.cons_append] at ih ⊢
      simp only [Chain, ih, and_assoc]

omit [DecidableEq ν] in
/-- A chain depends on `next` of all its nodes but the last and on `prev` of all
but the first. -/
theorem Chain.congr {l' : Links ν} {xs : List ν} (hc : Chain l xs)
    (hn : ∀ a ∈ xs.dropLast, l'.next a = l.next a) (hp : ∀ b ∈ xs.tail, l'.prev b = l.prev b) :
    Chain l' xs := by
  induction xs with
  | nil => trivial
  | cons a xs ih =>
    cases xs with
    | nil => trivial
    | cons b xs =>
      obtain ⟨h1, h2, h3⟩ := hc
      refine ⟨(hn a (by simp)).trans h1, (hp b (by simp)).trans h2, ih h3 ?_ ?_⟩
      · exact fun c hc =>
          hn c (by simp only [List.dropLast_cons_cons]; exact List.mem_cons_of_mem _ hc)
      · exact fun c hc => hp c (List.mem_cons_of_mem _ hc)

omit [DecidableEq ν] in
/-- A chain gives `next` of all its nodes but the last and `prev` of all but the first. -/
theorem Chain.agree {l' : Links ν} {xs : List ν} (hc : Chain l xs) (hc' : Chain l' xs) :
    (∀ a ∈ xs.dropLast, l.next a = l'.next a) ∧ ∀ b ∈ xs.tail, l.prev b = l'.prev b := by
  induction xs with
  | nil => exact ⟨nofun, nofun⟩
  | cons a xs ih =>
    cases xs with
    | nil => exact ⟨nofun, nofun⟩
    | cons b xs =>
      obtain ⟨h1, h2, h3⟩ := hc
      obtain ⟨h1', h2', h3'⟩ := hc'
      obtain ⟨hnext, hprev⟩ := ih h3 h3'
      rw [List.dropLast_cons_cons, List.tail_cons]
      exact ⟨List.forall_mem_cons.mpr ⟨h1.trans h1'.symm, hnext⟩,
        List.forall_mem_cons.mpr ⟨h2.trans h2'.symm, hprev⟩⟩

omit [DecidableEq ν] in
/-- **The pointers are those of the list.** -/
theorem Holds.unique {l' : Links ν} (hl : Holds l h xs) (hl' : Holds l' h xs) : l = l' := by
  obtain ⟨hnext, hprev⟩ := hl.chain.agree hl'.chain
  rw [List.dropLast_concat] at hnext
  rw [List.cons_append, List.tail_cons] at hprev
  have hnext' : l.next = l'.next := by
    funext a
    by_cases ha : a ∈ h :: xs
    · exact hnext a ha
    · rw [(hl.others a ha).1, (hl'.others a ha).1]
  have hprev' : l.prev = l'.prev := by
    funext b
    by_cases hb : b ∈ h :: xs
    · exact hprev b (by simpa [or_comm] using hb)
    · rw [(hl.others b hb).2, (hl'.others b hb).2]
  cases l
  cases l'
  exact congr (congrArg₂ Links.mk hnext' hprev') (hl.sound.trans hl'.sound.symm)

/-! ### The operations -/

/-- After `INIT_LIST_HEAD` in fresh memory the list is empty. -/
theorem holds_init (h : ν) : Holds (initListHead fresh h) h [] where
  nodup := by simp
  chain := by simp [Chain, initListHead, Links.setNext, Links.setPrev]
  others := by
    intro n hn
    have hne : n ≠ h := by simpa using hn
    simp [initListHead, Links.setNext, Links.setPrev, fresh, Function.update_of_ne hne]
  sound := rfl

omit [DecidableEq ν] in
/-- The first entry is the first node, or the head if there is none. -/
theorem Holds.listFirst (hl : Holds l h xs) : listFirst l h = some (xs.headD h) := by
  have hc := hl.chain
  cases xs with
  | nil => exact hc.1
  | cons x xs => exact hc.1

theorem Holds.listEmpty_iff (hl : Holds l h xs) : listEmpty l h = true ↔ xs = [] := by
  have hf : l.next h = some (xs.headD h) := hl.listFirst
  have hd := hl.nodup
  cases xs with
  | nil => simpa [listEmpty] using hf
  | cons x xs =>
    have hne : x ≠ h := fun he => by simp [he] at hd
    simp only [listEmpty, hf, List.headD_cons, decide_eq_true_eq, Option.some.injEq, hne,
      reduceCtorEq]

omit [DecidableEq ν] in
/-- A node is linked when it is the head or in the list. -/
theorem Holds.linked_iff (hl : Holds l h xs) : l.linked n = true ↔ n ∈ h :: xs := by
  constructor
  · intro hn
    by_contra hmem
    simp [Links.linked, (hl.others n hmem).1] at hn
  · intro hmem
    obtain ⟨as, bs, he⟩ := List.append_of_mem hmem
    have hc := hl.chain
    rw [he, List.append_assoc, List.cons_append, chain_append] at hc
    cases bs with
    | nil => simp [Links.linked, hc.2.1]
    | cons b bs => simp [Links.linked, hc.2.1]

/-- **Adding a node that is not in the list appends it.** -/
theorem Holds.listAddTail (hl : Holds l h xs) (hn : n ∉ h :: xs) :
    Holds (listAddTail l n h) h (xs ++ [n]) := by
  obtain ⟨ys, p, hp⟩ : ∃ ys p, h :: xs = ys ++ [p] :=
    ⟨_, _, (List.dropLast_append_getLast (List.cons_ne_nil h xs)).symm⟩
  have hc := hl.chain
  rw [hp, List.append_assoc, List.singleton_append, chain_append] at hc
  obtain ⟨hys, hph, hhp, -⟩ := hc
  have hnd := hl.nodup
  have hhx : h ∉ xs := (List.nodup_cons.mp hnd).1
  have hpy : p ∉ ys := by
    rw [hp] at hnd
    exact fun hm => (List.nodup_append.mp hnd).2.2 p hm p (by simp) rfl
  have hnh : n ≠ h := fun he => hn (he ▸ List.mem_cons_self)
  have hnx : n ∉ xs := fun hm => hn (List.mem_cons_of_mem _ hm)
  have hny : n ∉ ys ++ [p] := hp ▸ hn
  have hnp : n ≠ p := fun he => hny (by simp [he])
  -- the four stores, as two updates of each pointer
  have hadd :
    ListHead.listAddTail l n h = ⟨Function.update (Function.update l.next n (some h)) p (some n),
      Function.update (Function.update l.prev h (some n)) n (some p), l.oops⟩ := by
    simp only [ListHead.listAddTail, hhp, Links.setNext, Links.setPrev]
  rw [hadd]
  refine ⟨?_, ?_, ?_, hl.sound⟩
  · rw [← List.cons_append, List.nodup_append]
    refine ⟨hnd, by simp, fun a ha b hb => ?_⟩
    rw [List.mem_singleton.mp hb]
    exact fun he => hn (he ▸ ha)
  · rw [← List.cons_append, hp, List.append_assoc, List.append_assoc, List.singleton_append,
      chain_append]
    refine ⟨hys.congr (fun a ha => ?_) (fun b hb => ?_), ?_, ?_, ?_, ?_, trivial⟩
    · rw [List.dropLast_concat] at ha
      simp only [Function.update_of_ne (ne_of_mem_of_not_mem ha hpy),
        Function.update_of_ne (ne_of_mem_of_not_mem (List.mem_append_left _ ha) hny)]
    · rw [← hp, List.tail_cons] at hb
      simp only [Function.update_of_ne (ne_of_mem_of_not_mem hb hnx),
        Function.update_of_ne (ne_of_mem_of_not_mem hb hhx)]
    · exact Function.update_self ..
    · exact Function.update_self ..
    · simp [Function.update_of_ne hnp]
    · simp [Function.update_of_ne hnh.symm]
  · intro m hm
    rw [← List.cons_append, List.mem_append, not_or] at hm
    have hmn : m ≠ n := by simpa using hm.2
    have hmp : m ≠ p := fun he => hm.1 (by rw [hp]; simp [he])
    have hmh : m ≠ h := fun he => hm.1 (he ▸ List.mem_cons_self)
    simp only [Function.update_of_ne hmn, Function.update_of_ne hmp, Function.update_of_ne hmh]
    exact hl.others m hm.1

/-- **Deleting the first node takes it out.** -/
theorem Holds.listDel_head (hl : Holds l h (n :: xs)) : Holds (listDel l n) h xs := by
  obtain ⟨hhn, hnh', hrest⟩ := hl.chain
  obtain ⟨q, rest, hq⟩ : ∃ q rest, xs ++ [h] = q :: rest := by
    cases xs with
    | nil => exact ⟨h, [], rfl⟩
    | cons x xs => exact ⟨x, xs ++ [h], rfl⟩
  have hnd := hl.nodup
  simp only [List.nodup_cons, List.mem_cons, not_or] at hnd
  obtain ⟨⟨hne, hhx⟩, hnx, hxs⟩ := hnd
  simp only [List.append_eq, hq] at hrest
  obtain ⟨hnq, hqn, hqr⟩ := hrest
  -- the ring behind the node: the other nodes and the head
  have hring : ∀ m, m ∈ q :: rest ↔ m ∈ xs ∨ m = h :=
    fun m => by rw [← hq, List.mem_append, List.mem_singleton]
  have hnring : n ∉ q :: rest := by
    rw [hring]
    exact not_or.mpr ⟨hnx, Ne.symm hne⟩
  have hqne : q ≠ n := fun he => hnring (he ▸ List.mem_cons_self)
  have hnrest : n ∉ rest := fun hm => hnring (List.mem_cons_of_mem _ hm)
  have hqrest : q ∉ rest := by
    have hnodup : (xs ++ [h]).Nodup := by
      rw [List.nodup_append]
      exact ⟨hxs, by simp, fun a ha b hb => by rw [List.mem_singleton.mp hb]; exact fun he => hhx (he ▸ ha)⟩
    rw [hq] at hnodup
    exact (List.nodup_cons.mp hnodup).1
  have hdel : ListHead.listDel l n = ⟨Function.update (Function.update l.next h (some q)) n none,
      Function.update (Function.update l.prev q (some h)) n none, l.oops⟩ := by
    simp only [ListHead.listDel, hnh', hnq, Links.setNext, Links.setPrev]
  rw [hdel]
  refine ⟨by simp [hhx, hxs], ?_, ?_, hl.sound⟩
  · rw [List.cons_append, hq]
    refine ⟨?_, ?_, hqr.congr (fun a ha => ?_) (fun b hb => ?_)⟩
    · simp [Function.update_of_ne hne]
    · simp [Function.update_of_ne hqne]
    · rw [← hq, List.dropLast_concat] at ha
      simp only [Function.update_of_ne (ne_of_mem_of_not_mem ha hnx),
        Function.update_of_ne (ne_of_mem_of_not_mem ha hhx)]
    · rw [List.tail_cons] at hb
      simp only [Function.update_of_ne (ne_of_mem_of_not_mem hb hnrest),
        Function.update_of_ne (ne_of_mem_of_not_mem hb hqrest)]
  · intro m hm
    by_cases hmn : m = n
    · subst hmn
      exact ⟨Function.update_self .., Function.update_self ..⟩
    · have hmh : m ≠ h := fun he => hm (he ▸ List.mem_cons_self)
      have hmq : m ≠ q := by
        rintro rfl
        rcases (hring m).mp List.mem_cons_self with hmx | hmh'
        · exact hm (List.mem_cons_of_mem _ hmx)
        · exact hmh hmh'
      simp only [Function.update_of_ne hmn, Function.update_of_ne hmh, Function.update_of_ne hmq]
      refine hl.others m fun hmem => hm ?_
      simp only [List.mem_cons, hmn, false_or] at hmem ⊢
      exact hmem

/-! ### One node, in whatever order -/

/-- At most the node `n` is in the list of head `h`. -/
structure Solo (l : Links ν) (h n : ν) : Prop where
  /-- The node is not the head. -/
  ne : n ≠ h
  /-- The head points both ways to itself or to the node. -/
  ends : l.next h = some h ∧ l.prev h = some h ∨ l.next h = some n ∧ l.prev h = some n
  /-- The pointers of the node are the same. -/
  same : l.next n = l.prev n
  /-- They point at the head or at the node, if they are usable. -/
  only : ∀ p, l.prev n = some p → p = h ∨ p = n

omit [DecidableEq ν] in
theorem Holds.solo (hl : Holds l h []) (hne : n ≠ h) : Solo l h n where
  ne := hne
  ends := .inl ⟨hl.chain.1, hl.chain.2.1⟩
  same := by
    obtain ⟨hnext, hprev⟩ := hl.others n (by simpa using hne)
    rw [hnext, hprev]
  only := by
    intro p hp
    rw [(hl.others n (by simpa using hne)).2] at hp
    cases hp

/-- **The node may be added at any time**, and is the first entry then. -/
theorem Solo.listAddTail (hl : Solo l h n) :
    Solo (listAddTail l n h) h n ∧ listFirst (ListHead.listAddTail l n h) h = some n := by
  obtain ⟨hne, ⟨hnext, hprev⟩ | ⟨hnext, hprev⟩, -, -⟩ := hl
  · have hadd :
      ListHead.listAddTail l n h = ⟨Function.update (Function.update l.next n (some h)) h (some n),
        Function.update (Function.update l.prev h (some n)) n (some h), l.oops⟩ := by
      simp only [ListHead.listAddTail, hprev, Links.setNext, Links.setPrev]
    rw [hadd]
    refine ⟨⟨hne, .inr ⟨?_, ?_⟩, ?_, ?_⟩, ?_⟩ <;>
      simp [listFirst, Function.update_of_ne hne, Function.update_of_ne hne.symm]
  · have hadd :
      ListHead.listAddTail l n h = ⟨Function.update (Function.update l.next n (some h)) n (some n),
        Function.update (Function.update l.prev h (some n)) n (some n), l.oops⟩ := by
      simp only [ListHead.listAddTail, hprev, Links.setNext, Links.setPrev]
    rw [hadd]
    refine ⟨⟨hne, .inr ⟨?_, ?_⟩, ?_, ?_⟩, ?_⟩ <;>
      simp [listFirst, Function.update_of_ne hne.symm, hnext]

/-- **The node may be deleted whenever it is the first entry.** -/
theorem Solo.listDel (hl : Solo l h n) (hf : listFirst l h = some n) : Solo (listDel l n) h n := by
  obtain ⟨hne, hends, hsame, honly⟩ := hl
  have hends : l.next h = some n ∧ l.prev h = some n := by
    refine hends.resolve_left fun hempty => hne ?_
    exact Option.some.inj (hf.symm.trans hempty.1)
  cases hp : l.prev n with
  | none =>
    have hdel : ListHead.listDel l n = { l with oops := true } := by
      simp only [ListHead.listDel, hp]
    rw [hdel]
    exact ⟨hne, .inr hends, hsame, honly⟩
  | some p =>
    have hdel : ListHead.listDel l n = ⟨Function.update (Function.update l.next p (some p)) n none,
        Function.update (Function.update l.prev p (some p)) n none, l.oops⟩ := by
      simp only [ListHead.listDel, hsame, hp, Links.setNext, Links.setPrev]
    rw [hdel]
    refine ⟨hne, ?_, by simp, by simp⟩
    rcases honly p hp with rfl | rfl
    · exact .inl (by simp [Function.update_of_ne hne.symm])
    · exact .inr (by simp [Function.update_of_ne hne.symm, hends])

end ListHead
