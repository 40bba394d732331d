import CanGuru.Lib.ListHead

/-!
# Walking a list while it grows

`list_add_tail` is a load and four stores, and `list_for_each_entry_safe` loads a pointer at
a time, one node ahead of the node it is at. Nothing keeps the two apart. This module cuts
both into pieces that may be mixed in any order, with one call of `list_add_tail` at a time
and any number of walks.

## What is proved

`Growing h xs pc l` says that `xs` is the list of head `h` while a call of `list_add_tail`
stands at `pc`, and `Walk.Inv h began xs w` where a walk is that began when the list was
`began`.

* `Growing.start`, `Growing.step`, `Growing.step_last` — the four stores are a call of
  `list_add_tail`, and the node is in the list from the last of them on.
* `Growing.next` — in between, the walks see the list as it was.
* `Walk.Inv.begin`, `Walk.Inv.fetch`, `Walk.Inv.visit`, `Walk.Inv.grow` — what a walk keeps.
* `Walk.Inv.done` — **a walk visits the list as it was at one moment**: a prefix of the list
  as it is at the end which has all that was in it at the beginning.
-/

namespace ListHead

universe u

variable {ν : Type u}

/-! ### Adding in pieces -/

/-- Where a call of `list_add_tail(n, h)` stands that has read `p = h->prev`. -/
inductive AddPc (ν : Type u) where
  /-- No call is in progress. -/
  | idle
  /-- `h->prev = n` is stored. -/
  | headPrev (n p : ν)
  /-- `n->next = h` is stored. -/
  | nodeNext (n p : ν)
  /-- `n->prev = p` is stored. -/
  | nodePrev (n p : ν)
  deriving DecidableEq

/-- The node a call adds. -/
def AddPc.adds : AddPc ν → Option ν
  | .idle => none
  | .headPrev n _ => some n
  | .nodeNext n _ => some n
  | .nodePrev n _ => some n

/-- How many stores of a call were made. -/
def AddPc.stores : AddPc ν → ℕ
  | .idle => 0
  | .headPrev .. => 1
  | .nodeNext .. => 2
  | .nodePrev .. => 3

section Add

variable [DecidableEq ν]

/-- The call starts: it reads `h->prev` and makes its first store. -/
def addStart (n h : ν) (l : Links ν) : AddPc ν × Links ν :=
  match l.prev h with
  | none => (.idle, { l with oops := true })
  | some p => (.headPrev n p, l.setPrev h (some n))

/-- The next store of the call. -/
def addStore (h : ν) (l : Links ν) : AddPc ν → AddPc ν × Links ν
  | .idle => (.idle, l)
  | .headPrev n p => (.nodeNext n p, l.setNext n (some h))
  | .nodeNext n p => (.nodePrev n p, l.setPrev n (some p))
  | .nodePrev n p => (.idle, l.setNext p (some n))

/-- **The list of head `h` is `xs`** while a call of `list_add_tail` stands where it does. -/
def Growing (h : ν) (xs : List ν) (l : Links ν) : AddPc ν → Prop
  | .idle => Holds l h xs
  | .headPrev n p =>
    n ∉ h :: xs ∧ ∃ l₀, Holds l₀ h xs ∧ l₀.prev h = some p ∧ l = l₀.setPrev h (some n)
  | .nodeNext n p => n ∉ h :: xs ∧ ∃ l₀, Holds l₀ h xs ∧ l₀.prev h = some p ∧
      l = (l₀.setPrev h (some n)).setNext n (some h)
  | .nodePrev n p => n ∉ h :: xs ∧ ∃ l₀, Holds l₀ h xs ∧ l₀.prev h = some p ∧
      l = ((l₀.setPrev h (some n)).setNext n (some h)).setPrev n (some p)

variable {h n : ν} {xs as bs : List ν} {l : Links ν} {pc : AddPc ν}

omit [DecidableEq ν] in
theorem Holds.prev_head (hl : Holds l h xs) : ∃ p, l.prev h = some p := by
  obtain ⟨ys, p, hp⟩ : ∃ ys p, h :: xs = ys ++ [p] :=
    ⟨_, _, (List.dropLast_append_getLast (List.cons_ne_nil h xs)).symm⟩
  have hc := hl.chain
  rw [hp, List.append_assoc, List.singleton_append, chain_append] at hc
  exact ⟨p, hc.2.2.1⟩

omit [DecidableEq ν] in
/-- A node points at the one behind it, and the last one at the head. -/
theorem Holds.next (hl : Holds l h xs) {a : ν} (he : h :: xs = as ++ a :: bs) :
    l.next a = some (bs.headD h) := by
  have hc := hl.chain
  rw [he, List.append_assoc, List.cons_append, chain_append] at hc
  cases bs with
  | nil => exact hc.2.1
  | cons b bs => exact hc.2.1

theorem Growing.start (hl : Holds l h xs) (hn : n ∉ h :: xs) :
    (addStart n h l).1 ≠ .idle ∧ Growing h xs (addStart n h l).2 (addStart n h l).1 := by
  obtain ⟨p, hp⟩ := hl.prev_head
  have hstart : addStart n h l = (.headPrev n p, l.setPrev h (some n)) := by rw [addStart, hp]
  rw [hstart]
  refine ⟨?_, hn, l, hl, hp, rfl⟩
  simp

theorem addStart_adds (hl : Holds l h xs) (n : ν) :
    (addStart n h l).1.adds = some n ∧ (addStart n h l).1.stores = 1 := by
  obtain ⟨p, hp⟩ := hl.prev_head
  rw [addStart, hp]
  exact ⟨rfl, rfl⟩

/-- A store is the last one, or the call goes on with its node. -/
theorem addStore_cases (hpc : pc ≠ .idle) :
    (∃ n p, pc = .nodePrev n p) ∨ (addStore h l pc).1 ≠ .idle ∧ (addStore h l pc).1.adds = pc.adds ∧
      (addStore h l pc).1.stores = pc.stores + 1 ∧ pc.stores < 3 := by
  cases pc with
  | idle => exact absurd rfl hpc
  | headPrev n p => exact .inr ⟨by simp [addStore], rfl, rfl, by simp [AddPc.stores]⟩
  | nodeNext n p => exact .inr ⟨by simp [addStore], rfl, rfl, by simp [AddPc.stores]⟩
  | nodePrev n p => exact .inl ⟨n, p, rfl⟩

/-- A store that is not the last one leaves the list as it is. -/
theorem Growing.step (hg : Growing h xs l pc) (hpc : (addStore h l pc).1 ≠ .idle) :
    Growing h xs (addStore h l pc).2 (addStore h l pc).1 := by
  cases pc with
  | idle => exact absurd rfl hpc
  | headPrev n p =>
    obtain ⟨hn, l₀, hl, hp, rfl⟩ := hg
    exact ⟨hn, l₀, hl, hp, rfl⟩
  | nodeNext n p =>
    obtain ⟨hn, l₀, hl, hp, rfl⟩ := hg
    exact ⟨hn, l₀, hl, hp, rfl⟩
  | nodePrev n p => exact absurd rfl hpc

/-- **The last store** appends the node. -/
theorem Growing.step_last {p : ν} (hg : Growing h xs l (.nodePrev n p)) :
    Growing h (xs ++ [n]) (addStore h l (.nodePrev n p)).2 .idle := by
  obtain ⟨hn, l₀, hl, hp, rfl⟩ := hg
  have hadd :
    (addStore h (((l₀.setPrev h (some n)).setNext n (some h)).setPrev n (some p)) (.nodePrev n p)).2 =
      listAddTail l₀ n h := by
    rw [listAddTail, hp]
    rfl
  rw [hadd]
  exact hl.listAddTail hn

/-- **The walks see the list** at any time. -/
theorem Growing.next (hg : Growing h xs l pc) {a : ν} (he : h :: xs = as ++ a :: bs) :
    l.next a = some (bs.headD h) := by
  have ha : a ∈ h :: xs := he ▸ List.mem_append_right _ List.mem_cons_self
  cases pc with
  | idle => exact Holds.next hg he
  | headPrev n p =>
    obtain ⟨-, l₀, hl, -, rfl⟩ := hg
    exact hl.next he
  | nodeNext n p =>
    obtain ⟨hn, l₀, hl, -, rfl⟩ := hg
    exact (Function.update_of_ne (ne_of_mem_of_not_mem ha hn) ..).trans (hl.next he)
  | nodePrev n p =>
    obtain ⟨hn, l₀, hl, -, rfl⟩ := hg
    exact (Function.update_of_ne (ne_of_mem_of_not_mem ha hn) ..).trans (hl.next he)

theorem Growing.sound (hg : Growing h xs l pc) : l.oops = false := by
  cases pc with
  | idle => exact Holds.sound hg
  | headPrev n p | nodeNext n p | nodePrev n p =>
    obtain ⟨-, l₀, hl, -, rfl⟩ := hg
    exact hl.sound

end Add

/-! ### Walking in pieces -/

/-- Where a walk stands. -/
inductive WalkPc (ν : Type u) where
  /-- `item` is loaded. -/
  | loaded (item : ν)
  /-- `next` is loaded, too. -/
  | ready (item next : ν)

/-- A walk, and the nodes whose turn of the loop was made. -/
structure Walk (ν : Type u) where
  /-- Where it stands. -/
  pc : WalkPc ν
  /-- The nodes visited. -/
  visited : List ν

namespace Walk

/-- `item = h->next`. -/
def begin (h : ν) (l : Links ν) : Option (Walk ν) := (l.next h).map fun x => ⟨.loaded x, []⟩

/-- `next = item->next`. -/
def fetch (l : Links ν) (w : Walk ν) : Option (Walk ν) :=
  match w.pc with
  | .loaded x => (l.next x).map fun y => ⟨.ready x y, w.visited⟩
  | .ready .. => none

/-- How many pieces are left of the turn of the loop. -/
def left (w : Walk ν) : ℕ :=
  match w.pc with
  | .loaded _ => 2
  | .ready .. => 1

variable [DecidableEq ν]

/-- The node whose turn it is, if the walk is not at the head again. -/
def item (h : ν) (w : Walk ν) : Option ν :=
  match w.pc with
  | .loaded _ => none
  | .ready x _ => if x = h then none else some x

/-- The walk goes on from the node: `item = next`. -/
def visit (w : Walk ν) : Walk ν :=
  match w.pc with
  | .loaded _ => w
  | .ready x y => ⟨.loaded y, w.visited ++ [x]⟩

/-- The walk is over. -/
def done (h : ν) (w : Walk ν) : Bool :=
  match w.pc with
  | .loaded _ => false
  | .ready x _ => x = h

omit [DecidableEq ν] in
/-- **Where a walk is** that began when the list was `began`, when the list is `xs`. At the
head again it has visited what the list was when it loaded the head. -/
def Inv (h : ν) (began xs : List ν) (w : Walk ν) : Prop :=
  match w.pc with
  | .loaded x => x = h ∧ began <+: w.visited ∧ w.visited <+: xs ∨ ∃ bs, xs = w.visited ++ x :: bs
  | .ready x y => x = h ∧ began <+: w.visited ∧ w.visited <+: xs ∨
      ∃ bs, xs = w.visited ++ x :: bs ∧ (y = h ∧ began <+: w.visited ++ [x] ∨ ∃ bs', bs = y :: bs')

variable {h : ν} {began xs : List ν} {l : Links ν} {pc : AddPc ν} {w w' : Walk ν}

omit [DecidableEq ν] in
theorem Inv.grow (hw : w.Inv h began xs) (ys : List ν) : w.Inv h began (xs ++ ys) := by
  obtain ⟨wpc, visited⟩ := w
  cases wpc with
  | loaded x =>
    rcases hw with ⟨hx, hbegan, hvisited⟩ | ⟨bs, rfl⟩
    · exact .inl ⟨hx, hbegan, hvisited.trans (List.prefix_append ..)⟩
    · exact .inr ⟨bs ++ ys, by simp⟩
  | ready x y =>
    rcases hw with ⟨hx, hbegan, hvisited⟩ | ⟨bs, rfl, hy⟩
    · exact .inl ⟨hx, hbegan, hvisited.trans (List.prefix_append ..)⟩
    · refine .inr ⟨bs ++ ys, by simp, hy.imp_right ?_⟩
      rintro ⟨bs', rfl⟩
      exact ⟨bs' ++ ys, rfl⟩

theorem Inv.begin (hg : Growing h xs l pc) : ∃ w, Walk.begin h l = some w ∧ w.visited = [] ∧
    w.Inv h xs xs := by
  have hnext : l.next h = some (xs.headD h) := @Growing.next _ _ h xs [] xs l pc hg h rfl
  refine ⟨⟨.loaded (xs.headD h), []⟩, by rw [Walk.begin, hnext]; rfl, rfl, ?_⟩
  cases xs with
  | nil => exact .inl ⟨rfl, List.prefix_rfl, List.prefix_rfl⟩
  | cons x xs => exact .inr ⟨xs, rfl⟩

omit [DecidableEq ν] in
theorem fetch_eq {x y : ν} (hnext : l.next x = some y) (visited : List ν) :
    Walk.fetch l ⟨.loaded x, visited⟩ = some ⟨.ready x y, visited⟩ := by
  show (l.next x).map (fun y => (⟨.ready x y, visited⟩ : Walk ν)) = _
  rw [hnext, Option.map_some]

omit [DecidableEq ν] in
theorem loaded_of_fetch (hf : w.fetch l = some w') : ∃ x, w.pc = .loaded x := by
  obtain ⟨wpc, visited⟩ := w
  cases wpc with
  | loaded x => exact ⟨x, rfl⟩
  | ready x y => cases hf

omit [DecidableEq ν] in
/-- A load is one of the two pieces of a turn. -/
theorem left_of_fetch (hf : w.fetch l = some w') : w.left = 2 ∧ w'.left = 1 := by
  obtain ⟨wpc, visited⟩ := w
  cases wpc with
  | loaded x =>
    obtain ⟨y, -, rfl⟩ := Option.map_eq_some_iff.mp hf
    exact ⟨rfl, rfl⟩
  | ready x y => cases hf

theorem left_of_item {x : ν} (hx : w.item h = some x) : w.left = 1 ∧ w.visit.left = 2 := by
  obtain ⟨wpc, visited⟩ := w
  cases wpc with
  | loaded _ => cases hx
  | ready x y => exact ⟨rfl, rfl⟩

theorem Inv.fetch (hg : Growing h xs l pc) (hbegan : began <+: xs) (hw : w.Inv h began xs) {x : ν}
    (hx : w.pc = .loaded x) : ∃ w', w.fetch l = some w' ∧ w'.visited = w.visited ∧
    w'.Inv h began xs := by
  obtain ⟨wpc, visited⟩ := w
  obtain rfl : wpc = .loaded x := hx
  rcases hw with ⟨rfl, hb, hv⟩ | ⟨bs, hxs⟩
  · have hnext : l.next x = some (xs.headD x) := @Growing.next _ _ x xs [] xs l pc hg x rfl
    exact ⟨_, fetch_eq hnext visited, rfl, .inl ⟨rfl, hb, hv⟩⟩
  · have hcons : h :: xs = (h :: visited) ++ x :: bs := congrArg (h :: ·) hxs
    refine ⟨_, fetch_eq (hg.next hcons) visited, rfl, .inr ⟨bs, hxs, ?_⟩⟩
    cases bs with
    | nil => exact .inl ⟨rfl, hxs ▸ hbegan⟩
    | cons b bs => exact .inr ⟨bs, rfl⟩

/-- A walk visits the node that is next in the list. -/
theorem Inv.visit (hw : w.Inv h began xs) {x : ν} (hx : w.item h = some x) :
    w.visit.visited = w.visited ++ [x] ∧ w.visit.visited <+: xs ∧ w.visit.Inv h began xs := by
  obtain ⟨wpc, visited⟩ := w
  cases wpc with
  | loaded _ => cases hx
  | ready x' y =>
    rw [item] at hx
    dsimp only at hx
    split_ifs at hx with hne
    obtain rfl := Option.some.inj hx
    obtain ⟨bs, rfl, hy⟩ := hw.resolve_left fun hhead => hne hhead.1
    have hprefix : visited ++ [x'] <+: visited ++ x' :: bs := ⟨bs, by simp⟩
    refine ⟨rfl, hprefix, ?_⟩
    rcases hy with ⟨rfl, hb⟩ | ⟨bs', rfl⟩
    · exact .inl ⟨rfl, hb, hprefix⟩
    · exact .inr ⟨bs', by simp [Walk.visit]⟩

/-- **A walk that is over has visited the list as it was at one moment.** -/
theorem Inv.done (hh : h ∉ xs) (hw : w.Inv h began xs) (hd : w.done h = true) :
    began <+: w.visited ∧ w.visited <+: xs := by
  obtain ⟨wpc, visited⟩ := w
  cases wpc with
  | loaded _ => cases hd
  | ready x y =>
    obtain rfl : x = h := of_decide_eq_true hd
    rcases hw with ⟨-, hbegan, hvisited⟩ | ⟨bs, rfl, -⟩
    · exact ⟨hbegan, hvisited⟩
    · exact absurd (List.mem_append_right _ List.mem_cons_self) hh

/-- A walk stands before a load, at a node, or at its end. -/
theorem cases (h : ν) (w : Walk ν) : (∃ x, w.pc = .loaded x) ∨ (∃ x, w.item h = some x) ∨
    w.done h = true := by
  obtain ⟨wpc, visited⟩ := w
  cases wpc with
  | loaded x => exact .inl ⟨x, rfl⟩
  | ready x y =>
    by_cases hx : x = h
    · exact .inr (.inr (decide_eq_true hx))
    · exact .inr (.inl ⟨x, if_neg hx⟩)

end Walk

end ListHead
