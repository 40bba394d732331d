import CanGuru.Lib.Machine
import CanGuru.Lib.ListWalk
import CanGuru.Driver

/-!
# Messages that come in while handlers are registered

`guru_dev_init` submits the receive URBs before the first handler is registered. From then
on a message may be dispatched while the init function of the device goes on calling
`guru_add_msg`: `list_for_each_entry_safe` walks `msg_list` while `list_add_tail` appends to
it, and no lock keeps them apart. Everywhere else the list of handlers is taken for a list
and a dispatch for one step; this module says why that may be.

## The model

The pointers of `msg_list` and of the node of every handler. The registration makes one
store at a time, and the dispatch loads one pointer at a time, or runs the body of its loop
for one handler; they may be mixed in any order. Stores and loads take effect in the order
of the program. The transfers of one endpoint complete one after the other, so there is one
dispatch at a time. The callbacks and what they work on are parameters.

## What is proved

* `linearized_of_run` — **a dispatch is one step**: in every run, what a dispatch did is what
  `canguru_process_msg_list` does with the handlers that were registered at one moment
  between its beginning and its end. A message whose handlers were registered when it came
  is not missed, and no pointer that holds nothing usable is followed.
* `registration_ends` — neither keeps the other from coming to its end.
-/

namespace CanGuru

open Machine ListHead

namespace Registration

variable {κ σ : Type}

/-- The nodes of `msg_list`. -/
inductive MsgNode where
  /-- The head of the list. -/
  | listHead
  /-- The node of handler `i`. -/
  | handler (i : ℕ)
  deriving DecidableEq

/-- The nodes of the first `n` handlers. -/
def nodes (n : ℕ) : List MsgNode := (List.range n).map .handler

/-- A dispatch that is in progress. -/
structure Work (σ : Type) where
  /-- The message. -/
  msg : GuruData
  /-- Where its walk is. -/
  walk : Walk MsgNode
  /-- What the callbacks worked on when it began. -/
  before : σ
  /-- How many handlers were registered then. -/
  first : ℕ

/-- A dispatch that is over. -/
structure Dispatch (σ : Type) where
  /-- The message. -/
  msg : GuruData
  /-- What the callbacks worked on when it began. -/
  before : σ
  /-- And when it ended. -/
  after : σ
  /-- How many handlers were registered when it began. -/
  first : ℕ
  /-- And when it ended. -/
  last : ℕ

/-- The device while its handlers are registered. -/
structure St (σ : Type) where
  /-- The pointers. -/
  links : Links MsgNode
  /-- Where the call of `list_add_tail` stands. -/
  adding : AddPc MsgNode
  /-- How many handlers are registered. -/
  added : ℕ
  /-- The current-message fields. -/
  curr : CurrMsg
  /-- What the callbacks work on. -/
  dev : σ
  /-- The dispatch in progress. -/
  work : Option (Work σ)
  /-- The dispatches that are over. -/
  finished : List (Dispatch σ)

/-- The steps. -/
inductive Event where
  /-- `guru_add_msg` is called for the next handler, and makes its first store. -/
  | add
  /-- It makes its next store. -/
  | store
  /-- A message is received, and its dispatch loads `msg_list.next`. -/
  | recv (msg : GuruData)
  /-- The dispatch loads the pointer of its node. -/
  | load
  /-- It runs the body of its loop, and goes on to the node it has loaded. -/
  | body
  /-- It is at the head again, and clears the fields. -/
  | finish

/-- The event is not a message that comes in. -/
def Event.Busy : Event → Prop
  | .recv _ => False
  | _ => True

section Steps

variable (call : κ → CurrMsg → σ → σ) (items : List (GuruMsg κ))

/-- What a step does, where it can happen. -/
def step (s : St σ) : Event → Option (St σ)
  | .add =>
    if s.adding = .idle ∧ s.added < items.length then
      let started := addStart (.handler s.added) .listHead s.links
      some { s with adding := started.1, links := started.2 }
    else none
  | .store =>
    if s.adding = .idle then none
    else
      let stored := addStore .listHead s.links s.adding
      some
        { s with
          adding := stored.1
          links := stored.2
          added := if stored.1 = .idle then s.added + 1 else s.added }
  | .recv msg =>
    match s.work with
    | some _ => none
    | none =>
      (Walk.begin .listHead s.links).map fun walk =>
        { s with
          curr := .ofMsg msg
          work := some { msg := msg, walk := walk, before := s.dev, first := s.added } }
  | .load =>
    match s.work with
    | none => none
    | some work => (work.walk.fetch s.links).map fun walk =>
      { s with work := some { work with walk := walk } }
  | .body =>
    match s.work with
    | none => none
    | some work =>
      match work.walk.item .listHead with
      | some (.handler i) =>
        items[i]?.map fun item =>
          { s with
            dev := (processMsg call work.msg ⟨[], s.curr, s.dev⟩ item).dev
            work := some { work with walk := work.walk.visit } }
      | _ => none
  | .finish =>
    match s.work with
    | none => none
    | some work =>
      if work.walk.done .listHead then
        some
          { s with
            curr := .none
            work := none
            finished := s.finished ++ [⟨work.msg, work.before, s.dev, work.first, s.added⟩] }
      else none

/-- A device whose list was initialised. -/
structure Start (s : St σ) : Prop where
  /-- The list is empty. -/
  links : Holds s.links .listHead []
  /-- No handler is registered. -/
  fresh : s.adding = .idle ∧ s.added = 0
  /-- No message was received. -/
  unused : s.curr = .none ∧ s.work = none ∧ s.finished = []

/-- **A dispatch is one step.** -/
structure Linearized (d : Dispatch σ) : Prop where
  /-- It did what `canguru_process_msg_list` does with the handlers that were registered at one
  moment. -/
  moment : ∃ n, d.first ≤ n ∧ n ≤ d.last ∧
    d.after = (canguruProcessMsgList call ⟨items.take n, .none, d.before⟩ d.msg).dev
  /-- If the handlers of the message were registered when it began, it did what it does with
  all. -/
  known : handlersOf (items.drop d.first) d.msg = [] →
    d.after = (canguruProcessMsgList call ⟨items, .none, d.before⟩ d.msg).dev
  /-- If none of them was when it ended, it did nothing. -/
  unknown : handlersOf (items.take d.last) d.msg = [] → d.after = d.before

/-- **The list is a list**, and the dispatches are steps. -/
structure Consistent (s : St σ) : Prop where
  /-- Between two calls of `guru_add_msg` the list is that of the handlers registered. -/
  list : s.adding = .idle → Holds s.links .listHead (nodes s.added)
  /-- No pointer that holds nothing usable was followed. -/
  sound : s.links.oops = false
  /-- The dispatches that are over. -/
  finished : ∀ d ∈ s.finished, Linearized call items d

/-! ### The invariant -/

/-- What a dispatch has done with the handlers it has visited. -/
def doneWith (n : ℕ) (msg : GuruData) (before : σ) : σ :=
  (handlersOf (items.take n) msg).foldl (fun s k => call k (CurrMsg.ofMsg msg) s) before

/-- The invariant. -/
structure Inv (s : St σ) : Prop where
  /-- The list is that of the handlers registered. -/
  growing : Growing .listHead (nodes s.added) s.links s.adding
  /-- There are no more. -/
  added_le : s.added ≤ items.length
  /-- The next one is being registered. -/
  adding : ∀ n, s.adding.adds = some n → n = .handler s.added ∧ s.added < items.length
  /-- The dispatch in progress. -/
  work : ∀ work, s.work = some work → s.curr = .ofMsg work.msg ∧ work.first ≤ s.added ∧
    work.walk.Inv .listHead (nodes work.first) (nodes s.added) ∧
    ∃ n ≤ s.added, work.walk.visited = nodes n ∧ s.dev = doneWith call items n work.msg work.before
  /-- The dispatches that are over. -/
  finished : ∀ d ∈ s.finished, ∃ n, d.first ≤ n ∧ n ≤ d.last ∧
    d.after = doneWith call items n d.msg d.before

end Steps

/-! ### Nodes -/

theorem listHead_not_mem (n : ℕ) : MsgNode.listHead ∉ nodes n := by
  simp [nodes]

theorem nodes_succ (n : ℕ) : nodes (n + 1) = nodes n ++ [.handler n] := by
  rw [nodes, List.range_succ, List.map_append, nodes, List.map_singleton]

theorem length_nodes (n : ℕ) : (nodes n).length = n := by
  rw [nodes, List.length_map, List.length_range]

theorem nodes_initial {n m : ℕ} (h : n ≤ m) : nodes n <+: nodes m := by
  induction m, h using Nat.le_induction with
  | base => exact List.prefix_rfl
  | succ m _ ih => exact ih.trans (nodes_succ m ▸ List.prefix_append ..)

/-- A prefix of the list is the list of the first handlers. -/
theorem eq_nodes_of_prefix {l : List MsgNode} {m : ℕ} (h : l <+: nodes m) :
    ∃ n ≤ m, l = nodes n := by
  refine ⟨l.length, length_nodes m ▸ h.length_le, ?_⟩
  have htake := List.prefix_iff_eq_take.mp h
  rw [nodes, ← List.map_take, List.take_range, min_eq_left (length_nodes m ▸ h.length_le)] at htake
  exact htake

/-- The node behind the first `n` handlers is that of the next. -/
theorem eq_handler_of_prefix {x : MsgNode} {n m : ℕ} (h : nodes n ++ [x] <+: nodes m) :
    x = .handler n ∧ n < m := by
  obtain ⟨n', hn', he⟩ := eq_nodes_of_prefix h
  have hlen : n + 1 = n' := by
    have := congrArg List.length he
    rwa [List.length_append, length_nodes, length_nodes] at this
  subst hlen
  rw [nodes_succ] at he
  exact ⟨List.singleton_inj.mp (List.append_cancel_left he), hn'⟩

/-! ### What a dispatch does -/

section Done

variable {call : κ → CurrMsg → σ → σ} {items : List (GuruMsg κ)}

theorem handlersOf_append (items items' : List (GuruMsg κ)) (msg : GuruData) :
    handlersOf (items ++ items') msg = handlersOf items msg ++ handlersOf items' msg := by
  simp only [handlersOf, List.filter_append, List.filterMap_append]

theorem doneWith_eq (n : ℕ) (msg : GuruData) (before : σ) :
    doneWith call items n msg before =
      (canguruProcessMsgList call ⟨items.take n, .none, before⟩ msg).dev := by
  rw [processMsgList_eq]
  rfl

/-- The body of the loop for the next handler. -/
theorem doneWith_succ {n : ℕ} {item : GuruMsg κ} (hi : items[n]? = some item) (msg : GuruData)
    (before : σ) : doneWith call items (n + 1) msg before =
      (processMsg call msg ⟨[], .ofMsg msg, doneWith call items n msg before⟩ item).dev := by
  have htake : items.take (n + 1) = items.take n ++ [item] := by
    rw [List.take_add_one, hi]
    rfl
  rw [doneWith, htake, handlersOf_append, List.foldl_append, processMsg_eq]
  rfl

/-- A dispatch that saw the list at one moment is one step. -/
theorem linearized_of_doneWith {d : Dispatch σ} {n : ℕ} (hfirst : d.first ≤ n) (hlast : n ≤ d.last)
    (hafter : d.after = doneWith call items n d.msg d.before) : Linearized call items d where
  moment := ⟨n, hfirst, hlast, hafter.trans (doneWith_eq ..)⟩
  known := by
    intro hnone
    have hsplit : handlersOf (items.drop d.first) d.msg =
        handlersOf ((items.drop d.first).take (n - d.first)) d.msg ++
            handlersOf (items.drop n) d.msg := by
      have hdrop : (items.drop d.first).drop (n - d.first) = items.drop n := by
        rw [List.drop_drop, Nat.add_sub_cancel' hfirst]
      rw [← handlersOf_append, ← hdrop, List.take_append_drop]
    rw [hnone] at hsplit
    have hrest : handlersOf (items.drop n) d.msg = [] := (List.append_eq_nil_iff.mp hsplit.symm).2
    have hall : handlersOf (items.take n) d.msg = handlersOf items d.msg := by
      rw [← List.append_nil (handlersOf (items.take n) d.msg), ← hrest, ← handlersOf_append,
        List.take_append_drop]
    rw [hafter, doneWith, hall, processMsgList_eq]
  unknown := by
    intro hnone
    have hsplit : handlersOf (items.take d.last) d.msg =
        handlersOf (items.take n) d.msg ++ handlersOf ((items.take d.last).drop n) d.msg := by
      have htake : (items.take d.last).take n = items.take n := by
        rw [List.take_take, min_eq_left hlast]
      rw [← handlersOf_append, ← htake, List.take_append_drop]
    rw [hnone] at hsplit
    have hnone' : handlersOf (items.take n) d.msg = [] := (List.append_eq_nil_iff.mp hsplit.symm).1
    rw [hafter, doneWith, hnone', List.foldl_nil]

end Done

/-! ### The steps -/

section Invariant

variable {call : κ → CurrMsg → σ → σ} {items : List (GuruMsg κ)} {s s' : St σ}

theorem Start.inv (h : Start s) : Inv call items s where
  growing := by
    rw [h.fresh.1, h.fresh.2]
    exact h.links
  added_le := h.fresh.2 ▸ Nat.zero_le _
  adding := by
    intro n hn
    rw [h.fresh.1] at hn
    cases hn
  work := by
    intro work hwork
    rw [h.unused.2.1] at hwork
    cases hwork
  finished := by
    intro d hd
    rw [h.unused.2.2] at hd
    cases hd

/-- **The invariant gives the property.** -/
theorem Inv.consistent (h : Inv call items s) : Consistent call items s where
  list := by
    intro hidle
    have hg := h.growing
    rwa [hidle] at hg
  sound := h.growing.sound
  finished := by
    intro d hd
    obtain ⟨n, hfirst, hlast, hafter⟩ := h.finished d hd
    exact linearized_of_doneWith hfirst hlast hafter

theorem Inv.add (h : Inv call items s) (hs : step call items s .add = some s') :
    Inv call items s' := by
  rw [step] at hs
  split at hs
  case isFalse => cases hs
  case isTrue hguard =>
    obtain ⟨hidle, hlt⟩ := hguard
    have hl : Holds s.links .listHead (nodes s.added) := h.consistent.list hidle
    have hn : MsgNode.handler s.added ∉ MsgNode.listHead :: nodes s.added := by simp [nodes]
    obtain rfl := Option.some.inj hs
    refine { h with growing := (Growing.start hl hn).2, adding := fun n hadds => ?_ }
    exact ⟨Option.some.inj (hadds.symm.trans (addStart_adds hl _).1), hlt⟩

/-- The registration goes on, and the handler is in the list from the last store on. -/
theorem Inv.store (h : Inv call items s) (hs : step call items s .store = some s') :
    Inv call items s' := by
  rw [step] at hs
  split at hs
  case isTrue => cases hs
  case isFalse hne =>
    obtain rfl := Option.some.inj hs
    rcases @addStore_cases _ _ .listHead s.links s.adding hne with ⟨n, p, hpc⟩ | ⟨hgoes,
      hadds, -, -⟩
    · have hg := h.growing
      rw [hpc] at hg
      obtain ⟨rfl, hlt⟩ := h.adding n (by rw [hpc]; rfl)
      have hlast := hg.step_last
      rw [← nodes_succ] at hlast
      simp only [hpc]
      refine
        { h with
          growing := hlast
          added_le := hlt
          adding := fun n hn => by cases hn
          work := fun work hwork => ?_ }
      obtain ⟨hcurr, hfirst, hwalk, n, hn, hvisited, hdev⟩ := h.work work hwork
      refine ⟨hcurr, Nat.le_succ_of_le hfirst, ?_, n, Nat.le_succ_of_le hn, hvisited, hdev⟩
      rw [if_pos (show (addStore .listHead s.links (.nodePrev (.handler s.added) p)).1 = .idle from rfl), nodes_succ]
      exact hwalk.grow _
    · simp only [if_neg hgoes]
      exact
        { h with
          growing := h.growing.step hgoes
          adding := fun n hn => h.adding n (hadds ▸ hn) }

theorem Inv.recv (h : Inv call items s) {msg : GuruData}
    (hs : step call items s (.recv msg) = some s') : Inv call items s' := by
  rw [step] at hs
  split at hs
  case h_1 => cases hs
  case h_2 =>
    obtain ⟨walk, hbegin, hvisited, hwalk⟩ := Walk.Inv.begin h.growing
    rw [hbegin, Option.map_some, Option.some.injEq] at hs
    subst hs
    refine { h with work := fun work hwork => ?_ }
    obtain rfl := Option.some.inj hwork
    exact ⟨rfl, le_rfl, hwalk, 0, Nat.zero_le _, hvisited, rfl⟩

theorem Inv.load (h : Inv call items s) (hs : step call items s .load = some s') :
    Inv call items s' := by
  rw [step] at hs
  split at hs
  case h_1 => cases hs
  case h_2 work hwork =>
    obtain ⟨walk, hfetch, hs⟩ := Option.map_eq_some_iff.mp hs
    subst hs
    obtain ⟨hcurr, hfirst, hwalk, n, hn, hvisited, hdev⟩ := h.work work hwork
    obtain ⟨x, hx⟩ := Walk.loaded_of_fetch hfetch
    obtain ⟨w', hw', hvisited', hwalk'⟩ := hwalk.fetch h.growing (nodes_initial hfirst) hx
    obtain rfl := Option.some.inj (hfetch.symm.trans hw')
    refine { h with work := fun work' hwork' => ?_ }
    obtain rfl := Option.some.inj hwork'
    exact ⟨hcurr, hfirst, hwalk', n, hn, hvisited'.trans hvisited, hdev⟩

theorem Inv.body (h : Inv call items s) (hs : step call items s .body = some s') :
    Inv call items s' := by
  rw [step] at hs
  split at hs
  case h_1 => cases hs
  case h_2 work hwork =>
    split at hs
    case h_2 => cases hs
    case h_1 i hi =>
      obtain ⟨item, hitem, hs⟩ := Option.map_eq_some_iff.mp hs
      subst hs
      obtain ⟨hcurr, hfirst, hwalk, n, hn, hvisited, hdev⟩ := h.work work hwork
      obtain ⟨hvisit, hprefix, hwalk'⟩ := hwalk.visit hi
      rw [hvisit, hvisited] at hprefix
      obtain ⟨hx, hlt⟩ := eq_handler_of_prefix hprefix
      obtain rfl := MsgNode.handler.inj hx
      refine { h with work := fun work' hwork' => ?_ }
      obtain rfl := Option.some.inj hwork'
      refine ⟨hcurr, hfirst, hwalk', i + 1, hlt, ?_, ?_⟩
      · rw [hvisit, hvisited, nodes_succ]
      · rw [doneWith_succ hitem, ← hdev, ← hcurr]

theorem Inv.finish (h : Inv call items s) (hs : step call items s .finish = some s') :
    Inv call items s' := by
  rw [step] at hs
  split at hs
  case h_1 => cases hs
  case h_2 work hwork =>
    split at hs
    case isFalse => cases hs
    case isTrue hdone =>
      obtain rfl := Option.some.inj hs
      obtain ⟨-, hfirst, hwalk, n, hn, hvisited, hdev⟩ := h.work work hwork
      obtain ⟨hbegan, -⟩ := hwalk.done (listHead_not_mem _) hdone
      refine { h with work := fun work' hwork' => (by cases hwork'), finished := fun d hd => ?_ }
      rcases List.mem_append.mp hd with hd | hd
      · exact h.finished d hd
      · obtain rfl := List.mem_singleton.mp hd
        refine ⟨n, ?_, hn, hdev⟩
        have hlen := hbegan.length_le
        rwa [hvisited, length_nodes, length_nodes] at hlen

/-- **One step** keeps the invariant. -/
theorem inv_step (s : St σ) (e : Event) (s' : St σ) (h : Inv call items s)
    (hs : step call items s e = some s') : Inv call items s' := by
  cases e with
  | add => exact h.add hs
  | store => exact h.store hs
  | recv msg => exact h.recv hs
  | load => exact h.load hs
  | body => exact h.body hs
  | finish => exact h.finish hs

/-- **A dispatch is one step**, in every run. -/
theorem linearized_of_run {t : St σ} (h : Start s) {es : List Event}
    (hr : run (step call items) s es = some t) : Consistent call items t :=
  (inv_of_run inv_step h.inv hr).consistent

/-! ### Coming to the end -/

/-- How many steps the registration and the dispatch can still take. -/
def rest (items : List (GuruMsg κ)) (s : St σ) : ℕ :=
  4 * (items.length - s.added) - s.adding.stores +
    match s.work with
    | none => 0
    | some work => 2 * (items.length - work.walk.visited.length) + work.walk.left

/-- A step other than a message that comes in leaves less to do. -/
theorem rest_lt (s : St σ) (e : Event) (s' : St σ) (h : Inv call items s) (he : e.Busy)
    (hs : step call items s e = some s') : rest items s' < rest items s := by
  have hle := h.added_le
  cases e with
  | add =>
    rw [step] at hs
    split at hs
    case isFalse => cases hs
    case isTrue hguard =>
      obtain ⟨hidle, hlt⟩ := hguard
      have hl : Holds s.links .listHead (nodes s.added) := h.consistent.list hidle
      have hstores := (addStart_adds hl (.handler s.added)).2
      rw [Option.some.injEq] at hs
      subst hs
      simp only [rest]
      rw [hstores, hidle, AddPc.stores]
      omega
  | store =>
    rw [step] at hs
    split at hs
    case isTrue => cases hs
    case isFalse hne =>
      obtain rfl := Option.some.inj hs
      have hlt : s.added < items.length := by
        cases hpc : s.adding with
        | idle => exact absurd hpc hne
        | headPrev n p | nodeNext n p | nodePrev n p => exact (h.adding n (by rw [hpc]; rfl)).2
      rcases @addStore_cases _ _ .listHead s.links s.adding hne with ⟨n, p, hpc⟩ | ⟨hgoes, -,
        hstores, hlt3⟩
      · have hstored :
            addStore .listHead s.links (.nodePrev n p) = (.idle, s.links.setNext p (some n)) := rfl
        simp only [rest, hpc, hstored, if_true, AddPc.stores]
        omega
      · simp only [rest, if_neg hgoes, hstores]
        omega
  | recv msg => exact he.elim
  | load =>
    rw [step] at hs
    split at hs
    case h_1 => cases hs
    case h_2 work hwork =>
      obtain ⟨walk, hfetch, rfl⟩ := Option.map_eq_some_iff.mp hs
      obtain ⟨-, hfirst, hwalk, -⟩ := h.work work hwork
      obtain ⟨x, hx⟩ := Walk.loaded_of_fetch hfetch
      obtain ⟨w', hw', hvisited, -⟩ := hwalk.fetch h.growing (nodes_initial hfirst) hx
      obtain rfl := Option.some.inj (hfetch.symm.trans hw')
      obtain ⟨hleft, hleft'⟩ := Walk.left_of_fetch hfetch
      simp only [rest, hwork, hvisited, hleft, hleft']
      omega
  | body =>
    rw [step] at hs
    split at hs
    case h_1 => cases hs
    case h_2 work hwork =>
      split at hs
      case h_2 => cases hs
      case h_1 i hi =>
        obtain ⟨item, -, rfl⟩ := Option.map_eq_some_iff.mp hs
        obtain ⟨-, -, hwalk, -⟩ := h.work work hwork
        obtain ⟨hvisit, hprefix, -⟩ := hwalk.visit hi
        obtain ⟨hleft, hleft'⟩ := Walk.left_of_item hi
        have hlen := hprefix.length_le
        rw [length_nodes] at hlen
        simp only [hvisit, List.length_append, List.length_singleton] at hlen
        simp only [rest, hwork, hvisit, hleft, hleft', List.length_append, List.length_singleton]
        omega
  | finish =>
    rw [step] at hs
    split at hs
    case h_1 => cases hs
    case h_2 work hwork =>
      split at hs
      case isFalse => cases hs
      case isTrue hdone =>
        obtain rfl := Option.some.inj hs
        have hleft : 0 < work.walk.left := by
          rw [Walk.left]
          split <;> decide
        simp only [rest, hwork]
        omega

/-- Where neither can take a step, both are at their end. -/
theorem Inv.ended (h : Inv call items s) (hstuck : ∀ e, Event.Busy e → step call items s e = none) :
    s.added = items.length ∧ s.work = none ∧ Holds s.links .listHead (nodes items.length) := by
  have hidle : s.adding = .idle := by
    by_contra hne
    have hstore := hstuck .store trivial
    rw [step, if_neg hne] at hstore
    cases hstore
  have hadded : s.added = items.length := by
    by_contra hne
    have hadd := hstuck .add trivial
    rw [step, if_pos ⟨hidle, lt_of_le_of_ne h.added_le hne⟩] at hadd
    cases hadd
  have hlist := h.consistent.list hidle
  rw [hadded] at hlist
  refine ⟨hadded, ?_, hlist⟩
  by_contra hne
  obtain ⟨work, hwork⟩ := Option.ne_none_iff_exists'.mp hne
  obtain ⟨-, hfirst, hwalk, -⟩ := h.work work hwork
  rcases work.walk.cases .listHead with ⟨x, hx⟩ | ⟨x, hx⟩ | hdone
  · obtain ⟨w', hw', -, -⟩ := hwalk.fetch h.growing (nodes_initial hfirst) hx
    have hload := hstuck .load trivial
    simp only [step, hwork, hw'] at hload
    cases hload
  · obtain ⟨-, hprefix, -⟩ := hwalk.visit hx
    have hmem : x ∈ nodes s.added := by
      obtain ⟨hvisit, -, -⟩ := hwalk.visit hx
      exact hprefix.subset (hvisit ▸ List.mem_append_right _ List.mem_cons_self)
    obtain ⟨i, hi, rfl⟩ := List.mem_map.mp hmem
    have hlt : i < items.length := hadded ▸ List.mem_range.mp hi
    have hbody := hstuck .body trivial
    simp only [step, hwork, hx, List.getElem?_eq_getElem hlt] at hbody
    cases hbody
  · have hfinish := hstuck .finish trivial
    simp only [step, hwork, hdone] at hfinish
    cases hfinish

/-- **Neither keeps the other from coming to its end.** From every state of every run, if no
further message comes in, only so many steps can be taken, and after them all handlers are
registered and no dispatch is in progress. -/
theorem registration_ends {t : St σ} (h : Start s) {es : List Event}
    (hr : run (step call items) s es = some t) :
    (∀ es' u, run (step call items) t es' = some u → (∀ e ∈ es', Event.Busy e) →
      es'.length ≤ rest items t) ∧
      (∃ es' u, run (step call items) t es' = some u ∧ (∀ e ∈ es', Event.Busy e) ∧
        ∀ e, Event.Busy e → step call items u e = none) ∧
      ∀ es' u, run (step call items) t es' = some u →
        (∀ e, Event.Busy e → step call items u e = none) →
        u.added = items.length ∧ u.work = none ∧ Holds u.links .listHead (nodes items.length) := by
  have ht : Inv call items t := inv_of_run inv_step h.inv hr
  have hbusy : ∀ s e s', Inv call items s → Event.Busy e → step call items s e = some s' →
      Inv call items s' :=
    fun s e s' hi _ => inv_step s e s' hi
  refine ⟨fun es' u hru hes => ?_, exists_run_stuck hbusy rest_lt ht, fun es' u hru hstuck => ?_⟩
  · exact (Nat.le_add_right _ _).trans (run_length_le hbusy rest_lt ht hes hru)
  · have hu : Inv call items u := inv_of_run inv_step ht hru
    exact hu.ended hstuck

end Invariant

/-! ### A CAN Guru -/

/-- The device after `INIT_LIST_HEAD`. -/
def initial : St Drv where
  links := initListHead fresh .listHead
  adding := .idle
  added := 0
  curr := .none
  dev := DeviceKind.canguru.ready.dev
  work := none
  finished := []

theorem start_initial : Start initial where
  links := holds_init _
  fresh := ⟨rfl, rfl⟩
  unused := ⟨rfl, rfl, rfl⟩

/-- The answer to `guru_get_fw_ver` comes in while its handler is being registered. -/
def early : List Event :=
  [.add, .store, .recv (.fill GURU_MSG_GET_VERSION [0x31]), .store, .store, .load, .finish,
    .recv (.fill GURU_MSG_GET_VERSION [0x32]), .load, .add, .body, .store, .load, .finish]

/-- The first answer is missed, and the second is not. -/
theorem linearized_early :
    ∃ t, run (step (runCallback true) DeviceKind.canguru.msgList) initial early = some t ∧
    Consistent (runCallback true) DeviceKind.canguru.msgList t := by
  obtain ⟨t, ht⟩ : ∃ t, run (step (runCallback true) DeviceKind.canguru.msgList) initial early =
      some t := ⟨_, rfl⟩
  exact ⟨t, ht, linearized_of_run start_initial ht⟩

/-- After the two answers all handlers can be registered. -/
theorem ends_early :
    ∃ t u es, run (step (runCallback true) DeviceKind.canguru.msgList) initial early = some t ∧
    run (step (runCallback true) DeviceKind.canguru.msgList) t es = some u ∧ u.added = 9 := by
  obtain ⟨t, ht⟩ : ∃ t, run (step (runCallback true) DeviceKind.canguru.msgList) initial early =
      some t := ⟨_, rfl⟩
  obtain ⟨-, ⟨es, u, hu, -, hstuck⟩, hend⟩ := registration_ends start_initial ht
  exact ⟨t, u, es, ht, hu, (hend es u hu hstuck).1⟩

end Registration

end CanGuru
