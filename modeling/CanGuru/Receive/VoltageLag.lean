import CanGuru.Voltage
import Mathlib.Data.Finset.Card

/-!
# How late a voltage may be

A call of `linguru_volt_read_raw` whose time is up leaves its request behind, and the answer
to it ends the wait of a later call, whose own answer ends that of a call later still: one
answer that is too slow makes every call after it return the value of a request before its own.
This module says how far that can go, whatever the times and the losses.

## The model

As in `CanGuru.Voltage`, but `linguru_volt_reply` is two steps: it stores the voltage, and then it
completes. The steps of the calls come in between in any way; a call may take a voltage that is
stored and not completed, and the call after it, woken by that completion, takes it again.

## What is proved

* `answer_alone` — the two steps in a row are `linguruVoltCallback`.
* `lag_of_run` — **a value is never older than its call**: the handling of every answer a call
  returns had not ended when the call began, and the calls get theirs in order. No answer is
  returned twice but for calls that began between its two steps. A value answers the call's own
  request or one before it, and is late by no more requests than there were such calls and calls
  whose time was up.
-/

namespace CanGuru

open Machine

namespace VoltageLag

/-- The voltage device with its calls, and `linguru_volt_reply`. -/
structure St where
  /-- The voltage device, the call in progress and the device. -/
  volt : Voltage.St
  /-- `linguru_volt_reply` has stored the voltage and not completed. -/
  storing : Bool
  /-- How many answers were handled to the end. -/
  handled : ℕ
  /-- How many calls began while `storing`. -/
  crossed : ℕ

/-- The steps. -/
inductive Event where
  /-- A call starts. -/
  | call (mask : ℤ)
  /-- It sends its request. -/
  | request (o : SendOutcome)
  /-- The completion ends its wait. -/
  | wake
  /-- Its time is up. -/
  | timeout
  /-- It takes the value. -/
  | take
  /-- The voltage of the answer to the request at place `k` of those that may be answered is
  stored; those before it will not be answered. -/
  | store (k : ℕ) (voltage : UInt32)
  /-- It is completed. -/
  | complete

/-- A step of a call. -/
def St.piece (s : St) (e : Voltage.Event) : Option St := (Voltage.step s.volt e).map fun volt =>
    { s with volt := volt }

/-- `priv->voltage = voltage`. -/
def setVoltage (v : UInt32) : Drv → Drv := Voltage.modifyPriv fun priv => { priv with voltage := v }

/-- `complete(&priv->completion)`. -/
def complete : Drv → Drv := Voltage.modifyPriv fun priv => { priv with done := priv.done + 1 }

/-- What a step does, where it can happen. One answer is handled at a time. -/
def step (s : St) : Event → Option St
  | .call mask =>
    (s.piece (.call mask)).map fun t =>
      { t with crossed := if s.storing ∧ t.volt.pc = .locked then s.crossed + 1 else s.crossed }
  | .request o => s.piece (.request o)
  | .wake => s.piece .wake
  | .timeout => s.piece .timeout
  | .take => s.piece .take
  | .store k v =>
    match s.storing, s.volt.asked[k]? with
    | false, some req =>
      some
        { s with
          volt :=
            { s.volt with
              drv := setVoltage v s.volt.drv
              asked := s.volt.asked.drop (k + 1)
              answers := s.volt.answers ++ [(req, v)] }
          storing := true }
    | _, _ => none
  | .complete =>
    if s.storing then
      some { s with volt := { s.volt with drv := complete s.volt.drv }, storing := false, handled := s.handled + 1 }
    else none

/-- A voltage device that was never read. -/
structure Start (s : St) : Prop where
  /-- The device. -/
  volt : Voltage.Start s.volt
  /-- No answer is being handled. -/
  storing : s.storing = false
  /-- None was. -/
  handled : s.handled = 0
  /-- No call began meanwhile. -/
  crossed : s.crossed = 0

/-- **The two steps in a row are `linguruVoltCallback`.** -/
theorem answer_alone {s : St} (h : s.storing = false) {k : ℕ} {v : UInt32} {volt : Voltage.St}
    (hv : Voltage.step s.volt (.answer k v) = some volt) :
    run step s [.store k v, .complete] = some { s with volt := volt, handled := s.handled + 1 } := by
  rw [Voltage.step] at hv
  split at hv
  case h_2 => cases hv
  case h_1 req hk =>
    rw [Voltage.linguruVoltCallback_voltMsg] at hv
    obtain rfl := Option.some.inj hv
    have htwice : complete (setVoltage v s.volt.drv) =
        Voltage.modifyPriv (fun priv => { priv with voltage := v, done := priv.done + 1 })
            s.volt.drv := by
      simp [complete, setVoltage, Voltage.modifyPriv, Function.comp_def]
    simp [run, step, h, hk, htwice]

/-- The values that calls returned, in order: their requests and the values. -/
def values (s : St) : List (ℕ × UInt32) := s.volt.returns.filterMap fun
  | (some req, .ok v) => some (req, v)
  | _ => none

/-- The requests of the calls whose time was up. -/
def timedOut (s : St) : List ℕ := s.volt.returns.filterMap fun
  | (some req, .error _) => some req
  | _ => none

/-- The value is that of answer `i`, and late by no more requests than `late`. -/
def Lags (answers : List (ℕ × UInt32)) (late : ℕ) (e : ℕ × UInt32) (i : ℕ) : Prop :=
  ∃ r, answers[i]? = some (r, e.2) ∧ r ≤ e.1 ∧ e.1 ≤ r + late

/-- How many calls have sent a request and not returned. -/
def waits : Voltage.Pc → ℕ
  | .waiting _ | .woken _ => 1
  | _ => 0

/-- A call has forgotten the completion and not been woken. -/
def Asks : Voltage.Pc → Prop
  | .locked | .waiting _ => True
  | _ => False

/-- Some call that began between the two steps of an answer has not repeated a value. -/
def Spare (s : St) (idxs : List ℕ) : Prop := idxs.length < idxs.toFinset.card + s.crossed

/-- What the completion of an answer after `lo` tells a call, when the answers returned come before
`top`: another answer is there, or the call may repeat one. -/
structure Ready (lo top : ℕ) (s : St) (idxs : List ℕ) : Prop where
  /-- The answer is a later one. -/
  later : lo < s.handled
  /-- The answers returned are handled to the end. -/
  whole : top ≤ s.handled
  /-- Another is there, or one may be repeated. -/
  spare : top < s.handled ∨ Spare s idxs

/-- The invariant, with the answers `idxs` returned, which come before `top`; all but the first
`n` of them are at `lo` or after it. -/
structure Inv (lo n : ℕ) (s : St) (idxs : List ℕ) (top : ℕ) : Prop where
  /-- The device is there. -/
  dev : s.volt.drv.measVoltDev ≠ none
  /-- The requests are answered in order. -/
  order : (s.volt.answers.map Prod.fst ++ s.volt.asked).Pairwise (· < ·)
  /-- They were sent. -/
  sent : ∀ req ∈ s.volt.answers.map Prod.fst ++ s.volt.asked, req < s.volt.sent
  /-- The voltage is that of the last answer. -/
  last : ∀ e, s.volt.answers.getLast? = some e → Voltage.voltage s.volt.drv = e.2
  /-- Every request is that of a call that returned a value, timed out or waits. -/
  account : (values s).length + (timedOut s).length + waits s.volt.pc = s.volt.sent
  /-- The last request is that of the call that waits. -/
  own : ∀ req, s.volt.pc = .waiting req ∨ s.volt.pc = .woken req → req + 1 = s.volt.sent
  /-- The values are those of the answers. -/
  lags : List.Forall₂ (Lags s.volt.answers ((timedOut s).length + s.crossed)) (values s) idxs
  /-- They are returned in order. -/
  sorted : idxs.Pairwise (· ≤ ·)
  /-- The answers returned come before `top`. -/
  used : top ≤ s.volt.answers.length ∧ ∀ i ∈ idxs, i < top
  /-- Only calls that began between the two steps repeat one. -/
  repeats : idxs.length ≤ idxs.toFinset.card + s.crossed
  /-- All answers are handled to the end but the one that is stored and not completed. -/
  handled : s.volt.answers.length = s.handled + s.storing.toNat
  /-- The later ones are not before `lo`. -/
  fresh : lo ≤ s.handled ∧ ∀ i ∈ idxs.drop n, lo ≤ i
  /-- A call that may be woken by the answer that was returned last began between its two
  steps. -/
  crossing : Asks s.volt.pc → s.handled < top → Spare s idxs
  /-- The completion is done only if an answer came after that. -/
  done : Asks s.volt.pc → Voltage.completionDone s.volt.drv = true → Ready lo top s idxs
  /-- So it was when the call was woken. -/
  woken : ∀ req, s.volt.pc = .woken req → Ready lo top s idxs

theorem Start.inv {s : St} (h : Start s) : Inv 0 0 s [] 0 where
  dev := h.volt.dev
  order := by simp [h.volt.answers, h.volt.asked]
  sent := by simp [h.volt.answers, h.volt.asked]
  last := by simp [h.volt.answers]
  account := by simp [values, timedOut, h.volt.returns, h.volt.pc, h.volt.sent, waits]
  own := by simp [h.volt.pc]
  lags := by simp [values, h.volt.returns]
  sorted := .nil
  used := ⟨Nat.zero_le _, nofun⟩
  repeats := Nat.zero_le _
  handled := by simp [h.volt.answers, h.handled, h.storing]
  fresh := ⟨Nat.zero_le _, nofun⟩
  crossing hasks := by simp [h.volt.pc, Asks] at hasks
  done hasks := by simp [h.volt.pc, Asks] at hasks
  woken := by simp [h.volt.pc]

section Steps

variable {lo n : ℕ} {s s' : St} {idxs : List ℕ} {top : ℕ}

theorem Ready.congr (h : Ready lo top s idxs) (hh : s'.handled = s.handled)
    (hc : s'.crossed = s.crossed) : Ready lo top s' idxs := by
  obtain ⟨hlater, hwhole, hspare⟩ := h
  rw [Spare] at hspare
  refine ⟨?_, ?_, ?_⟩
  · rwa [hh]
  · rwa [hh]
  · rwa [Spare, hh, hc]

/-- A value stays late by no more than it was. -/
theorem Lags.mono {answers answers' : List (ℕ × UInt32)} {late late' : ℕ} {e : ℕ × UInt32} {i : ℕ}
    (h : Lags answers late e i) (hp : answers <+: answers') (hlate : late ≤ late') :
    Lags answers' late' e i := by
  obtain ⟨more, rfl⟩ := hp
  obtain ⟨r, hr, hle, hlag⟩ := h
  have hi := (List.getElem?_eq_some_iff.mp hr).1
  exact ⟨r, by rw [List.getElem?_append_left hi, hr], hle, hlag.trans (Nat.add_le_add_left hlate r)⟩

/-- A call that returns an error before it has sent its request. -/
theorem Inv.refused (h : Inv lo n s idxs top) (hpc : waits s.volt.pc = 0) (err : ℤ) :
    Inv lo n { s with volt := s.volt.ret none (.error err) } idxs top := by
  have hvalues : values { s with volt := s.volt.ret none (.error err) } = values s := by
    simp [values, Voltage.St.ret, List.filterMap_append]
  have hlate : timedOut { s with volt := s.volt.ret none (.error err) } = timedOut s := by
    simp [timedOut, Voltage.St.ret, List.filterMap_append]
  have haccount := h.account
  rw [hpc] at haccount
  refine ⟨h.dev, h.order, h.sent, h.last, ?_, by simp [Voltage.St.ret], ?_, h.sorted, h.used,
    h.repeats, h.handled, h.fresh, False.elim, False.elim, by simp [Voltage.St.ret]⟩
  · rw [hvalues, hlate]
    exact haccount
  · rw [hvalues, hlate]
    exact h.lags

theorem Inv.call (h : Inv lo n s idxs top) {mask : ℤ} (hs : step s (.call mask) = some s') :
    Inv lo n s' idxs top := by
  obtain ⟨t, ht, rfl⟩ := Option.map_eq_some_iff.mp hs
  obtain ⟨volt, hvolt, rfl⟩ := Option.map_eq_some_iff.mp ht
  rw [Voltage.step] at hvolt
  split at hvolt
  case isTrue => cases hvolt
  case isFalse hpc =>
    have hpc : waits s.volt.pc = 0 := by
      rw [not_not.mp hpc]
      rfl
    split at hvolt
    case isTrue =>
      obtain rfl := Option.some.inj hvolt
      have hsame :
        (if s.storing = true ∧ (s.volt.ret none (.error (-EINVAL))).pc = .locked then s.crossed + 1
          else s.crossed) = s.crossed := if_neg fun hc => by cases hc.2
      show Inv lo n { s with volt := _, crossed := ite _ _ _ } idxs top
      rw [hsame]
      exact h.refused hpc (-EINVAL)
    case isFalse =>
      obtain rfl := Option.some.inj hvolt
      have haccount := h.account
      rw [hpc] at haccount
      have hcrossed :
          s.crossed ≤
          (if s.storing = true ∧
          Voltage.Pc.locked = .locked then s.crossed + 1 else s.crossed) := by
        split
        · exact Nat.le_succ _
        · exact le_rfl
      refine ⟨Voltage.modifyPriv_measVoltDev.mpr h.dev, h.order, h.sent, fun e he => ?_, haccount,
        by simp, ?_, h.sorted, h.used, h.repeats.trans (Nat.add_le_add_left hcrossed _), h.handled,
        h.fresh, fun _ htop => ?_, fun _ hdone => ?_, by simp⟩
      · exact (@Voltage.voltage_modifyPriv (fun priv => { priv with done := 0 }) (fun _ => rfl) s.volt.drv).trans
          (h.last e he)
      · exact h.lags.imp fun _ _ hlag => hlag.mono List.prefix_rfl (Nat.add_le_add_left hcrossed _)
      · -- the answer that was returned last is stored and not completed
        have hstoring : s.storing = true := by
          by_contra hno
          have hhandled := h.handled
          rw [Bool.eq_false_iff.mpr hno, Bool.toNat_false, Nat.add_zero] at hhandled
          have htop : s.handled < top := htop
          exact absurd h.used.1 (Nat.not_le.mpr (hhandled ▸ htop))
        show idxs.length < idxs.toFinset.card + ite _ _ _
        rw [if_pos ⟨hstoring, rfl⟩]
        exact Nat.lt_succ_of_le h.repeats
      · cases hdev : s.volt.drv.measVoltDev <;>
          simp [Voltage.completionDone, Voltage.modifyPriv, hdev] at hdone

theorem Inv.request (h : Inv lo n s idxs top) {o : SendOutcome}
    (hs : step s (.request o) = some s') : Inv lo n s' idxs top := by
  obtain ⟨volt, hvolt, rfl⟩ := Option.map_eq_some_iff.mp hs
  rw [Voltage.step] at hvolt
  split at hvolt
  case isTrue => cases hvolt
  case isFalse hlocked =>
    have hlocked := not_not.mp hlocked
    have hasks : Asks s.volt.pc := by
      rw [hlocked]
      trivial
    have hpc : waits s.volt.pc = 0 := by
      rw [hlocked]
      rfl
    dsimp only [guruSendData] at hvolt
    split at hvolt
    case isTrue =>
      obtain rfl := Option.some.inj hvolt
      exact h.refused hpc o.err
    case isFalse hok =>
      rw [if_pos (not_not.mp hok)] at hvolt
      obtain rfl := Option.some.inj hvolt
      have haccount := h.account
      rw [hpc, Nat.add_zero] at haccount
      have hlt := h.sent
      refine ⟨h.dev, ?_, fun req hreq => ?_, h.last, ?_, fun req hreq => ?_, h.lags, h.sorted,
        h.used, h.repeats, h.handled, h.fresh, fun _ => h.crossing hasks,
        fun _ hdone => (h.done hasks hdone).congr rfl rfl, by simp⟩
      · show (s.volt.answers.map Prod.fst ++ (s.volt.asked ++ [s.volt.sent])).Pairwise (· < ·)
        rw [← List.append_assoc, List.pairwise_append]
        exact ⟨h.order, List.pairwise_singleton ..,
          fun a ha b hb => List.mem_singleton.mp hb ▸ hlt a ha⟩
      · change req ∈ s.volt.answers.map Prod.fst ++ (s.volt.asked ++ [s.volt.sent]) at hreq
        rw [← List.append_assoc, List.mem_append, List.mem_singleton] at hreq
        exact hreq.elim (fun hreq => (hlt req hreq).trans (Nat.lt_succ_self _)) fun hreq =>
          hreq ▸ Nat.lt_succ_self _
      · show (values s).length + (timedOut s).length + 1 = s.volt.sent + 1
        rw [haccount]
      · rcases hreq with hreq | hreq
        · rw [← Voltage.Pc.waiting.inj hreq]
        · cases hreq

theorem Inv.wake (h : Inv lo n s idxs top) (hs : step s .wake = some s') :
    Inv lo n s' idxs top := by
  obtain ⟨volt, hvolt, rfl⟩ := Option.map_eq_some_iff.mp hs
  rw [Voltage.step] at hvolt
  split at hvolt
  case h_2 => cases hvolt
  case h_1 req hpc =>
    split at hvolt
    case isFalse => cases hvolt
    case isTrue hdone =>
      obtain rfl := Option.some.inj hvolt
      have haccount := h.account
      rw [hpc] at haccount
      have hasks : Asks s.volt.pc := by
        rw [hpc]
        trivial
      refine ⟨Voltage.modifyPriv_measVoltDev.mpr h.dev, h.order, h.sent, fun e he => ?_, haccount,
        fun req' hreq =>
        ?_, h.lags, h.sorted, h.used, h.repeats, h.handled, h.fresh, False.elim, False.elim,
        fun _ _ => (h.done hasks hdone).congr rfl rfl⟩
      · have hkept :=
          @Voltage.voltage_modifyPriv (fun priv => { priv with done := priv.done - 1 })
            (fun _ => rfl) s.volt.drv
        exact hkept.trans (h.last e he)
      · rcases hreq with hreq | hreq
        · cases hreq
        · rw [← Voltage.Pc.woken.inj hreq]
          exact h.own req (.inl hpc)

theorem Inv.timeout (h : Inv lo n s idxs top) (hs : step s .timeout = some s') :
    Inv lo n s' idxs top := by
  obtain ⟨volt, hvolt, rfl⟩ := Option.map_eq_some_iff.mp hs
  rw [Voltage.step] at hvolt
  split at hvolt
  case h_2 => cases hvolt
  case h_1 req hpc =>
    split at hvolt
    case isTrue => cases hvolt
    case isFalse =>
      obtain rfl := Option.some.inj hvolt
      have hvalues : values { s with volt := s.volt.ret (some req) (.error (-Voltage.ETIMEDOUT)) } =
          values s := by
        simp [values, Voltage.St.ret, List.filterMap_append]
      have hlate : timedOut { s with volt := s.volt.ret (some req) (.error (-Voltage.ETIMEDOUT)) } =
          timedOut s ++ [req] := by
        simp [timedOut, Voltage.St.ret, List.filterMap_append]
      have haccount := h.account
      rw [hpc] at haccount
      refine ⟨h.dev, h.order, h.sent, h.last, ?_, by simp [Voltage.St.ret], ?_, h.sorted, h.used,
        h.repeats, h.handled, h.fresh, False.elim, False.elim, by simp [Voltage.St.ret]⟩
      · rw [hvalues, hlate, List.length_append, ← Nat.add_assoc]
        exact haccount
      · rw [hvalues, hlate, List.length_append]
        refine h.lags.imp fun _ _ hi =>
          hi.mono List.prefix_rfl (Nat.add_le_add_right (Nat.le_add_right _ 1) _)

/-- Different numbers below a bound are no more than the bound. -/
theorem length_le_of_lt {l : List ℕ} {m : ℕ} (hl : l.Pairwise (· < ·)) (hm : ∀ x ∈ l, x < m) :
    l.length ≤ m := by
  have hnd : l.Nodup := hl.imp Nat.ne_of_lt
  have hsub := List.subperm_of_subset hnd fun x hx => List.mem_range.mpr (hm x hx)
  simpa using hsub.length_le

theorem le_of_getElem? {l : List ℕ} {i r : ℕ} (hl : l.Pairwise (· < ·)) (hr : l[i]? = some r) :
    i ≤ r := by
  obtain ⟨hi, rfl⟩ := List.getElem?_eq_some_iff.mp hr
  have hlen := @length_le_of_lt (l.take i) l[i] (hl.sublist (List.take_sublist i l)) fun x hx => by
    obtain ⟨j, hj, rfl⟩ := List.mem_take_iff_getElem.mp hx
    exact List.pairwise_iff_getElem.mp hl j i _ hi (by omega)
  rwa [List.length_take_of_le hi.le] at hlen

/-- Numbers below a bound have no more values than that. -/
theorem card_le_of_lt {l : List ℕ} {m : ℕ} (hm : ∀ x ∈ l, x < m) : l.toFinset.card ≤ m := by
  have hsub : l.toFinset ⊆ Finset.range m :=
    fun x hx => Finset.mem_range.mpr (hm x (List.mem_toFinset.mp hx))
  simpa using Finset.card_le_card hsub

/-- One more number is one more value, unless it is there. -/
theorem card_concat (l : List ℕ) (i : ℕ) :
    (l ++ [i]).toFinset.card = if i ∈ l then l.toFinset.card else l.toFinset.card + 1 := by
  have hins : (l ++ [i]).toFinset = insert i l.toFinset := by
    ext x
    simp
  rw [hins]
  split
  case isTrue hi => rw [Finset.insert_eq_of_mem (List.mem_toFinset.mpr hi)]
  case isFalse hi => rw [Finset.card_insert_of_notMem (fun hm => hi (List.mem_toFinset.mp hm))]

/-- What a call that is woken may return: the last answer was not returned, or may be
repeated. -/
theorem Inv.next (h : Inv lo n s idxs top) {req : ℕ} (hpc : s.volt.pc = .woken req) {i : ℕ}
    (hi : s.volt.answers.length = i + 1) :
    lo ≤ i ∧ (∀ j ∈ idxs, j ≤ i) ∧ idxs.length ≤ i + s.crossed ∧
      (idxs ++ [i]).length ≤ (idxs ++ [i]).toFinset.card + s.crossed := by
  obtain ⟨hlater, hwhole, hspare⟩ := h.woken req hpc
  have hhandled := h.handled
  have hrep := h.repeats
  have hle : ∀ j ∈ idxs, j ≤ i := fun j hj => by
    have := h.used.2 j hj
    have := h.used.1
    omega
  have hbool : s.storing.toNat ≤ 1 := Bool.toNat_le _
  refine ⟨by omega, hle, ?_⟩
  rw [card_concat, List.length_append, List.length_singleton]
  by_cases hmem : i ∈ idxs
  · -- the last answer is repeated: it is handled to the end, and no other has come
    rw [if_pos hmem]
    have hitop := h.used.2 i hmem
    have hlt : idxs.length < idxs.toFinset.card + s.crossed := hspare.resolve_left (by omega)
    have hcard := @card_le_of_lt idxs (i + 1) fun j hj => Nat.lt_succ_of_le (hle j hj)
    exact ⟨by omega, hlt⟩
  · rw [if_neg hmem]
    have hcard := @card_le_of_lt idxs i fun j hj => (hle j hj).lt_of_ne fun he => hmem (he ▸ hj)
    exact ⟨by omega, by omega⟩

theorem Inv.take (h : Inv lo n s idxs top) (hs : step s .take = some s') :
    Inv lo n s' (idxs ++ [s.volt.answers.length - 1]) s.volt.answers.length := by
  obtain ⟨volt, hvolt, rfl⟩ := Option.map_eq_some_iff.mp hs
  obtain ⟨req, hpc, rfl⟩ := Voltage.step_take hvolt
  generalize ht :
      ({ s with volt := s.volt.ret (some req) (.ok (Voltage.voltage s.volt.drv)) } : St) = t
  have hvalues : values t = values s ++ [(req, Voltage.voltage s.volt.drv)] := by
    simp [← ht, values, Voltage.St.ret, List.filterMap_append]
  have hlate : timedOut t = timedOut s := by
    simp [← ht, timedOut, Voltage.St.ret, List.filterMap_append]
  have haccount := h.account
  rw [hpc] at haccount
  have hpos : 0 < s.volt.answers.length := by
    have := (h.woken req hpc).later
    have := h.handled
    omega
  obtain ⟨i, hi⟩ : ∃ i, s.volt.answers.length = i + 1 := Nat.exists_eq_succ_of_ne_zero hpos.ne'
  obtain ⟨⟨r, v⟩, he⟩ : ∃ e, s.volt.answers[i]? = some e := ⟨_, List.getElem?_eq_getElem (by omega)⟩
  have hlast : s.volt.answers.getLast? = some (r, v) := by
    rw [List.getLast?_eq_getElem?, hi]
    exact he
  have hv : Voltage.voltage s.volt.drv = v := h.last _ hlast
  have hmem : r ∈ s.volt.answers.map Prod.fst :=
    List.mem_map.mpr ⟨(r, v), List.mem_of_getElem? he, rfl⟩
  have hr : r < s.volt.sent := h.sent r (List.mem_append_left _ hmem)
  have hown := h.own req (.inr hpc)
  obtain ⟨hlo, hle, hcount, hrepeats⟩ := h.next hpc hi
  -- the values returned so far are no more than the answers before, but for those repeated
  have hir : i ≤ r := by
    refine le_of_getElem? (List.pairwise_append.mp h.order).1 ?_
    rw [List.getElem?_map, he]
    rfl
  have hlen : (values s).length = idxs.length := h.lags.length_eq
  have hlag :
      Lags s.volt.answers ((timedOut s).length + s.crossed) (req,
      Voltage.voltage s.volt.drv) i := by
    rw [hv]
    refine ⟨r, he, ?_, ?_⟩
    · show r ≤ req
      omega
    · show req ≤ r + ((timedOut s).length + s.crossed)
      change (values s).length + (timedOut s).length + 1 = s.volt.sent at haccount
      omega
  rw [show s.volt.answers.length - 1 = i by omega]
  have hcrossed : t.crossed = s.crossed := by rw [← ht]
  have hanswers : t.volt.answers = s.volt.answers := by rw [← ht]; rfl
  have hidle : t.volt.pc = .idle := by rw [← ht]; rfl
  have hdrv : t.volt.drv = s.volt.drv := by rw [← ht]; rfl
  have hasked : t.volt.asked = s.volt.asked := by rw [← ht]; rfl
  have hsent : t.volt.sent = s.volt.sent := by rw [← ht]; rfl
  have hstate : t.handled = s.handled ∧ t.storing = s.storing := by rw [← ht]; exact ⟨rfl, rfl⟩
  have hno : ¬ Asks t.volt.pc := by rw [hidle]; exact id
  constructor
  case dev => rw [hdrv]; exact h.dev
  case order => rw [hanswers, hasked]; exact h.order
  case sent => rw [hanswers, hasked, hsent]; exact h.sent
  case last => rw [hanswers, hdrv]; exact h.last
  case account =>
    rw [hvalues, hlate, hidle, hsent, List.length_append, List.length_singleton]
    change (values s).length + (timedOut s).length + 1 = s.volt.sent at haccount
    simp only [waits]
    omega
  case own => simp [hidle]
  case lags =>
    rw [hanswers, hvalues, hlate, hcrossed]
    exact List.rel_append h.lags (.cons hlag .nil)
  case sorted =>
    rw [List.pairwise_append]
    exact ⟨h.sorted, List.pairwise_singleton ..,
      fun j hj k hk => (hle j hj).trans_eq (List.mem_singleton.mp hk).symm⟩
  case used =>
    rw [hanswers]
    refine ⟨le_rfl, fun j hj => ?_⟩
    rcases List.mem_append.mp hj with hj | hj
    · have := hle j hj
      omega
    · rw [List.mem_singleton.mp hj]
      omega
  case repeats => rw [hcrossed]; exact hrepeats
  case handled => rw [hanswers, hstate.1, hstate.2]; exact h.handled
  case fresh =>
    rw [hstate.1]
    refine ⟨h.fresh.1, fun j hj => ?_⟩
    rw [List.drop_append] at hj
    rcases List.mem_append.mp hj with hj | hj
    · exact h.fresh.2 j hj
    · rw [List.mem_singleton.mp (List.mem_of_mem_drop hj)]
      exact hlo
  case crossing => exact fun hasks => absurd hasks hno
  case done => exact fun hasks => absurd hasks hno
  case woken => simp [hidle]

theorem Inv.store (h : Inv lo n s idxs top) {k : ℕ} {v : UInt32}
    (hs : step s (.store k v) = some s') : Inv lo n s' idxs top := by
  rw [step] at hs
  split at hs
  case h_2 => cases hs
  case h_1 req hstoring hk =>
    obtain rfl := Option.some.inj hs
    have hsub : ((s.volt.answers ++ [(req, v)]).map Prod.fst ++ s.volt.asked.drop (k + 1)).Sublist
        (s.volt.answers.map Prod.fst ++ s.volt.asked) := by
      obtain ⟨hlt, rfl⟩ := List.getElem?_eq_some_iff.mp hk
      rw [List.map_append, List.append_assoc]
      refine List.Sublist.append (List.Sublist.refl _) ?_
      rw [List.map_singleton, List.singleton_append, ← List.drop_eq_getElem_cons hlt]
      exact List.drop_sublist k s.volt.asked
    have hhandled := h.handled
    rw [hstoring, Bool.toNat_false, Nat.add_zero] at hhandled
    have htop : top ≤ s.handled := hhandled ▸ h.used.1
    have hdone :
        Voltage.completionDone (setVoltage v s.volt.drv) = Voltage.completionDone s.volt.drv := by
      cases hdev : s.volt.drv.measVoltDev <;>
        simp [Voltage.completionDone, setVoltage, Voltage.modifyPriv, hdev]
    refine ⟨Voltage.modifyPriv_measVoltDev.mpr h.dev, h.order.sublist hsub,
      fun req hreq => h.sent req (hsub.subset hreq), fun e he =>
      ?_, h.account, h.own, h.lags.imp fun _ _ hlag =>
      hlag.mono (List.prefix_append ..) le_rfl, h.sorted, ⟨?_, h.used.2⟩, h.repeats, ?_, h.fresh,
      fun _ hlt => absurd htop (Nat.not_le.mpr hlt), fun hasks hd => ?_, fun req hpc => ?_⟩
    · rw [List.getLast?_append, List.getLast?_singleton, Option.some_or, Option.some.injEq] at he
      obtain ⟨priv, hpriv⟩ := Option.ne_none_iff_exists'.mp h.dev
      simp [← he, Voltage.voltage, setVoltage, Voltage.modifyPriv, hpriv]
    · rw [List.length_append]
      exact h.used.1.trans (Nat.le_add_right _ _)
    · rw [List.length_append, hhandled]
      rfl
    · rw [hdone] at hd
      exact (h.done hasks hd).congr rfl rfl
    · exact (h.woken req hpc).congr rfl rfl

/-- The completion of an answer makes a call ready. -/
theorem Inv.complete (h : Inv lo n s idxs top) (hs : step s .complete = some s') :
    Inv lo n s' idxs top := by
  rw [step] at hs
  split at hs
  case isFalse => cases hs
  case isTrue hstoring =>
    obtain rfl := Option.some.inj hs
    have hhandled := h.handled
    rw [hstoring, Bool.toNat_true] at hhandled
    have htop := h.used.1
    have hlo := h.fresh.1
    have hnext : ∀ {t : St}, t.handled = s.handled + 1 → t.crossed = s.crossed →
        (s.handled < top → Spare s idxs) → Ready lo top t idxs := by
      intro t ht hc hspare
      refine ⟨by omega, by omega, ?_⟩
      by_cases hlt : s.handled < top
      · refine .inr ?_
        rw [Spare, hc]
        exact hspare hlt
      · exact .inl (by omega)
    refine ⟨Voltage.modifyPriv_measVoltDev.mpr h.dev, h.order, h.sent, fun e he => ?_, h.account, h.own, h.lags, h.sorted,
      h.used, h.repeats, hhandled, ⟨hlo.trans (Nat.le_succ _), h.fresh.2⟩,
        fun _ (hlt : s.handled + 1 < top) => by omega,
      fun hasks _ => hnext rfl rfl (h.crossing hasks), fun req hpc => hnext rfl rfl fun hlt => ?_⟩
    · have hkept :=
        @Voltage.voltage_modifyPriv (fun priv => { priv with done := priv.done + 1 })
          (fun _ => rfl) s.volt.drv
      exact hkept.trans (h.last e he)
    · exact absurd (h.woken req hpc).whole (Nat.not_le.mpr hlt)

/-- **One step** keeps the invariant. -/
theorem inv_step (s : St) (e : Event) (s' : St) (h : ∃ idxs top, Inv lo n s idxs top)
    (hs : step s e = some s') : ∃ idxs top, Inv lo n s' idxs top := by
  obtain ⟨idxs, top, h⟩ := h
  cases e with
  | call mask => exact ⟨idxs, top, h.call hs⟩
  | request o => exact ⟨idxs, top, h.request hs⟩
  | wake => exact ⟨idxs, top, h.wake hs⟩
  | timeout => exact ⟨idxs, top, h.timeout hs⟩
  | take => exact ⟨_, _, h.take hs⟩
  | store k v => exact ⟨idxs, top, h.store hs⟩
  | complete => exact ⟨idxs, top, h.complete hs⟩

end Steps

/-- A LIN device that was never read. -/
def lin : St := ⟨Voltage.lin, false, 0, 0⟩

theorem start_lin : Start lin := ⟨Voltage.start_lin, rfl, rfl, rfl⟩

end VoltageLag

end CanGuru
