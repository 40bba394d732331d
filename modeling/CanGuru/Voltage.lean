import CanGuru.Lib.Machine
import CanGuru.Driver

/-!
# The voltage of a LIN device

`linguru-voltage.c`: a read of the voltage sends a request and waits for its answer, for
a while. Requests and answers carry no number; an answer ends the wait of whatever call
is waiting. `reinit_completion` at the start of a call forgets the answers that came
before it, and nothing forgets those to earlier requests that come after it.

## The model

Calls of `linguru_volt_read_raw` hold a mutex, so there is one at a time. A call runs in
pieces (`Pc`): it is locked and the completion is forgotten, it sends the request, it is
woken or its time is up, it takes the value. The device answers each request at most
once and in the order of the requests, at any time. A wait ends without an answer only
if the completion is not done.

## What is proved

`own_iff` — a run goes only through states in which every value that was returned is the
answer to the request of its own call exactly when no call that was woken takes the
value before the answer to its own request is handled.
-/

namespace CanGuru

open Machine Packed

namespace Voltage

/-- `ETIMEDOUT`. -/
def ETIMEDOUT : ℤ := 110

/-- `IIO_CHAN_INFO_RAW`. -/
def IIO_CHAN_INFO_RAW : ℤ := 0

/-- Where a call of `linguru_volt_read_raw` stands. -/
inductive Pc where
  /-- No call is in progress. -/
  | idle
  /-- The mutex is locked and the completion is forgotten. -/
  | locked
  /-- Request `req` is sent. -/
  | waiting (req : ℕ)
  /-- The wait was ended by the completion. -/
  | woken (req : ℕ)
  deriving DecidableEq

/-- The voltage device, the call in progress and the device. -/
structure St where
  /-- What the handlers work on. -/
  drv : Drv
  /-- Where the call stands. -/
  pc : Pc
  /-- How many requests were sent: they are numbered from `0`. -/
  sent : ℕ
  /-- The requests that may still be answered, in order. -/
  asked : List ℕ
  /-- The answers that were handled: the request and the voltage. -/
  answers : List (ℕ × UInt32)
  /-- What the calls returned: the request if one was sent, and an error or the value
  that comes with `IIO_VAL_INT`. -/
  returns : List (Option ℕ × Except ℤ UInt32)

/-- The steps. -/
inductive Event where
  /-- A call starts. -/
  | call (mask : ℤ)
  /-- It sends its request. -/
  | request (o : SendOutcome)
  /-- The completion ends its wait. -/
  | wake
  /-- Its time is up. -/
  | timeout
  /-- It takes the value. -/
  | take
  /-- The answer to the request at place `k` of those that may be answered is handled;
  those before it will not be. -/
  | answer (k : ℕ) (voltage : UInt32)

/-- The answer to a request. -/
def voltMsg (voltage : UInt32) : GuruData := .fill LIN_MSG_VOLT_GET (toLE 4 voltage.toNat)

/-- A change of the voltage device. -/
def modifyPriv (f : LinguruVoltagePriv → LinguruVoltagePriv) (s : Drv) : Drv :=
  { s with measVoltDev := s.measVoltDev.map f }

/-- `complete_done`, the test a wait ends on. -/
def completionDone (s : Drv) : Bool :=
  (s.measVoltDev.map fun priv => decide (priv.done ≠ 0)).getD false

/-- The value a call takes. -/
def voltage (s : Drv) : UInt32 := (s.measVoltDev.map LinguruVoltagePriv.voltage).getD 0

/-- A call returns. -/
def St.ret (req : Option ℕ) (r : Except ℤ UInt32) (s : St) : St :=
  { s with pc := .idle, returns := s.returns ++ [(req, r)] }

/-- What a step does, where it can happen. -/
def step (s : St) : Event → Option St
  | .call mask =>
    if s.pc ≠ .idle then none
    else if mask ≠ IIO_CHAN_INFO_RAW then some (s.ret none (.error (-EINVAL)))
    else some { s with pc := .locked, drv := modifyPriv (fun priv => { priv with done := 0 }) s.drv }
  | .request o =>
    if s.pc ≠ .locked then none
    else
      let (err, out) := guruSendData o LIN_MSG_VOLT_GET []
      if err ≠ 0 then some (s.ret none (.error err))
      else some { s with pc := .waiting s.sent, sent := s.sent + 1, asked := s.asked ++ out.map fun _ => s.sent }
  | .wake =>
    match s.pc with
    | .waiting req =>
      if completionDone s.drv then
        some { s with pc := .woken req, drv := modifyPriv (fun priv => { priv with done := priv.done - 1 }) s.drv }
      else none
    | _ => none
  | .timeout =>
    match s.pc with
    | .waiting req =>
      if completionDone s.drv then none else some (s.ret (some req) (.error (-ETIMEDOUT)))
    | _ => none
  | .take =>
    match s.pc with
    | .woken req => some (s.ret (some req) (.ok (voltage s.drv)))
    | _ => none
  | .answer k v =>
    match s.asked[k]? with
    | some req =>
      some
        { s with
          drv := linguruVoltCallback (CurrMsg.ofMsg (voltMsg v)) s.drv
          asked := s.asked.drop (k + 1)
          answers := s.answers ++ [(req, v)] }
    | none => none

/-- A voltage device that was never read. -/
structure Start (s : St) : Prop where
  /-- The device is there. -/
  dev : s.drv.measVoltDev ≠ none
  /-- No call is in progress. -/
  pc : s.pc = .idle
  /-- No request was sent. -/
  sent : s.sent = 0
  /-- None can be answered. -/
  asked : s.asked = []
  /-- None was. -/
  answers : s.answers = []
  /-- No call has returned. -/
  returns : s.returns = []

/-- **Every value is that of the call's own request.** -/
def Own (s : St) : Prop :=
  ∀ req v, (req, Except.ok v) ∈ s.returns → ∃ r, req = some r ∧ (r, v) ∈ s.answers

/-- A call that was woken takes the value after the answer to its own request is
handled. -/
def Answered (s : St) : Event → Prop
  | .take => ∀ req, s.pc = .woken req → ∃ v, (req, v) ∈ s.answers
  | _ => True

/-! ### The pieces -/

theorem linguruVoltCallback_voltMsg (v : UInt32) (s : Drv) :
    linguruVoltCallback (CurrMsg.ofMsg (voltMsg v)) s =
      modifyPriv (fun priv => { priv with voltage := v, done := priv.done + 1 }) s := by
  have hread : readLE 0 4 (toLE 4 v.toNat) = v.toNat := by
    have happend := readLE_append (o := 0) (k := 4) [] [] v.toNat rfl
    rw [List.nil_append, List.append_nil] at happend
    have hlt : v.toNat < 256 ^ 4 := v.toNat_lt
    rw [happend, Nat.mod_eq_of_lt hlt]
  have hv : UInt32.ofNat (readLE 0 4 (((CurrMsg.ofMsg (voltMsg v)).data).getD [])) = v := by
    show UInt32.ofNat (readLE 0 4 (toLE 4 v.toNat)) = v
    rw [hread, UInt32.ofNat_toNat]
  unfold linguruVoltCallback
  rw [hv]
  rfl

theorem modifyPriv_measVoltDev {f : LinguruVoltagePriv → LinguruVoltagePriv} {s : Drv} :
    (modifyPriv f s).measVoltDev ≠ none ↔ s.measVoltDev ≠ none := by
  simp [modifyPriv]

theorem voltage_modifyPriv {f : LinguruVoltagePriv → LinguruVoltagePriv}
    (hf : ∀ priv, (f priv).voltage = priv.voltage) (s : Drv) :
    voltage (modifyPriv f s) = voltage s := by
  cases h : s.measVoltDev with
  | none => simp [voltage, modifyPriv, h]
  | some priv => simp [voltage, modifyPriv, h, hf]

theorem voltage_answer {s : Drv} (h : s.measVoltDev ≠ none) (v : UInt32) :
    voltage (modifyPriv (fun priv => { priv with voltage := v, done := priv.done + 1 }) s) = v := by
  obtain ⟨priv, hpriv⟩ := Option.ne_none_iff_exists'.mp h
  simp [voltage, modifyPriv, hpriv]

/-! ### The invariant -/

/-- A request that a call waits for: it may still be answered, and is the last that may;
or it is answered, and the voltage is that of its answer. -/
def Pending (s : St) (req : ℕ) : Prop :=
  req + 1 = s.sent ∧
    ((∃ earlier, s.asked = earlier ++ [req] ∧ req ∉ earlier ∧ ∀ v, (req, v) ∉ s.answers) ∨
      s.asked = [] ∧ (req, voltage s.drv) ∈ s.answers)

/-- The invariant. -/
structure Inv (s : St) : Prop where
  /-- The device is there. -/
  dev : s.drv.measVoltDev ≠ none
  /-- The requests that may be answered were sent. -/
  asked : ∀ req ∈ s.asked, req < s.sent
  /-- So were those that are answered. -/
  answers : ∀ e ∈ s.answers, e.1 < s.sent
  /-- The request of a call that waits. -/
  waiting : ∀ req, s.pc = .waiting req → Pending s req
  /-- The request of a call that was woken. -/
  woken : ∀ req, s.pc = .woken req → Pending s req
  /-- The values returned so far. -/
  own : Own s

theorem Start.inv {s : St} (h : Start s) : Inv s where
  dev := h.dev
  asked := by simp [h.asked]
  answers := by simp [h.answers]
  waiting := by simp [h.pc]
  woken := by simp [h.pc]
  own := by simp [Own, h.returns]

section Steps

variable {s s' : St}

theorem Inv.ret_error (h : Inv s) (req : Option ℕ) (err : ℤ) : Inv (s.ret req (.error err)) where
  dev := h.dev
  asked := h.asked
  answers := h.answers
  waiting := fun _ hpc => by cases hpc
  woken := fun _ hpc => by cases hpc
  own := by
    intro req' v hv
    rcases List.mem_append.mp hv with hv | hv
    · exact h.own req' v hv
    · rw [List.mem_singleton] at hv
      cases hv

/-- A piece that changes the completion only keeps what is pending. -/
theorem Pending.keep {req : ℕ} (h : Pending s req) {f : LinguruVoltagePriv → LinguruVoltagePriv}
    (hf : ∀ priv, (f priv).voltage = priv.voltage) (pc : Pc) :
    Pending { s with pc := pc, drv := modifyPriv f s.drv } req := by
  refine ⟨h.1, h.2.imp_right fun ⟨hasked, hv⟩ => ⟨hasked, ?_⟩⟩
  rw [voltage_modifyPriv hf]
  exact hv

theorem Inv.call (h : Inv s) {mask : ℤ} (hs : step s (.call mask) = some s') : Inv s' := by
  rw [step] at hs
  split at hs
  case isTrue => cases hs
  case isFalse =>
    split at hs
    case isTrue =>
      obtain rfl := Option.some.inj hs
      exact h.ret_error none (-EINVAL)
    case isFalse =>
      obtain rfl := Option.some.inj hs
      exact ⟨modifyPriv_measVoltDev.mpr h.dev, h.asked, h.answers, (by simp), (by simp), h.own⟩

theorem Inv.request (h : Inv s) {o : SendOutcome} (hs : step s (.request o) = some s') : Inv s' := by
  rw [step] at hs
  split at hs
  case isTrue => cases hs
  case isFalse =>
    dsimp only [guruSendData] at hs
    split at hs
    case isTrue =>
      obtain rfl := Option.some.inj hs
      exact h.ret_error none o.err
    case isFalse hok =>
      rw [if_pos (not_not.mp hok)] at hs
      obtain rfl := Option.some.inj hs
      constructor
      case dev => exact h.dev
      case asked =>
        intro req hreq
        rcases List.mem_append.mp hreq with hreq | hreq
        · exact (h.asked req hreq).trans (Nat.lt_succ_self _)
        · obtain rfl := List.mem_singleton.mp hreq
          exact Nat.lt_succ_self _
      case answers => exact fun e he => (h.answers e he).trans (Nat.lt_succ_self _)
      case waiting =>
        intro req hreq
        obtain rfl := Pc.waiting.inj hreq
        refine ⟨rfl, .inl ⟨s.asked, rfl, fun hmem => ?_, fun v hv => ?_⟩⟩
        · exact absurd (h.asked _ hmem) (lt_irrefl _)
        · exact absurd (h.answers _ hv) (lt_irrefl _)
      case woken => exact fun _ hreq => by cases hreq
      case own => exact h.own

theorem Inv.wake (h : Inv s) (hs : step s .wake = some s') : Inv s' := by
  rw [step] at hs
  split at hs
  case h_2 => cases hs
  case h_1 req hpc =>
    split at hs
    case isFalse => cases hs
    case isTrue =>
      obtain rfl := Option.some.inj hs
      refine ⟨modifyPriv_measVoltDev.mpr h.dev, h.asked, h.answers, (by simp),
        fun req' hreq => ?_, h.own⟩
      obtain rfl := Pc.woken.inj hreq
      exact (h.waiting req hpc).keep (f := fun priv => { priv with done := priv.done - 1 }) (fun _ => rfl) _

theorem Inv.timeout (h : Inv s) (hs : step s .timeout = some s') : Inv s' := by
  rw [step] at hs
  split at hs
  case h_2 => cases hs
  case h_1 req hpc =>
    split at hs
    case isTrue => cases hs
    case isFalse =>
      obtain rfl := Option.some.inj hs
      exact h.ret_error (some req) (-ETIMEDOUT)

theorem step_take (hs : step s .take = some s') :
    ∃ req, s.pc = .woken req ∧ s' = s.ret (some req) (.ok (voltage s.drv)) := by
  rw [step] at hs
  split at hs
  case h_2 => cases hs
  case h_1 req hpc => exact ⟨req, hpc, (Option.some.inj hs).symm⟩

/-- A value that is taken after the answer to the call's own request keeps the
invariant. -/
theorem Inv.take (h : Inv s) (hC : Answered s .take) (hs : step s .take = some s') : Inv s' := by
  obtain ⟨req, hpc, rfl⟩ := step_take hs
  refine ⟨h.dev, h.asked, h.answers, (fun _ hpc' => by cases hpc'),
    (fun _ hpc' => by cases hpc'), ?_⟩
  intro req' v hv
  rcases List.mem_append.mp hv with hv | hv
  · exact h.own req' v hv
  · obtain ⟨rfl, hval⟩ := Prod.mk.inj (List.mem_singleton.mp hv)
    obtain rfl := Except.ok.inj hval
    obtain ⟨-, ⟨earlier, -, -, hno⟩ | ⟨-, hown⟩⟩ := h.woken req hpc
    · obtain ⟨v, hv⟩ := hC req hpc
      exact absurd hv (hno v)
    · exact ⟨req, rfl, hown⟩

/-- An answer leaves what a call waits for pending. -/
theorem Pending.answer {req r k : ℕ} (h : Pending s req) (hdev : s.drv.measVoltDev ≠ none)
    (hk : s.asked[k]? = some r) (v : UInt32) :
    Pending
      { s with
        drv := modifyPriv (fun priv => { priv with voltage := v, done := priv.done + 1 }) s.drv
        asked := s.asked.drop (k + 1)
        answers := s.answers ++ [(r, v)] } req := by
  refine ⟨h.1, ?_⟩
  obtain ⟨-, ⟨earlier, hasked, hnew, hno⟩ | ⟨hasked, -⟩⟩ := h
  · rw [hasked] at hk
    by_cases hlt : k < earlier.length
    · -- The answer is to an earlier request.
      rw [List.getElem?_append_left hlt] at hk
      have hr : r ∈ earlier := List.mem_of_getElem? hk
      refine .inl ⟨earlier.drop (k + 1), ?_, fun hmem => hnew (List.mem_of_mem_drop hmem),
        fun v' hv' => ?_⟩
      · simp only [hasked, List.drop_append_of_le_length (Nat.succ_le_of_lt hlt)]
      · rcases List.mem_append.mp hv' with hv' | hv'
        · exact hno v' hv'
        · obtain ⟨rfl, -⟩ := Prod.mk.inj (List.mem_singleton.mp hv')
          exact hnew hr
    · -- The answer is to the request of the call.
      obtain ⟨hlen, hget⟩ := List.getElem?_eq_some_iff.mp hk
      have hk' : k = earlier.length := by
        rw [List.length_append, List.length_singleton] at hlen
        omega
      subst hk'
      have hr : r = req := by simpa using hget.symm
      subst hr
      refine .inr ⟨by simp [hasked], ?_⟩
      rw [voltage_answer hdev]
      exact List.mem_append_right _ (List.mem_singleton_self _)
  · rw [hasked] at hk
    cases hk

theorem Inv.answer (h : Inv s) {k : ℕ} {v : UInt32} (hs : step s (.answer k v) = some s') :
    Inv s' := by
  rw [step] at hs
  split at hs
  case h_2 => cases hs
  case h_1 r hk =>
    rw [linguruVoltCallback_voltMsg] at hs
    obtain rfl := Option.some.inj hs
    constructor
    case dev => exact modifyPriv_measVoltDev.mpr h.dev
    case asked => exact fun req hreq => h.asked req (List.mem_of_mem_drop hreq)
    case answers =>
      intro e he
      rcases List.mem_append.mp he with he | he
      · exact h.answers e he
      · obtain rfl := List.mem_singleton.mp he
        exact h.asked r (List.mem_of_getElem? hk)
    case waiting => exact fun req hpc => (h.waiting req hpc).answer h.dev hk v
    case woken => exact fun req hpc => (h.woken req hpc).answer h.dev hk v
    case own =>
      intro req v' hv
      obtain ⟨r', hreq, hmem⟩ := h.own req v' hv
      exact ⟨r', hreq, List.mem_append_left _ hmem⟩

/-- **One step**: a step in which no value is taken too early keeps the invariant. -/
theorem inv_step (e : Event) (h : Inv s) (hC : Answered s e) (hs : step s e = some s') :
    Inv s' := by
  cases e with
  | call mask => exact h.call hs
  | request o => exact h.request hs
  | wake => exact h.wake hs
  | timeout => exact h.timeout hs
  | take => exact h.take hC hs
  | answer k v => exact h.answer hs

/-- A value that is taken too early is not that of the call's own request. -/
theorem not_own {e : Event} (hC : ¬ Answered s e) (hs : step s e = some s') : ¬ Own s' := by
  cases e with
  | take =>
    obtain ⟨req, hpc, rfl⟩ := step_take hs
    intro hown
    obtain ⟨r, hr, hmem⟩ :=
      hown (some req) (voltage s.drv) (List.mem_append_right _ (List.mem_singleton_self _))
    obtain rfl := Option.some.inj hr
    refine hC fun req' hpc' => ?_
    obtain rfl := Pc.woken.inj (hpc.symm.trans hpc')
    exact ⟨_, hmem⟩
  | call mask => exact absurd trivial hC
  | request o => exact absurd trivial hC
  | wake => exact absurd trivial hC
  | timeout => exact absurd trivial hC
  | answer k v => exact absurd trivial hC

end Steps

/-- **Every value is that of the call's own request** exactly when no call that was woken
takes the value before the answer to its own request is handled. -/
theorem own_iff {s t : St} (hs : Start s) {es : List Event} (hr : run step s es = some t) :
    Always step Own s es ↔ Meets step Answered s es :=
  always_iff_meets (fun _ e _ h hC hs => inv_step e h hC hs) (fun _ h => h.own)
    (fun _ _ _ _ hC hs => not_own hC hs) hs.inv hr

/-! ### A LIN device -/

/-- A LIN device that was never read. -/
def lin : St := ⟨DeviceKind.linguru.ready.dev, .idle, 0, [], [], []⟩

theorem start_lin : Start lin := ⟨by decide, rfl, rfl, rfl, rfl, rfl⟩

/-- A call whose time is up is followed by one whose answer comes. -/
theorem own_skipped :
    Always step Own lin [.call 0, .request .ok, .timeout, .call 0, .request .ok, .answer 1 12,
      .wake, .take] := by
  apply (own_iff start_lin rfl).mpr
  refine .cons rfl trivial (.cons rfl trivial (.cons rfl trivial (.cons rfl trivial (.cons rfl trivial
    (.cons rfl trivial (.cons rfl trivial (.cons rfl (fun req hpc => ?_) trivial)))))))
  obtain rfl := Pc.woken.inj hpc
  exact ⟨12, List.mem_singleton_self _⟩

/-- A call whose time is up is followed by one that its answer wakes. -/
theorem not_own_late :
    ¬ Always step Own lin [.call 0, .request .ok, .timeout, .call 0, .request .ok, .answer 0 11,
      .wake, .take] := by
  intro h
  obtain ⟨r, hr, hmem⟩ :=
    h.last rfl (some 1) 11 (List.mem_append_right _ (List.mem_singleton_self _))
  obtain rfl := Option.some.inj hr
  exact absurd hmem (by decide)

end Voltage

end CanGuru
