import CanGuru.Boot.Race
import Mathlib.Data.List.Infix

/-!
# Reading a serial number

The character device of a boot device can be opened as soon as `cdev_add` has returned, and
`device_create` tells the user of it. The serial number is written after both, by `sprintf`.
`guru_boot_read` does not look whether it is there, and `cdev_del` does not wait for open files.

## The model

The boot devices come and go as in `CanGuru.Boot.Race`. Any file may be opened on any character
device that is added, since the kernel keeps the device it found in the inode, and any number of
them. A step of a read is one byte that `strlen` looks at, or one byte that is copied to the user,
which may fail at any of them; these come between those of `sprintf`, and in any order. The
serial number of a USB device is a string. When a boot device is gone, so is its memory, and what a
file that is still open reads there may be anything.

## What is proved

* `read_alone` — the steps of one read that nothing disturbs make `guruBootRead`.
* `whole_iff` — as long as the boot device of a file is there, what a program has got from it is
  a beginning of the serial number and its line end. **What it has got at the end is all of it**,
  in every state of a run in which the boot device is there, exactly if no `strlen` finds nothing
  new before `sprintf` has ended.
* `whole_of_live` — so it is if no file is opened before its boot device is created.
-/

namespace CanGuru

open Machine

namespace Files

/-- Where a read is. -/
inductive Phase where
  /-- There is none. -/
  | rest
  /-- In `strlen`, before it looks at byte `idx`, for a read of `length` bytes. -/
  | strlen (length idx : ℕ)
  /-- In `copy_to_user`, which has copied `data` and has `n` bytes left. -/
  | copy (data : List UInt8) (n : ℕ)
  deriving DecidableEq

/-- An open file. -/
structure File where
  /-- `private_data`. -/
  boot : ℕ
  /-- `*offset`. -/
  offset : ℕ
  /-- What the program has got. -/
  got : List UInt8
  /-- Where its read is. -/
  phase : Phase
  /-- A read of some bytes has returned 0. -/
  eof : Bool
  /-- Its boot device is gone. -/
  gone : Bool

/-- The boot devices and the open files. -/
structure St where
  /-- The boot devices. -/
  race : Race.St
  /-- The files. -/
  files : ℕ → Option File

/-- The steps. -/
inductive Event where
  /-- A step of a boot device. -/
  | race (e : Race.Event)
  /-- `guru_boot_open`, for the character device of `b`. -/
  | openFile (f b : ℕ)
  /-- The last reference to a file is given up. -/
  | closeFile (f : ℕ)
  /-- `guru_boot_read` is called. -/
  | read (f length : ℕ)
  /-- The next step of a read, if it can be made, and what is in memory that is gone. -/
  | next (f : ℕ) (fault : Bool) (junk : UInt8)

/-- The byte at `idx` of `serial_number`, which is clear behind the string. -/
def File.load (idx : ℕ) (junk : UInt8) (race : Race.St) (file : File) : UInt8 :=
  if file.gone then junk else (race.boots.serialNumber file.boot).getD idx 0

/-- The next step of a read: `strlen`, then `simple_read_from_buffer`. -/
def File.next (fault : Bool) (junk : UInt8) (race : Race.St) (file : File) : Option File :=
  match file.phase with
  | .rest => none
  | .strlen length idx =>
    if file.load idx junk race ≠ 0 then some { file with phase := .strlen length (idx + 1) }
    else if idx ≤ file.offset ∨ length = 0 then
      some { file with phase := .rest, eof := file.eof || decide (length ≠ 0) }
    else some { file with phase := .copy [] (min length (idx - file.offset)) }
  | .copy data n =>
    if n = 0 ∨ fault then
      some { file with phase := .rest, offset := file.offset + data.length, got := file.got ++ data }
    else some { file with phase := .copy (data ++ [file.load (file.offset + data.length) junk race]) (n - 1) }

/-- A file after a step of the boot devices. -/
def File.after (race : Race.St) (file : File) : File :=
  if race.pc file.boot = .idle then { file with gone := true } else file

/-- The serial number of a new USB device is a string. -/
def Plain : Race.Event → Prop
  | .create _ serial => 0 ∉ serial
  | _ => True

instance : DecidablePred Plain := fun e => by
  cases e <;> unfold Plain <;> infer_instance

/-- A file is as given, or closed. -/
def St.put (f : ℕ) (file : Option File) (s : St) : St :=
  { s with files := Function.update s.files f file }

/-- What a step does, where it can happen. -/
def step (s : St) : Event → Option St
  | .race e =>
    if Plain e then
      (Race.step s.race e).map fun race => ⟨race, fun f => (s.files f).map (File.after race)⟩
    else none
  | .openFile f b =>
    if (0, b) ∈ s.race.boots.cdevs ∧ s.files f = none then
      some (s.put f (some ⟨b, 0, [], .rest, false, false⟩))
    else none
  | .closeFile f => (s.files f).bind fun file =>
    if file.phase = .rest then some (s.put f none) else none
  | .read f length => (s.files f).bind fun file =>
    if file.phase = .rest then
      some (s.put f (some { file with phase := .strlen length 0 }))
    else none
  | .next f fault junk => (s.files f).bind fun file =>
    (file.next fault junk s.race).map fun file' => s.put f (some file')

/-- No boot device, and no file. -/
def start : St := ⟨Race.start, fun _ => none⟩

/-! ### One read alone -/

section Alone

variable {s t u : St} {f : ℕ} {file file' : File} {race : Race.St}

@[simp] theorem put_files (f : ℕ) (x : Option File) (s : St) : (s.put f x).files f = x :=
  Function.update_self ..

@[simp] theorem put_race (f : ℕ) (x : Option File) (s : St) : (s.put f x).race = s.race := rfl

@[simp] theorem put_put (f : ℕ) (x y : Option File) (s : St) : (s.put f x).put f y = s.put f y := by
  simp [St.put]

/-- Steps of the read of `f` alone lead from `s` to `t`. -/
def Solo (f : ℕ) (s t : St) : Prop := ∃ n, run step s (List.replicate n (.next f false 0)) = some t

theorem Solo.refl (f : ℕ) (s : St) : Solo f s s := ⟨0, rfl⟩

theorem Solo.head (hs : file.next false 0 s.race = some file')
    (h : Solo f (s.put f (some file')) t) : Solo f (s.put f (some file)) t := by
  obtain ⟨n, hr⟩ := h
  exact ⟨n + 1, run_cons_eq_some.mpr ⟨_, by simp [step, hs], hr⟩⟩

theorem load_eq_getElem (hgone : file.gone = false) {idx : ℕ}
    (hidx : idx < (race.boots.serialNumber file.boot).length) (junk : UInt8) :
    file.load idx junk race = (race.boots.serialNumber file.boot)[idx] := by
  rw [File.load, hgone, if_neg Bool.false_ne_true, List.getD_eq_getElem?_getD,
    List.getElem?_eq_getElem hidx, Option.getD_some]

theorem load_eq_zero (hgone : file.gone = false)
    (hplain : 0 ∉ race.boots.serialNumber file.boot) (idx : ℕ) (junk : UInt8) :
    file.load idx junk race = 0 ↔ (race.boots.serialNumber file.boot).length ≤ idx := by
  by_cases hidx : idx < (race.boots.serialNumber file.boot).length
  · rw [load_eq_getElem hgone hidx]
    exact iff_of_false (fun h => hplain (h ▸ List.getElem_mem hidx)) (Nat.not_le.mpr hidx)
  · have hle := Nat.not_lt.mp hidx
    rw [File.load, hgone, if_neg Bool.false_ne_true, List.getD_eq_getElem?_getD,
      List.getElem?_eq_none hle, Option.getD_none]
    exact iff_of_true rfl hle

theorem solo_strlen (hgone : file.gone = false) (hplain : 0 ∉ s.race.boots.serialNumber file.boot)
    {length : ℕ} : ∀ m idx, idx + m = (s.race.boots.serialNumber file.boot).length →
      Solo f (s.put f (some { file with phase := .strlen length (s.race.boots.serialNumber file.boot).length })) t →
        Solo f (s.put f (some { file with phase := .strlen length idx })) t := by
  intro m
  induction m with
  | zero =>
    rintro idx rfl h
    exact h
  | succ m ih =>
    intro idx hidx h
    have hload : ({ file with phase := .strlen length idx } : File).load idx 0 s.race ≠
        0 := fun h0 => by
      have hle :=
        (@load_eq_zero { file with phase := .strlen length idx } s.race hgone hplain idx 0).mp h0
      change (s.race.boots.serialNumber file.boot).length ≤ idx at hle
      omega
    exact Solo.head (by simp only [File.next, if_pos hload]) (ih (idx + 1) (by omega) h)

theorem solo_copy (hgone : file.gone = false) : ∀ n data,
    file.offset + data.length + n ≤ (s.race.boots.serialNumber file.boot).length →
      Solo f (s.put f (some { file with phase := .copy data n })) (s.put f (some { file with
        phase := .rest
        offset := file.offset + data.length + n
        got := file.got ++ (data ++ ((s.race.boots.serialNumber file.boot).drop (file.offset + data.length)).take n) })) := by
  intro n
  induction n with
  | zero =>
    intro data _
    have hnext : ({ file with phase := .copy data 0 } : File).next false 0 s.race =
        some { file with phase := .rest, offset := file.offset + data.length, got := file.got ++ data } := by
      simp [File.next]
    simpa using Solo.head hnext (Solo.refl f _)
  | succ n ih =>
    intro data hle
    have hlt : file.offset + data.length < (s.race.boots.serialNumber file.boot).length := by omega
    let byte := (s.race.boots.serialNumber file.boot)[file.offset + data.length]
    have hload :
        ({ file with phase := .copy data (n + 1) } : File).load (file.offset + data.length) 0
        s.race = byte :=
      load_eq_getElem hgone hlt 0
    have hnext : ({ file with phase := .copy data (n + 1) } : File).next false 0 s.race =
        some { file with phase := .copy (data ++ [byte]) n } := by
      simp [File.next, hload]
    have hlen :
        file.offset + (data ++ [byte]).length + n = file.offset + data.length + (n + 1) := by
      rw [List.length_append, List.length_singleton]
      omega
    have hcopied :
      data ++ ((s.race.boots.serialNumber file.boot).drop (file.offset + data.length)).take (n + 1) =
        (data ++ [byte]) ++
          ((s.race.boots.serialNumber file.boot).drop (file.offset + (data ++ [byte]).length)).take n := by
      rw [List.drop_eq_getElem_cons hlt, List.take_succ_cons, List.append_assoc, List.length_append]
      rfl
    rw [hcopied, ← hlen]
    exact Solo.head hnext (ih (data ++ [byte]) (hlen.trans_le hle))

/-- **The steps of a read that nothing disturbs make `guruBootRead`.** -/
theorem read_alone (hf : s.files f = some file) (hrest : file.phase = .rest)
    (hgone : file.gone = false) (hplain : 0 ∉ s.race.boots.serialNumber file.boot) (length : ℕ) :
    ∃ u file', step s (.read f length) = some u ∧ Solo f u (s.put f (some file')) ∧
      file'.phase = .rest ∧
      file'.got = file.got ++ s.race.boots.guruBootRead length file.offset file.boot ∧
      file'.offset = file.offset + (s.race.boots.guruBootRead length file.offset file.boot).length ∧
      (file'.eof = true ↔ file.eof = true ∨
        length ≠ 0 ∧ (s.race.boots.serialNumber file.boot).length ≤ file.offset) := by
  let sn := s.race.boots.serialNumber file.boot
  have hsn : sn.length = (s.race.boots.serialNumber file.boot).length := rfl
  have hread :
      step s (.read f length) = some (s.put f (some { file with phase := .strlen length 0 })) := by
    simp [step, hf, hrest]
  have hload :
      ({ file with phase := .strlen length sn.length } : File).load sn.length 0 s.race = 0 :=
    (@load_eq_zero { file with phase := .strlen length sn.length } s.race hgone hplain _ 0).mpr le_rfl
  by_cases hend : sn.length ≤ file.offset ∨ length = 0
  · have hnext : ({ file with phase := .strlen length sn.length } : File).next false 0 s.race =
        some { file with phase := .rest, eof := file.eof || decide (length ≠ 0) } := by
      simp [File.next, hload, hend]
    have hnone : s.race.boots.guruBootRead length file.offset file.boot = [] := by
      unfold GuruBoots.guruBootRead
      rcases hend with hoff | rfl
      · rw [List.drop_of_length_le hoff, List.take_nil]
      · rw [List.take_zero]
    refine ⟨_, { file with phase := .rest, eof := file.eof || decide (length ≠ 0) }, hread,
      solo_strlen hgone hplain sn.length 0 (Nat.zero_add _) (Solo.head hnext (Solo.refl f _)),
        rfl, ?_, ?_, ?_⟩
    · rw [hnone, List.append_nil]
    · rw [hnone, List.length_nil, Nat.add_zero]
    · simp only [Bool.or_eq_true, decide_eq_true_eq]
      exact or_congr_right ⟨fun hl => ⟨hl, hend.resolve_right hl⟩, fun hl => hl.1⟩
  · obtain ⟨hoff, hlen⟩ := not_or.mp hend
    let n := min length (sn.length - file.offset)
    have hnext : ({ file with phase := .strlen length sn.length } : File).next false 0 s.race =
        some { file with phase := .copy [] n } := by
      simp [File.next, hload, hoff, hlen, n]
    have htake : s.race.boots.guruBootRead length file.offset file.boot =
        (sn.drop file.offset).take n := by
      rw [GuruBoots.guruBootRead, List.take_eq_take_iff, List.length_drop]
      omega
    have hn : ((sn.drop file.offset).take n).length = n := by
      rw [List.length_take, List.length_drop]
      omega
    have hcopy := @solo_copy s f file hgone n [] (by simp only [List.length_nil]; omega)
    refine ⟨_, _, hread,
      solo_strlen hgone hplain sn.length 0 (Nat.zero_add _) (Solo.head hnext hcopy),
      rfl, ?_, ?_, ?_⟩
    · rw [htake]
      rfl
    · rw [htake, hn]
      rfl
    · exact (or_iff_left fun h => hoff h.2).symm

end Alone

/-! ### What is written -/

section Race

variable {s s' : Race.St} {b : ℕ}

/-- What is written of the serial number of `b`. -/
def Written (s : Race.St) (b : ℕ) : Prop :=
  match s.pc b with
  | .idle => True
  | .scan _ | .add | .node | .enter | .check => s.boots.serialNumber b = []
  | .print n => s.boots.serialNumber b = (s.line b).take n
  | .live => s.boots.serialNumber b = s.line b
  | .unnode | .clear | .del => s.boots.serialNumber b <+: s.line b

theorem Written.isPrefix (h : Written s b) (hpc : s.pc b ≠ .idle) :
    s.boots.serialNumber b <+: s.line b := by
  unfold Written at h
  split at h
  case h_1 hidle => exact absurd hidle hpc
  case h_7 => exact h ▸ List.take_prefix ..
  case h_8 => exact h ▸ List.prefix_refl _
  case h_9 => exact h
  case h_10 => exact h
  case h_11 => exact h
  all_goals exact h ▸ List.nil_prefix

theorem next_others {err : ℤ} (hs : s.next b err = some s') : s'.serial = s.serial ∧
    ∀ b' ≠ b, s'.pc b' = s.pc b' ∧ s'.boots.serialNumber b' = s.boots.serialNumber b' := by
  cases hpc : s.pc b <;> simp only [Race.St.next, hpc] at hs
  case idle => cases hs
  case live => cases hs
  case print n =>
    obtain rfl := Option.some.inj hs
    exact ⟨rfl, fun b' hb' => ⟨Function.update_of_ne hb' .., Function.update_of_ne hb' ..⟩⟩
  case scan | add | node =>
    split_ifs at hs <;> obtain rfl := Option.some.inj hs <;>
      exact ⟨rfl, fun b' hb' => ⟨Function.update_of_ne hb' .., rfl⟩⟩
  all_goals
    obtain rfl := Option.some.inj hs
    exact ⟨rfl, fun b' hb' => ⟨Function.update_of_ne hb' .., rfl⟩⟩

/-- The next step of `b` only adds to what is written. -/
theorem next_written {err : ℤ} (h : Written s b) (hs : s.next b err = some s') :
    Written s' b ∧ s.boots.serialNumber b <+: s'.boots.serialNumber b := by
  cases hpc : s.pc b <;> simp only [Race.St.next, hpc] at hs <;> simp only [Written, hpc] at h
  case idle => cases hs
  case live => cases hs
  case print n =>
    obtain rfl := Option.some.inj hs
    have hnew : Function.update s.boots.serialNumber b ((s.line b).take (n + 1)) b =
        (s.line b).take (n + 1) :=
      Function.update_self ..
    constructor
    · by_cases hn : n + 1 < (s.line b).length
      · simp [Written, hn]
      · simp [Written, hn, List.take_of_length_le (Nat.not_lt.mp hn)]
    · show _ <+: Function.update s.boots.serialNumber b ((s.line b).take (n + 1)) b
      rw [hnew, h]
      exact List.take_prefix_take_left (Nat.le_succ n)
  case check =>
    obtain rfl := Option.some.inj hs
    refine ⟨?_, List.prefix_refl _⟩
    by_cases hlen : (s.serial b).length = GURU_SN_SIZE <;> simp [Written, hlen, h]
  case scan | add | node =>
    split_ifs at hs <;> obtain rfl := Option.some.inj hs <;> refine ⟨?_, List.prefix_refl _⟩ <;>
      simp [Written, h]
  case enter | unnode | clear =>
    obtain rfl := Option.some.inj hs
    exact ⟨by simpa [Written] using h, List.prefix_refl _⟩
  case del =>
    obtain rfl := Option.some.inj hs
    exact ⟨by simp [Written], List.prefix_refl _⟩

/-- **One step** of the boot devices only adds to what is written, as long as they are there. -/
theorem step_written {e : Race.Event} (h : ∀ b, Written s b)
    (hs : Race.step s e = some s') (b : ℕ) : Written s' b ∧
      (s.pc b ≠ .idle → s.boots.serialNumber b <+: s'.boots.serialNumber b ∧
        s'.line b = s.line b) := by
  have hothers {b' : ℕ} (hb : b ≠ b') (hpc : s'.pc b = s.pc b)
      (hsn : s'.boots.serialNumber b = s.boots.serialNumber b) (hline : s'.line b = s.line b) :
        Written s' b ∧
      (s.pc b ≠ .idle → s.boots.serialNumber b <+: s'.boots.serialNumber b ∧
          s'.line b = s.line b) := by
    refine ⟨?_, fun _ => ⟨hsn ▸ List.prefix_refl _, hline⟩⟩
    rw [Written, hpc, hsn, hline]
    exact h b
  cases e with
  | create b' serial =>
    rw [Race.step] at hs
    split at hs
    case isTrue hidle =>
      obtain rfl := Option.some.inj hs
      by_cases hb : b = b'
      · subst hb
        exact ⟨by simp [Written, Race.St.goto], fun hpc => absurd hidle hpc⟩
      · have hline : Function.update s.serial b' serial b ++ [0x0A] = s.line b := by
          rw [Function.update_of_ne hb]
          rfl
        exact hothers hb (Function.update_of_ne hb ..) (Function.update_of_ne hb ..) hline
    case isFalse => cases hs
  | destroy b' =>
    rw [Race.step] at hs
    split at hs
    case isTrue hlive =>
      obtain rfl := Option.some.inj hs
      by_cases hb : b = b'
      · subst hb
        have hwhole : s.boots.serialNumber b = s.line b := by simpa [Written, hlive] using h b
        exact ⟨by simp [Written, hwhole], fun _ => ⟨List.prefix_refl _, rfl⟩⟩
      · exact hothers hb (Function.update_of_ne hb ..) rfl rfl
    case isFalse => cases hs
  | next b' err =>
    obtain ⟨hserial, hothers'⟩ := next_others hs
    have hline : s'.line b = s.line b := by rw [Race.St.line, hserial, Race.St.line]
    by_cases hb : b = b'
    · subst hb
      obtain ⟨hwritten, hmore⟩ := next_written (h b) hs
      exact ⟨hwritten, fun _ => ⟨hmore, hline⟩⟩
    · exact hothers hb (hothers' b hb).1 (hothers' b hb).2 hline

theorem step_plain {e : Race.Event} (h : ∀ b, 0 ∉ s.serial b) (he : Plain e)
    (hs : Race.step s e = some s') (b : ℕ) : 0 ∉ s'.serial b := by
  cases e with
  | create b' serial =>
    rw [Race.step] at hs
    split at hs
    case isTrue =>
      obtain rfl := Option.some.inj hs
      show 0 ∉ Function.update s.serial b' serial b
      by_cases hb : b = b'
      · rw [hb, Function.update_self]
        exact he
      · rw [Function.update_of_ne hb]
        exact h b
    case isFalse => cases hs
  | destroy b' =>
    rw [Race.step] at hs
    split at hs
    case isTrue =>
      obtain rfl := Option.some.inj hs
      exact h b
    case isFalse => cases hs
  | next b' err =>
    rw [(next_others hs).1]
    exact h b

end Race

/-! ### What is read -/

section Read

variable {s s' : St} {race race' : Race.St} {file file' : File} {sn sn' : List UInt8}

/-- A read that has not got past what is written. -/
def Phase.Within (sn got : List UInt8) : Phase → Prop
  | .rest => True
  | .strlen _ idx => idx ≤ sn.length
  | .copy data n => got ++ data <+: sn ∧ got.length + data.length + n ≤ sn.length

/-- A file of a boot device that is there. -/
structure Reading (race : Race.St) (file : File) : Prop where
  /-- It is there. -/
  there : race.pc file.boot ≠ .idle
  /-- The file stands behind what the program has got. -/
  offset : file.offset = file.got.length
  /-- That is a beginning of what is written. -/
  got : file.got <+: race.boots.serialNumber file.boot
  /-- So is what its read has copied. -/
  phase : file.phase.Within (race.boots.serialNumber file.boot) file.got

theorem Reading.mono (h : Reading race file) (hpc : race'.pc file.boot ≠ .idle)
    (hsn : race.boots.serialNumber file.boot <+: race'.boots.serialNumber file.boot) :
    Reading race' file := by
  refine ⟨hpc, h.offset, h.got.trans hsn, ?_⟩
  have hphase := h.phase
  cases hp : file.phase <;> rw [hp] at hphase
  case rest => trivial
  case strlen => exact hphase.trans hsn.length_le
  case copy => exact ⟨hphase.1.trans hsn, hphase.2.trans hsn.length_le⟩

/-- **What the next step of a read can be.** -/
theorem next_cases {fault : Bool} {junk : UInt8} (hs : file.next fault junk race = some file') :
    (∃ length idx, file.phase = .strlen length idx ∧ file.load idx junk race ≠ 0 ∧
      file' = { file with phase := .strlen length (idx + 1) }) ∨
    (∃ length idx, file.phase = .strlen length idx ∧ file.load idx junk race = 0 ∧
      (length ≠ 0 → idx ≤ file.offset) ∧
        file' = { file with phase := .rest, eof := file.eof || decide (length ≠ 0) }) ∨
    (∃ length idx, file.phase = .strlen length idx ∧ file.load idx junk race = 0 ∧
      file.offset < idx ∧
      file' = { file with phase := .copy [] (min length (idx - file.offset)) }) ∨
    (∃ data n, file.phase = .copy data n ∧
      file' = { file with phase := .rest, offset := file.offset + data.length, got := file.got ++ data }) ∨
    (∃ data n, file.phase = .copy data (n + 1) ∧
      file' = { file with phase := .copy (data ++ [file.load (file.offset + data.length) junk race]) n }) := by
  cases hp : file.phase with
  | rest =>
    simp only [File.next, hp] at hs
    cases hs
  | strlen length idx =>
    simp only [File.next, hp] at hs
    split_ifs at hs with hload hend <;> obtain rfl := Option.some.inj hs
    · exact .inl ⟨length, idx, rfl, hload, rfl⟩
    · exact .inr (.inl ⟨length, idx, rfl, not_not.mp hload, hend.resolve_right, rfl⟩)
    · exact .inr (.inr (.inl ⟨length, idx, rfl, not_not.mp hload, Nat.not_le.mp (not_or.mp hend).1, rfl⟩))
  | copy data n =>
    simp only [File.next, hp] at hs
    split_ifs at hs with hlast <;> obtain rfl := Option.some.inj hs
    · exact .inr (.inr (.inr (.inl ⟨data, n, rfl, rfl⟩)))
    · obtain ⟨n, rfl⟩ := Nat.exists_eq_succ_of_ne_zero (not_or.mp hlast).1
      exact .inr (.inr (.inr (.inr ⟨data, n, rfl, rfl⟩)))

theorem next_same {fault : Bool} {junk : UInt8} (hs : file.next fault junk race = some file') :
    file'.boot = file.boot ∧ file'.gone = file.gone := by
  obtain ⟨_, _, -, -, rfl⟩ | ⟨_, _, -, -, -, rfl⟩ | ⟨_, _, -, -, -, rfl⟩ | ⟨_, _, -, rfl⟩ | ⟨_,
      _, -, rfl⟩ :=
    next_cases hs <;> exact ⟨rfl, rfl⟩

/-- **One step of a read** gets nothing that is not written. -/
theorem Reading.next (h : Reading race file) (hgone : file.gone = false)
    (hplain : 0 ∉ race.boots.serialNumber file.boot) {fault : Bool} {junk : UInt8}
    (hs : file.next fault junk race = some file') : Reading race file' := by
  have hphase := h.phase
  have hoff := h.offset
  obtain ⟨length, idx, hp, hload, rfl⟩ | ⟨length, idx, hp, hload, hend, rfl⟩ | ⟨length, idx, hp,
    hload, hlt, rfl⟩ |
    ⟨data, n, hp, rfl⟩ | ⟨data, n, hp, rfl⟩ := next_cases hs <;> rw [hp] at hphase
  · have hidx : idx < (race.boots.serialNumber file.boot).length :=
      Nat.not_le.mp fun hle => hload ((load_eq_zero hgone hplain idx junk).mpr hle)
    exact ⟨h.there, hoff, h.got, hidx⟩
  · exact ⟨h.there, hoff, h.got, trivial⟩
  · change idx ≤ _ at hphase
    refine ⟨h.there, hoff, h.got, (List.append_nil file.got).symm ▸ h.got, ?_⟩
    show file.got.length + 0 + min length (idx - file.offset) ≤
      (race.boots.serialNumber file.boot).length
    omega
  · refine ⟨h.there, ?_, hphase.1, trivial⟩
    show file.offset + data.length = (file.got ++ data).length
    rw [List.length_append, hoff]
  · obtain ⟨hpre, hle⟩ := hphase
    have hidx : file.offset + data.length < (race.boots.serialNumber file.boot).length := by omega
    refine ⟨h.there, hoff, h.got, ?_, ?_⟩
    · show file.got ++ (data ++ [file.load (file.offset + data.length) junk race]) <+: _
      have hlen : (file.got ++ data).length = file.offset + data.length := by
        rw [List.length_append, hoff]
      have htake :
          file.got ++ data =
          (race.boots.serialNumber file.boot).take (file.offset + data.length) := by
        rw [← hlen]
        exact List.prefix_iff_eq_take.mp hpre
      rw [load_eq_getElem hgone hidx, ← List.append_assoc, htake, List.take_append_getElem hidx]
      exact List.take_prefix ..
    · show file.got.length + (data ++ [_]).length + n ≤ (race.boots.serialNumber file.boot).length
      rw [List.length_append, List.length_singleton]
      omega

/-- The boot devices, what is written, and what is read. -/
structure Inv (s : St) : Prop where
  /-- The boot devices. -/
  race : Race.Inv s.race
  /-- What is written. -/
  written : ∀ b, Written s.race b
  /-- The serial numbers are strings. -/
  plain : ∀ b, 0 ∉ s.race.serial b
  /-- The files. -/
  files : ∀ f file, s.files f = some file → file.gone = false → Reading s.race file

theorem Inv.string (h : Inv s) {b : ℕ} (hpc : s.race.pc b ≠ .idle) :
    0 ∉ s.race.boots.serialNumber b := by
  intro h0
  have hline : (0 : UInt8) ∈ s.race.serial b ++ [0x0A] := ((h.written b).isPrefix hpc).subset h0
  rcases List.mem_append.mp hline with h0 | h0
  · exact h.plain b h0
  · simp at h0

/-- What the program has got is a beginning of the line. -/
theorem Inv.prefix_line (h : Inv s) {f : ℕ} (hf : s.files f = some file)
    (hgone : file.gone = false) : file.got <+: s.race.line file.boot :=
  (h.files f file hf hgone).got.trans ((h.written _).isPrefix (h.files f file hf hgone).there)

theorem inv_start : Inv start where
  race := Race.inv_start
  written _ := trivial
  plain _ := List.not_mem_nil
  files _ _ := nofun

/-- What holds of every file holds of every file after one is changed. -/
theorem forall_put {P : File → Prop} (h : ∀ f file, s.files f = some file → P file) {f : ℕ}
    {x : Option File} (hx : ∀ file, x = some file → P file) :
    ∀ f' file, (s.put f x).files f' = some file → P file := by
  intro f' file hf'
  change Function.update s.files f x f' = some file at hf'
  by_cases hf : f' = f
  · rw [hf, Function.update_self] at hf'
    exact hx file hf'
  · rw [Function.update_of_ne hf] at hf'
    exact h f' file hf'

theorem Inv.put (h : Inv s) {f : ℕ} {x : Option File}
    (hx : ∀ file, x = some file → file.gone = false → Reading s.race file) : Inv (s.put f x) :=
  ⟨h.race, h.written, h.plain, forall_put h.files hx⟩

/-- A file that is left after a step of the boot devices is as it was. -/
theorem after_eq (hgone : (file.after race').gone = false) :
    file.gone = false ∧ race'.pc file.boot ≠ .idle ∧ file.after race' = file := by
  unfold File.after at hgone ⊢
  split at hgone
  case isTrue => cases hgone
  case isFalse hpc => exact ⟨hgone, hpc, if_neg hpc⟩

/-- **What a step can do.** -/
theorem step_cases {e : Event} (hs : step s e = some s') :
    (∃ e' race', e = .race e' ∧ Plain e' ∧ Race.step s.race e' = some race' ∧
      s' = ⟨race', fun f => (s.files f).map (File.after race')⟩) ∨
    (∃ f b, e = .openFile f b ∧ (0, b) ∈ s.race.boots.cdevs ∧
      s' = s.put f (some ⟨b, 0, [], .rest, false, false⟩)) ∨
    (∃ f, e = .closeFile f ∧ s' = s.put f none) ∨
    (∃ f length file, e = .read f length ∧ s.files f = some file ∧
      s' = s.put f (some { file with phase := .strlen length 0 })) ∨
    (∃ f fault junk file file', e = .next f fault junk ∧ s.files f = some file ∧
      file.next fault junk s.race = some file' ∧ s' = s.put f (some file')) := by
  cases e with
  | race e =>
    rw [step] at hs
    split at hs
    case isTrue hplain =>
      obtain ⟨race', hrace, rfl⟩ := Option.map_eq_some_iff.mp hs
      exact .inl ⟨e, race', rfl, hplain, hrace, rfl⟩
    case isFalse => cases hs
  | openFile f b =>
    rw [step] at hs
    split at hs
    case isTrue hopen =>
      obtain rfl := Option.some.inj hs
      exact .inr (.inl ⟨f, b, rfl, hopen.1, rfl⟩)
    case isFalse => cases hs
  | closeFile f =>
    obtain ⟨file, -, hs⟩ := Option.bind_eq_some_iff.mp hs
    split at hs
    case isTrue =>
      obtain rfl := Option.some.inj hs
      exact .inr (.inr (.inl ⟨f, rfl, rfl⟩))
    case isFalse => cases hs
  | read f length =>
    obtain ⟨file, hf, hs⟩ := Option.bind_eq_some_iff.mp hs
    split at hs
    case isTrue =>
      obtain rfl := Option.some.inj hs
      exact .inr (.inr (.inr (.inl ⟨f, length, file, rfl, hf, rfl⟩)))
    case isFalse => cases hs
  | next f fault junk =>
    obtain ⟨file, hf, hs⟩ := Option.bind_eq_some_iff.mp hs
    obtain ⟨file', hnext, rfl⟩ := Option.map_eq_some_iff.mp hs
    exact .inr (.inr (.inr (.inr ⟨f, fault, junk, file, file', rfl, hf, hnext, rfl⟩)))

/-- **One step** keeps the invariant. -/
theorem inv_step (s : St) (e : Event) (s' : St) (h : Inv s) (hs : step s e = some s') : Inv s' := by
  obtain ⟨e', race', rfl, hplain, hrace, rfl⟩ | ⟨f, b, rfl, hcdev, rfl⟩ | ⟨f, rfl, rfl⟩ |
    ⟨f, length, file, rfl, hf, rfl⟩ | ⟨f, fault, junk, file, file', rfl, hf, hnext, rfl⟩ :=
      step_cases hs
  · have hwritten := step_written h.written hrace
    refine ⟨Race.inv_step _ _ _ h.race hrace, fun b => (hwritten b).1,
      step_plain h.plain hplain hrace, ?_⟩
    intro f file' hf' hgone'
    obtain ⟨file, hf, rfl⟩ := Option.map_eq_some_iff.mp hf'
    obtain ⟨hgone, hpc, hsame⟩ := after_eq hgone'
    have hr := h.files f file hf hgone
    exact hsame.symm ▸ hr.mono hpc ((hwritten file.boot).2 hr.there).1
  · refine h.put fun file hfile _ => ?_
    obtain rfl := Option.some.inj hfile
    have hcd : (s.race.pc b).HasCdev := ((h.race.cdevs 0 b).mp hcdev).1
    refine ⟨fun hidle => ?_, rfl, List.nil_prefix, trivial⟩
    change s.race.pc b = .idle at hidle
    simp [hidle] at hcd
  · exact h.put nofun
  · refine h.put fun file' hfile' hgone => ?_
    obtain rfl := Option.some.inj hfile'
    have hr := h.files f file hf hgone
    exact ⟨hr.there, hr.offset, hr.got, Nat.zero_le _⟩
  · refine h.put fun file'' hfile' hgone' => ?_
    obtain rfl := Option.some.inj hfile'
    have hgone : file.gone = false := (next_same hnext).2 ▸ hgone'
    have hr := h.files f file hf hgone
    exact hr.next hgone (h.string hr.there) hnext

/-! ### The end of the line -/

/-- **What a program has got at the end is the whole line**, as long as the boot device is
there. -/
def Whole (s : St) : Prop :=
  ∀ f file, s.files f = some file → file.gone = false → file.eof = true →
    file.got = s.race.line file.boot

/-- No `strlen` finds nothing new before `sprintf` has ended. -/
def Ended (s : St) : Event → Prop
  | .next f _ junk => ∀ file length idx, s.files f = some file → file.gone = false →
    file.phase = .strlen length idx →
      length ≠ 0 → file.load idx junk s.race = 0 → idx ≤ file.offset →
        s.race.boots.serialNumber file.boot = s.race.line file.boot
  | _ => True

/-- A `strlen` that finds nothing new: the program has got what is written. -/
theorem Reading.got_eq (h : Reading race file) (hgone : file.gone = false)
    (hplain : 0 ∉ race.boots.serialNumber file.boot) {idx : ℕ} {junk : UInt8}
    (hload : file.load idx junk race = 0) (hle : idx ≤ file.offset) :
    file.got = race.boots.serialNumber file.boot := by
  have hidx := (load_eq_zero hgone hplain idx junk).mp hload
  exact h.got.eq_of_length_le (h.offset ▸ hidx.trans hle)

/-- A step of a read only adds to what the program has got, and it comes to the end only where a
`strlen` finds nothing new. -/
theorem next_end {fault : Bool} {junk : UInt8} (hs : file.next fault junk race = some file') :
    file.got <+: file'.got ∧ (file'.eof = true → file.eof = true ∨ file'.got = file.got ∧
      ∃ length idx, file.phase = .strlen length idx ∧ length ≠ 0 ∧ file.load idx junk race = 0 ∧
        idx ≤ file.offset) := by
  obtain ⟨length, idx, -, -, rfl⟩ | ⟨length, idx, hp, hload, hend, rfl⟩ | ⟨length, idx, -,
    -, -, rfl⟩ |
    ⟨data, n, -, rfl⟩ | ⟨data, n, -, rfl⟩ := next_cases hs
  · exact ⟨List.prefix_refl _, .inl⟩
  · refine ⟨List.prefix_refl _, fun heof => ?_⟩
    rcases Bool.or_eq_true_iff.mp heof with heof | hlen
    · exact .inl heof
    · have hlen := of_decide_eq_true hlen
      exact .inr ⟨rfl, length, idx, hp, hlen, hload, hend hlen⟩
  · exact ⟨List.prefix_refl _, .inl⟩
  · exact ⟨List.prefix_append .., .inl⟩
  · exact ⟨List.prefix_refl _, .inl⟩

/-- **One step** gets to no end but that of the line if no `strlen` is early. -/
theorem whole_step (s : St) (e : Event) (s' : St) (h : Inv s ∧ Whole s) (hended : Ended s e)
    (hs : step s e = some s') : Inv s' ∧ Whole s' := by
  obtain ⟨hi, hw⟩ := h
  have hi' := inv_step s e s' hi hs
  refine ⟨hi', ?_⟩
  obtain ⟨e', race', rfl, hplain, hrace, rfl⟩ | ⟨f, b, rfl, hcdev, rfl⟩ | ⟨f, rfl, rfl⟩ |
    ⟨f, length, file, rfl, hf, rfl⟩ | ⟨f, fault, junk, file, file', rfl, hf, hnext, rfl⟩ :=
      step_cases hs
  · intro f file' hf' hgone' heof
    obtain ⟨file, hf, rfl⟩ := Option.map_eq_some_iff.mp hf'
    obtain ⟨hgone, -, hsame⟩ := after_eq hgone'
    rw [hsame] at heof ⊢
    have hline := ((step_written hi.written hrace file.boot).2 (hi.files f file hf hgone).there).2
    exact (hw f file hf hgone heof).trans hline.symm
  · refine forall_put hw fun file hfile _ heof => ?_
    obtain rfl := Option.some.inj hfile
    cases heof
  · exact forall_put hw nofun
  · refine forall_put hw fun file' hfile' hgone heof => ?_
    obtain rfl := Option.some.inj hfile'
    exact hw f file hf hgone heof
  · refine forall_put hw fun file'' hfile' hgone' heof' => ?_
    obtain rfl := Option.some.inj hfile'
    obtain ⟨hboot, hgone⟩ := next_same hnext
    rw [hgone] at hgone'
    have hr := hi.files f file hf hgone'
    obtain ⟨hmore, hend⟩ := next_end hnext
    rcases hend heof' with heof | ⟨hgot, length, idx, hp, hlen, hload, hle⟩
    · have hbefore : file.got = s.race.line file'.boot := hboot ▸ hw f file hf hgone' heof
      have hafter : file'.got <+: s.race.line file'.boot :=
        hi'.prefix_line (put_files ..) (hgone.trans hgone')
      exact hafter.eq_of_length_le (hbefore ▸ hmore.length_le)
    · rw [hgot, hboot, hr.got_eq hgone' (hi.string hr.there) hload hle]
      exact hended file length idx hf hgone' hp hlen hload hle

/-- A `strlen` that is early gets to another end. -/
theorem not_whole (s : St) (e : Event) (s' : St) (h : Inv s ∧ Whole s) (hearly : ¬ Ended s e)
    (hs : step s e = some s') : ¬ Whole s' := by
  obtain ⟨hi, -⟩ := h
  obtain ⟨e', race', rfl, -, -, rfl⟩ | ⟨f, b, rfl, -, rfl⟩ | ⟨f, rfl, rfl⟩ | ⟨f, length, file,
    rfl, -, rfl⟩ |
    ⟨f, fault, junk, file, file', rfl, hf, hnext, rfl⟩ := step_cases hs
  case inr.inr.inr.inr =>
    rw [Ended] at hearly
    push Not at hearly
    obtain ⟨file₁, length, idx, hf₁, hgone, hp, hlen, hload, hle, hne⟩ := hearly
    obtain rfl : file₁ = file := Option.some.inj (hf₁.symm.trans hf)
    have hr := hi.files f file₁ hf hgone
    have hend :
        ({ file₁ with phase := .rest, eof := file₁.eof || decide (length ≠ 0) } : File) =
        file' := by
      simp only [File.next, hp, hload, ne_eq, not_true_eq_false, if_false, hle, true_or,
        if_true] at hnext
      exact Option.some.inj hnext
    intro hw
    have hgot :=
      hw f file' (put_files ..) (by rw [← hend]; exact hgone) (by rw [← hend]; simp [hlen])
    rw [← hend] at hgot
    exact hne ((hr.got_eq hgone (hi.string hr.there) hload hle).symm.trans hgot)
  all_goals exact absurd trivial hearly

/-- **What a program has got at the end is the whole line**, in every state of a run, exactly if
no `strlen` finds nothing new before `sprintf` has ended. In any case what it has got is a
beginning of the line. Both are said of a file whose boot device is there. -/
theorem whole_iff {es : List Event} {t : St} (hr : run step start es = some t) :
    (Always step Whole start es ↔ Meets step Ended start es) ∧
      ∀ f file, t.files f = some file → file.gone = false → file.got <+: t.race.line file.boot := by
  constructor
  · exact always_iff_meets whole_step (fun _ h => h.2) not_whole ⟨inv_start, nofun⟩ hr
  · exact fun f file hf hgone => (inv_of_run inv_step inv_start hr).prefix_line hf hgone

/-- A file is opened on a boot device that is created. -/
def OpensLive (s : St) : Event → Prop
  | .openFile _ b => s.race.pc b = .live
  | _ => True

/-- The serial number of every boot device with a file is written. -/
def Printed (s : St) : Prop :=
  ∀ f file, s.files f = some file → file.gone = false →
    s.race.boots.serialNumber file.boot = s.race.line file.boot

/-- **One step** where files are opened only then. -/
theorem printed_step (s : St) (e : Event) (s' : St) (h : (Inv s ∧ Whole s) ∧ Printed s)
    (hlive : OpensLive s e) (hs : step s e = some s') : (Inv s' ∧ Whole s') ∧ Printed s' := by
  obtain ⟨hiw, hp⟩ := h
  have hi := hiw.1
  have hended : Ended s e := by
    cases e with
    | next f fault junk => exact fun file _ _ hf hgone _ _ _ _ => hp f file hf hgone
    | _ => trivial
  have hiw' := whole_step s e s' hiw hended hs
  refine ⟨hiw', ?_⟩
  obtain ⟨e', race', rfl, -, hrace, rfl⟩ | ⟨f, b, rfl, -, rfl⟩ | ⟨f, rfl, rfl⟩ | ⟨f, length, file,
    rfl, hf, rfl⟩ |
    ⟨f, fault, junk, file, file', rfl, hf, hnext, rfl⟩ := step_cases hs
  · intro f file' hf' hgone'
    obtain ⟨file, hf, rfl⟩ := Option.map_eq_some_iff.mp hf'
    obtain ⟨hgone, hpc, hsame⟩ := after_eq hgone'
    rw [hsame]
    obtain ⟨hwritten, hkept⟩ := step_written hi.written hrace file.boot
    obtain ⟨hmore, hline⟩ := hkept (hi.files f file hf hgone).there
    have hprinted : race'.line file.boot = s.race.boots.serialNumber file.boot :=
      hline.trans (hp f file hf hgone).symm
    exact (hwritten.isPrefix hpc).eq_of_length_le (hprinted ▸ hmore.length_le)
  · refine forall_put hp fun file hfile _ => ?_
    obtain rfl := Option.some.inj hfile
    have hwritten := hi.written b
    rwa [Written, show s.race.pc b = .live from hlive] at hwritten
  · exact forall_put hp nofun
  · refine forall_put hp fun file' hfile' hgone => ?_
    obtain rfl := Option.some.inj hfile'
    exact hp f file hf hgone
  · refine forall_put hp fun file'' hfile' hgone' => ?_
    obtain rfl := Option.some.inj hfile'
    obtain ⟨hboot, hgone⟩ := next_same hnext
    rw [hboot]
    exact hp f file hf (hgone ▸ hgone')

/-- **Where files are opened only on boot devices that are created**, what a program has got at the
end is the whole line. -/
theorem whole_of_live {es : List Event} (hlive : Meets step OpensLive start es) :
    Always step Whole start es :=
  (always_of_meets printed_step ⟨⟨inv_start, nofun⟩, nofun⟩ hlive).mono fun _ h => h.1.2

end Read

/-! ### A run -/

/-- A program that is told of the node at once reads an empty serial number. -/
def early : List Event :=
  .race (.create 5 Race.serial) :: (List.replicate 3 (.race (.next 5 0)) ++
    [.openFile 1 5, .read 1 64, .next 1 false 0] ++ List.replicate 19 (.race (.next 5 0)))

set_option maxRecDepth 2000 in
theorem whole_early : ∃ t, run step start early = some t ∧ t.race.pc 5 = .live ∧
    ¬ Meets step Ended start early := by
  obtain ⟨t, ht, hlive, hempty⟩ : ∃ t, run step start early = some t ∧ t.race.pc 5 = .live ∧
      t.files 1 = some ⟨5, 0, [], .rest, true, false⟩ := ⟨_, rfl, rfl, rfl⟩
  refine ⟨t, ht, hlive, fun hended => ?_⟩
  have hwhole := ((whole_iff ht).1.mpr hended).last ht 1 _ hempty rfl rfl
  exact absurd hwhole.symm (List.append_ne_nil_of_right_ne_nil _ (List.cons_ne_nil _ _))

end Files

end CanGuru
