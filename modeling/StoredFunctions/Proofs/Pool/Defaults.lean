/-
# What pool settings come to

Settings are meant to be forgiven everything but the mode: either they name no mode, which is
reported, or they are read, and a number that stands for none counts as not given.  `Settled` says
that, with what a value stands for (`Counts`, `Lasts`) taken apart from its reading.

Two numbers escape this (`Escapes`): an infinite number of workers, and a time limit beyond the
double-precision numbers.  There is nothing else that settings do not come to.  Whatever was read, a
pool then has as many workers as it can use (`Fits`).
-/
import StoredFunctions.Proofs.Numbers.Range
import StoredFunctions.Proofs.Pool.Settings

namespace StoredFunctions.Pool

variable {settings : Section} {requested : Option Text} {word : Text} {mode : Mode}
  {found : Defaults} {e : SettingError} {v : Value} {n : Int} {x : Binary64}

/-! ## 1. What values stand for -/

/-- A value stands for a whole number; that of a fraction is the next one in the direction of
zero. -/
inductive Counts : Value → Int → Prop
  | bool (b : Bool) : Counts (.bool b) (if b then 1 else 0)
  | int (n : Int) : Counts (.int n) n
  | float {negative : Bool} {mantissa num den whole : Nat} {exponent : Int} :
      Binary64.fraction mantissa exponent = (num, den) → whole * den ≤ num →
        num < (whole + 1) * den →
        Counts (.float (.finite negative mantissa exponent)) (Binary64.signed negative whole)
  | text {t : Text} {n : Int} : Numbers.readInt? t = some n → Counts (.text t) n
  | bytes {b : List UInt8} {t : Text} {n : Int} :
      asciiText? b = some t → Numbers.readInt? t = some n → Counts (.bytes b) n

/-- A value stands for a number of seconds. -/
inductive Lasts : Value → Binary64 → Prop
  | bool {b : Bool} {x : Binary64} :
      Binary64.ofInt? (if b then 1 else 0) = some x → Lasts (.bool b) x
  | int {n : Int} {x : Binary64} : Binary64.ofInt? n = some x → Lasts (.int n) x
  | float (x : Binary64) : Lasts (.float x) x
  | text {t : Text} {x : Binary64} : Numbers.readFloat? t = some x → Lasts (.text t) x
  | bytes {b : List UInt8} {t : Text} {x : Binary64} :
      asciiText? b = some t → Numbers.readFloat? t = some x → Lasts (.bytes b) x

theorem fraction_den_pos {mantissa : Nat} {exponent : Int} :
    0 < (Binary64.fraction mantissa exponent).2 := by
  cases exponent with
  | ofNat k => exact Nat.one_pos
  | negSucc k => rw [Binary64.fraction, Binary64.scale, Nat.one_shiftLeft]; exact Nat.two_pow_pos _

theorem truncate?_some_iff : x.truncate? = some n ↔ Counts (.float x) n := by
  constructor
  · intro h
    match x, h with
    | .finite negative mantissa exponent, h =>
      obtain rfl := Option.some.inj h
      refine .float rfl (Nat.div_mul_le_self _ _) ?_
      rw [Nat.add_mul, Nat.one_mul]
      exact Nat.lt_div_mul_add fraction_den_pos
  · rintro (_ | _ | ⟨hfraction, hle, hlt⟩)
    rw [Binary64.truncate?, hfraction]
    simp only [Nat.div_eq_of_lt_le hle hlt]
    rfl

/-- A whole number that is found is the one that the value stands for. -/
theorem count?_some_iff : count? v = .ok (some n) ↔ Counts v n := by
  constructor
  · intro h
    unfold count? at h
    split at h <;> simp only [Except.ok.injEq, Option.some.injEq, reduceCtorEq] at h
    case h_1 b => exact h ▸ .bool b
    case h_2 m => exact h ▸ .int m
    case h_4 x _ => exact truncate?_some_iff.mp h
    case h_5 t => exact .text h
    case h_6 b =>
      obtain ⟨t, ht, hn⟩ := Option.bind_eq_some_iff.mp h
      exact .bytes ht hn
  · intro h
    cases h with
    | bool b => rfl
    | int n => rfl
    | float hfraction hle hlt =>
      exact congrArg Except.ok (truncate?_some_iff.mpr (.float hfraction hle hlt))
    | text hn => exact congrArg Except.ok hn
    | bytes ht hn => exact congrArg Except.ok (Option.bind_eq_some_iff.mpr ⟨_, ht, hn⟩)

/-- A number of seconds that is found is the one that the value stands for. -/
theorem seconds?_some_iff : seconds? v = .ok (some x) ↔ Lasts v x := by
  constructor
  · intro h
    unfold seconds? at h
    split at h
    case h_1 b => exact .bool (Except.ok.inj h)
    case h_2 n =>
      split at h
      · rename_i y hy
        obtain rfl := Option.some.inj (Except.ok.inj h)
        exact .int hy
      · exact absurd h (by simp)
    case h_3 y =>
      obtain rfl := Option.some.inj (Except.ok.inj h)
      exact .float y
    case h_4 t => exact .text (Except.ok.inj h)
    case h_5 b =>
      obtain ⟨t, ht, hx⟩ := Option.bind_eq_some_iff.mp (Except.ok.inj h)
      exact .bytes ht hx
    all_goals exact absurd h (by simp)
  · intro h
    cases h with
    | bool hx => exact congrArg Except.ok hx
    | int hx => rw [seconds?, hx]
    | float x => rfl
    | text hx => exact congrArg Except.ok hx
    | bytes ht hx => exact congrArg Except.ok (Option.bind_eq_some_iff.mpr ⟨_, ht, hx⟩)

/-! ## 2. What settings come to -/

/-- **What forgiving settings come to**: an error about the word for the mode, or the mode that they
ask for, with those numbers that the section of the mode gives. -/
inductive Settled (settings : Section) (requested : Option Text) :
    Except SettingError Defaults → Prop
  /-- The word names no mode. -/
  | unknown {word : Text} : modeWord settings requested = .ok word →
      (∀ mode : Mode, mode.text ≠ word) → Settled settings requested (.error (.unknownMode word))
  /-- There is an integer in place of the word that is too long to be one. -/
  | unshowable : modeWord settings requested = .error .unshowableMode →
      Settled settings requested (.error .unshowableMode)
  | read {found : Defaults} : Asks settings requested found.mode →
      (∀ n, found.workers = some n ↔
        ∃ v, Value.find? "max_workers" (modeSection settings found.mode) = some v ∧ Counts v n) →
      (∀ x, found.timeout = some x ↔
        ∃ v, Value.find? "timeout" (modeSection settings found.mode) = some v ∧ Lasts v x) →
      Settled settings requested (.ok found)

/-- The numbers that are not forgiven, with their errors. -/
inductive Escapes (settings : Section) (requested : Option Text) : SettingError → Prop
  | infinite {mode : Mode} {negative : Bool} : Asks settings requested mode →
      Value.find? "max_workers" (modeSection settings mode) = some (.float (.infinite negative)) →
      Escapes settings requested .infiniteCount
  /-- The workers are read first. -/
  | huge {mode : Mode} {n : Int} : Asks settings requested mode →
      (∀ negative, Value.find? "max_workers" (modeSection settings mode) ≠
        some (.float (.infinite negative))) →
      Value.find? "timeout" (modeSection settings mode) = some (.int n) →
      Binary64.overflow ≤ n.natAbs → Escapes settings requested .hugeTimeout

theorem Mode.ofText?_eq_some_iff : Mode.ofText? word = some mode ↔ mode.text = word := by
  constructor
  · intro h
    simpa using List.find?_some h
  · rintro rfl
    cases mode <;> decide +kernel

theorem modeWord_error (h : modeWord settings requested = .error e) : e = .unshowableMode := by
  unfold modeWord at h
  split at h
  · exact absurd h (by simp)
  split at h
  · exact absurd h (by simp)
  split at h
  · exact absurd h (by simp)
  · exact (Except.error.inj h).symm

/-- Settings that ask for no mode come to an error about its word. -/
theorem settled_of_not_asks (h : ∀ mode, ¬ Asks settings requested mode) :
    Settled settings requested (defaults settings requested) := by
  cases hword : modeWord settings requested with
  | error e =>
    obtain rfl := modeWord_error hword
    have hdefaults : defaults settings requested = .error .unshowableMode := by
      simp only [defaults, hword, bind, Except.bind]
    rw [hdefaults]
    exact .unshowable hword
  | ok word =>
    have hnone : Mode.ofText? word = none := by
      cases hmode : Mode.ofText? word with
      | none => rfl
      | some mode => exact absurd ⟨word, hword, hmode⟩ (h mode)
    have hdefaults : defaults settings requested = .error (.unknownMode word) := by
      simp only [defaults, hword, hnone, bind, Except.bind]
    rw [hdefaults]
    refine .unknown hword fun mode hmode => ?_
    exact absurd (hnone.symm.trans (Mode.ofText?_eq_some_iff.mpr hmode)) (by simp)

theorem Escapes.defaults_eq (h : Escapes settings requested e) :
    defaults settings requested = .error e := by
  cases h with
  | infinite hasks hworkers =>
    simp only [defaults_of_asks hasks, hworkers, Option.getD_some, count?]
    rfl
  | huge hasks hworkers htimeout hhuge =>
    obtain ⟨workers, hcount⟩ := exists_count?_iff.mpr fun negative h =>
      hworkers negative ((getD_null_eq_iff (by simp)).mp h)
    have hnone := Binary64.ofInt?_eq_none_iff.mpr hhuge
    simp only [defaults_of_asks hasks, hcount, htimeout, Option.getD_some, seconds?, hnone]
    rfl

/-- Where nothing escapes, the section of the mode is usable. -/
theorem usable_of_not_escapes (hasks : Asks settings requested mode)
    (h : ∀ e, ¬ Escapes settings requested e) : Usable (modeSection settings mode) := by
  have hworkers : ∀ negative, Value.find? "max_workers" (modeSection settings mode) ≠
      some (.float (.infinite negative)) := fun negative hfind => h _ (.infinite hasks hfind)
  refine ⟨hworkers, fun n hfind hnone => ?_⟩
  exact h _ (.huge hasks hworkers hfind (Binary64.ofInt?_eq_none_iff.mp hnone))

/-- An entry that is missing is read as nothing, which stands for no number. -/
theorem getD_null_iff {P : Value → Prop} {name : Text} {own : Section} (hnull : ¬ P .null) :
    P ((Value.find? name own).getD .null) ↔ ∃ v, Value.find? name own = some v ∧ P v := by
  cases Value.find? name own with
  | none => simpa using hnull
  | some v => simp

/-- Settings that are read say what the section of their mode says. -/
theorem settled_of_defaults (hasks : Asks settings requested mode)
    (h : defaults settings requested = .ok found) : Settled settings requested (.ok found) := by
  rw [defaults_of_asks hasks] at h
  simp only [except_bind_ok_iff] at h
  obtain ⟨workers, hworkers, timeout, htimeout, ⟨⟩⟩ := h
  refine .read hasks (fun n => ?_) fun x => ?_
  · have hnull : ¬ Counts .null n := by rintro ⟨⟩
    rw [← getD_null_iff (P := (Counts · n)) hnull, ← count?_some_iff, hworkers, Except.ok.injEq]
  · have hnull : ¬ Lasts .null x := by rintro ⟨⟩
    rw [← getD_null_iff (P := (Lasts · x)) hnull, ← seconds?_some_iff, htimeout, Except.ok.injEq]

theorem settled_iff_not_escapes :
    Settled settings requested (defaults settings requested) ↔
      ∀ e, ¬ Escapes settings requested e := by
  constructor
  · intro h e hescapes
    rw [hescapes.defaults_eq] at h
    cases h <;> cases hescapes
  · intro h
    by_cases hasks : ∃ mode, Asks settings requested mode
    · obtain ⟨mode, hasks⟩ := hasks
      obtain ⟨found, hfound⟩ := (exists_defaults_iff hasks).mpr (usable_of_not_escapes hasks h)
      rw [hfound]
      exact settled_of_defaults hasks hfound
    · exact settled_of_not_asks (not_exists.mp hasks)

/-! ## 3. Sizes -/

/-- A number of workers fits: there is one at least, there are no more than tasks, and no more than
asked for, if any were. -/
structure Fits (workers : Nat) (configured : Option Int) (tasks : Nat) : Prop where
  pos : 1 ≤ workers
  tasks : workers ≤ max 1 tasks
  configured : ∀ n, configured = some n → 0 < n → workers ≤ n

theorem size_fits (mode : Mode) (configured : Option Int) (processors : Option Nat) (tasks : Nat) :
    Fits (size mode configured processors tasks) configured tasks := by
  unfold size
  simp only
  split
  · refine ⟨by omega, Nat.min_le_right _ _, fun n h _ => ?_⟩
    obtain rfl := Option.some.inj h
    exact Int.ofNat_le.mpr (Nat.min_le_left _ _)
  · rename_i hnot
    have hfits : ∀ size, 1 ≤ size → size ≤ max 1 tasks → Fits size configured tasks := by
      refine fun size hpos htasks => ⟨hpos, htasks, fun n hn hn_pos => ?_⟩
      match n, hn_pos with
      | .ofNat (k + 1), _ => exact (hnot k hn).elim
    cases mode with
    | process =>
      exact hfits _ (Nat.le_min.mpr ⟨by split <;> omega, by omega⟩) (Nat.min_le_right _ _)
    | thread => exact hfits _ (Nat.le_max_left _ _) (by simp only; omega)

/-! ## 4. All settings -/

/-- **Settings are forgiven everything but the mode, and two numbers.**  They come to what forgiving
settings come to exactly if no number escapes; one that does is the error.  Whatever they come to,
the number of workers that a pool is given fits. -/
theorem defaults_settled (settings : Section) (requested : Option Text) :
    (Settled settings requested (defaults settings requested) ↔
      ∀ e, ¬ Escapes settings requested e) ∧
      (∀ e, Escapes settings requested e → defaults settings requested = .error e) ∧
      ∀ mode configured processors tasks,
        Fits (size mode configured processors tasks) configured tasks := by
  refine ⟨settled_iff_not_escapes, ?_, ?_⟩
  · intro e h
    exact h.defaults_eq
  · intro mode configured processors tasks
    exact size_fits mode configured processors tasks

theorem find?_singleton {name : Text} : Value.find? name [(.text name, v)] = some v := by
  simp [Value.find?, Value.isText]

/-- A time limit that no double-precision number reaches is not taken for one that is not given. -/
theorem huge_limit_escapes :
    let settings : Section :=
      [(.text "thread", .table [(.text "timeout", .int (.ofNat (Nat.pow 10 400)))])]
    Asks settings none .thread ∧ defaults settings none = .error .hugeTimeout ∧
      ¬ Settled settings none (defaults settings none) := by
  intro settings
  have hword : Value.find? "default_mode" settings = none := by decide +kernel
  have hasks : Asks settings none .thread :=
    ⟨"thread", by simp only [modeWord, hword], by decide +kernel⟩
  have hown : modeSection settings .thread =
      [(.text "timeout", .int (.ofNat (Nat.pow 10 400)))] := by
    simp only [modeSection, settings, Mode.text, find?_singleton]
  have hworkers : Value.find? "max_workers" (modeSection settings .thread) = none := by
    rw [hown]
    decide +kernel
  have htimeout : Value.find? "timeout" (modeSection settings .thread) =
      some (.int (.ofNat (Nat.pow 10 400))) := by rw [hown, find?_singleton]
  have hread : defaults settings none = .error .hugeTimeout :=
    (Escapes.huge hasks (by simp [hworkers]) htimeout (by decide +kernel)).defaults_eq
  refine ⟨hasks, hread, ?_⟩
  rw [hread]
  rintro ⟨⟩

end StoredFunctions.Pool
