/-
# Settings that a pool can use

Reading the settings of a pool is forgiving but for two values.  They stand in the section of the
mode: an infinite number of workers, and a time limit that is an integer beyond all double-precision
numbers (`Usable` says that neither does).  Once the mode is known, the settings are read exactly if
they are usable (`exists_defaults_iff`).
-/
import StoredFunctions.Pool.Defaults
import StoredFunctions.Proofs.Outcome

namespace StoredFunctions.Pool

variable {settings own : Section} {requested : Option Text} {word : Text} {mode : Mode}
  {found : Defaults} {v : Value}

/-! ## 1. Numbers -/

theorem exists_count?_iff :
    (∃ workers, count? v = .ok workers) ↔ ∀ negative, v ≠ .float (.infinite negative) := by
  constructor
  · rintro ⟨workers, h⟩ negative rfl
    exact absurd h (by simp [count?])
  · intro h
    unfold count?
    split
    case h_3 negative => exact absurd rfl (h negative)
    all_goals exact ⟨_, rfl⟩

theorem exists_seconds?_iff :
    (∃ timeout, seconds? v = .ok timeout) ↔ ∀ n, v = .int n → Binary64.ofInt? n ≠ none := by
  constructor
  · rintro ⟨timeout, h⟩ n rfl hn
    exact absurd h (by simp [seconds?, hn])
  · intro h
    unfold seconds?
    split
    case h_2 n =>
      obtain ⟨x, hx⟩ := Option.ne_none_iff_exists'.mp (h n rfl)
      exact ⟨some x, by rw [hx]⟩
    all_goals exact ⟨_, rfl⟩

/-! ## 2. Sections -/

/-- The numbers in the section of a mode can be used. -/
structure Usable (own : Section) : Prop where
  workers : ∀ negative, Value.find? "max_workers" own ≠ some (.float (.infinite negative))
  timeout : ∀ n, Value.find? "timeout" own = some (.int n) → Binary64.ofInt? n ≠ none

theorem getD_null_eq_iff {name : Text} (hv : v ≠ .null) :
    (Value.find? name own).getD .null = v ↔ Value.find? name own = some v := by
  cases Value.find? name own with
  | none => simp [hv.symm]
  | some w => simp

theorem usable_iff :
    Usable own ↔
      (∃ workers, count? ((Value.find? "max_workers" own).getD .null) = .ok workers) ∧
        ∃ timeout, seconds? ((Value.find? "timeout" own).getD .null) = .ok timeout := by
  have hworkers : ∀ negative,
      (Value.find? "max_workers" own).getD .null = .float (.infinite negative) ↔
        Value.find? "max_workers" own = some (.float (.infinite negative)) :=
    fun negative => getD_null_eq_iff (by simp)
  have htimeout : ∀ n, (Value.find? "timeout" own).getD .null = .int n ↔
      Value.find? "timeout" own = some (.int n) := fun n => getD_null_eq_iff (by simp)
  simp only [exists_count?_iff, exists_seconds?_iff, ne_eq, hworkers, htimeout]
  exact ⟨fun h => ⟨h.workers, h.timeout⟩, fun h => ⟨h.1, h.2⟩⟩

/-! ## 3. Modes -/

/-- Settings ask for a mode. -/
def Asks (settings : Section) (requested : Option Text) (mode : Mode) : Prop :=
  ∃ word, modeWord settings requested = .ok word ∧ Mode.ofText? word = some mode

theorem defaults_of_asks (h : Asks settings requested mode) :
    defaults settings requested = (do
      let workers ← count? ((Value.find? "max_workers" (modeSection settings mode)).getD .null)
      let timeout ← seconds? ((Value.find? "timeout" (modeSection settings mode)).getD .null)
      pure ⟨mode, workers, timeout⟩) := by
  obtain ⟨word, hword, hmode⟩ := h
  simp only [defaults, hword, hmode, bind, Except.bind]

theorem mode_of_defaults (h : Asks settings requested mode)
    (hfound : defaults settings requested = .ok found) : found.mode = mode := by
  rw [defaults_of_asks h] at hfound
  simp only [except_bind_ok_iff] at hfound
  obtain ⟨workers, -, timeout, -, ⟨⟩⟩ := hfound
  rfl

/-- **Settings that ask for a mode** can be read exactly if its section is usable. -/
theorem exists_defaults_iff (h : Asks settings requested mode) :
    (∃ found, defaults settings requested = .ok found) ↔ Usable (modeSection settings mode) := by
  simp only [defaults_of_asks h, usable_iff, except_bind_ok_iff]
  constructor
  · rintro ⟨found, workers, hworkers, timeout, htimeout, -⟩
    exact ⟨⟨workers, hworkers⟩, ⟨timeout, htimeout⟩⟩
  · rintro ⟨⟨workers, hworkers⟩, ⟨timeout, htimeout⟩⟩
    exact ⟨_, workers, hworkers, timeout, htimeout, rfl⟩

end StoredFunctions.Pool
