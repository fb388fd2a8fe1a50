/-
# Faults that end a reading

Choice and repetition go on behind a failure that is not committed, and behind no other fault.
So a fault is **final** if it is a committed failure, or no failure at all, and a final fault of a
part is the fault of the whole, whatever the parts in front of it have read:

* `bind_error_iff`: a sequence has the faults of its parts;
* `orElse_error_iff`, `many_error_iff`: an alternative at hand, or a list that could end, hides
  a fault just when it is not final;
* `separated1_of_final`, `separated1_oversized`: the same for lists with separators, where the
  elements in front are told by the places between which they stand (`Passes`).

Most parsers have no fault but failures (`Located`); they are left out of account when the other
kind of fault is traced back to its origin.

Outcomes can be compared, so what a parser does at a given place can be decided.
-/
import Mathlib.Logic.Relation
import StoredFunctions.Proofs.Reading.Choice

namespace StoredFunctions

/-- A cursor is known from its document, the name of that and the offset. -/
instance : DecidableEq Cursor := fun c d =>
  decidable_of_iff (c.offset = d.offset ∧ c.source = d.source ∧ c.filename = d.filename)
    ⟨fun h => Cursor.ext h.2.1 h.2.2 h.1, fun h => by simp [h]⟩

deriving instance DecidableEq for Failure, Fault

/-- Two outcomes are equal if their results are, or their faults. -/
instance outcomeDecidableEq {α : Type} [DecidableEq α] : DecidableEq (Except Fault α)
  | .ok v, .ok w => decidable_of_iff (v = w) ⟨congrArg _, Except.ok.inj⟩
  | .error e, .error f => decidable_of_iff (e = f) ⟨congrArg _, Except.error.inj⟩
  | .ok _, .error _ => .isFalse fun h => by cases h
  | .error _, .ok _ => .isFalse fun h => by cases h

theorem Failure.commit_of_committed {f : Failure} (h : f.committed = true) : f.commit = f := by
  obtain ⟨cause, place, committed⟩ := f
  obtain rfl : committed = true := h
  rfl

/-- Whether choice and repetition stop at a fault. -/
def Fault.IsFinal : Fault → Prop
  | .failure f => f.committed = true
  | .oversizedLimit _ => True

namespace Parser

open Relation (ReflTransGen)

variable {α β : Type} {p : Parser α} {ps : List (Parser α)} {separator : Parser β}
  {element : Parser α} {g : Grammar α} {c d : Cursor} {fault : Fault} {v : α} {n : Nat}

/-! ## 1. Sequences and choices -/

theorem bind_of_error {f : α → Parser β} (h : p c = .error fault) : (p >>= f) c = .error fault := by
  simp [bind, StateT.bind, Except.bind, h]

theorem bind_error_iff {f : α → Parser β} :
    (p >>= f) c = .error fault ↔
      p c = .error fault ∨ ∃ a e, p c = .ok (a, e) ∧ f a e = .error fault := by
  constructor
  · intro h
    cases hp : p c with
    | error e =>
      rw [bind_of_error hp] at h
      obtain rfl := Except.error.inj h
      exact .inl rfl
    | ok x =>
      rw [bind_of_ok hp] at h
      exact .inr ⟨x.1, x.2, rfl, h⟩
  · rintro (h | ⟨a, e, ha, h⟩)
    · exact bind_of_error h
    · rw [bind_of_ok ha, h]

theorem pure_ne_error : (pure v : Parser α) c ≠ .error fault := by
  simp [pure_eq]

theorem orElse_error_iff :
    orElse p v c = .error fault ↔ p c = .error fault ∧ fault.IsFinal := by
  unfold orElse
  split
  · rename_i f hf
    split
    · rename_i hc
      rw [hf]
      refine ⟨fun h => ⟨h, ?_⟩, And.left⟩
      obtain rfl := Except.error.inj h
      exact hc
    · rename_i hc
      rw [hf]
      refine ⟨fun h => absurd h (by simp), ?_⟩
      rintro ⟨h, hfinal⟩
      obtain rfl := Except.error.inj h
      exact absurd hfinal hc
  · rename_i hne
    refine ⟨fun h => ⟨h, ?_⟩, And.left⟩
    cases fault with
    | failure f => exact absurd h (hne f)
    | oversizedLimit n => trivial

theorem cut_of_failure {f : Failure} (h : p c = .error (.failure f)) :
    cut p c = .error (.failure f.commit) := by
  rw [cut, h]

theorem cut_oversized_iff :
    cut p c = .error (.oversizedLimit n) ↔ p c = .error (.oversizedLimit n) := by
  unfold cut
  split
  · rename_i f hf
    simp [hf]
  · exact Iff.rfl

/-! ## 2. Repetition -/

/-- An element of a repetition stands between `c` and `d`. -/
def Step (p : Parser α) (c d : Cursor) : Prop := ∃ v, p c = .ok (v, d) ∧ d.distance < c.distance

theorem many_of_final (h : p c = .error fault) (hf : fault.IsFinal) :
    many p c = .error fault := by
  rw [many, h]
  cases fault with
  | failure f => simp [show f.committed = true from hf]
  | oversizedLimit n => rfl

theorem many_of_stalled (h : p c = .ok (v, d)) (hd : ¬ d.distance < c.distance) :
    many p c = .ok ([], c) := by
  rw [many]
  simp [h, hd]

theorem many_of_kept (h : p c = .ok (v, d)) (hd : d.distance < c.distance) :
    many p c = (many p d).map fun x => (v :: x.1, x.2) := by
  cases hm : many p d with
  | ok x => exact many_of_ok h hd hm
  | error fault => exact many_of_error h hd hm

/-- **How a repetition goes on from a place**: its element refuses there, fails for good, takes
nothing, or is kept, and then it goes on behind the element. -/
@[elab_as_elim]
theorem many_induction (p : Parser α) {motive : Cursor → Prop}
    (refused : ∀ c, Refuses p c → motive c)
    (raised : ∀ c fault, p c = .error fault → fault.IsFinal → motive c)
    (stalled : ∀ c v d, p c = .ok (v, d) → ¬ d.distance < c.distance → motive c)
    (kept : ∀ c v d, p c = .ok (v, d) → d.distance < c.distance → motive d → motive c)
    (c : Cursor) : motive c := by
  induction c using many.induct (p := p) with
  | case1 c f hf hcommitted => exact raised c _ hf hcommitted
  | case2 c f hf hcommitted => exact refused c ⟨f, hf, by simpa using hcommitted⟩
  | case3 c fault hne hf =>
    refine raised c fault hf ?_
    cases fault with
    | failure f => exact absurd rfl (hne f)
    | oversizedLimit n => trivial
  | case4 c v d hd hlt _ _ _ ih => exact kept c v d hd hlt ih
  | case5 c v d hd hlt _ _ ih => exact kept c v d hd hlt ih
  | case6 c v d hd hlt => exact stalled c v d hd hlt

/-- **A repetition has just the final faults of its element**, at the place where some elements
have been read. -/
theorem many_error_iff :
    many p c = .error fault ↔
      ∃ d, ReflTransGen (Step p) c d ∧ p d = .error fault ∧ fault.IsFinal := by
  constructor
  · intro h
    induction c using many_induction p with
    | refused c hr => exact absurd ((many_of_refuses hr).symm.trans h) (by simp)
    | raised c e he hfinal =>
      obtain rfl := Except.error.inj ((many_of_final he hfinal).symm.trans h)
      exact ⟨c, .refl, he, hfinal⟩
    | stalled c a e he hlt => exact absurd ((many_of_stalled he hlt).symm.trans h) (by simp)
    | kept c a e he hlt ih =>
      cases hm : many p e with
      | ok x => exact absurd ((many_of_ok he hlt hm).symm.trans h) (by simp)
      | error fault' =>
        obtain rfl := Except.error.inj ((many_of_error he hlt hm).symm.trans h)
        obtain ⟨d, hsteps, hd⟩ := ih hm
        exact ⟨d, .head ⟨a, he, hlt⟩ hsteps, hd⟩
  · rintro ⟨d, hsteps, hd, hf⟩
    induction hsteps using ReflTransGen.head_induction_on with
    | refl => exact many_of_final hd hf
    | head hstep _ ih =>
      obtain ⟨v, hv, hlt⟩ := hstep
      exact many_of_error hv hlt ih

/-! ## 3. Faults that are no failures -/

/-- Whether all faults of a parser are failures. -/
def Located (p : Parser α) : Prop := ∀ c n, p c ≠ .error (.oversizedLimit n)

theorem Mild.located (h : Mild p) : Located p := by
  intro c n hn
  rcases h c with ⟨v, d, hv⟩ | ⟨f, hf, -⟩
  · exact absurd (hn.symm.trans hv) (by simp)
  · exact absurd (hn.symm.trans hf) (by simp)

theorem Located.bind {f : α → Parser β} (hp : Located p) (hf : ∀ a, Located (f a)) :
    Located (p >>= f) := by
  intro c n h
  rcases bind_error_iff.mp h with h | ⟨a, d, -, h⟩
  · exact hp c n h
  · exact hf a d n h

theorem Located.map {f : α → β} (hp : Located p) : Located (f <$> p) := by
  rw [← bind_pure_comp]
  exact hp.bind fun _ => (Mild.pure _).located

theorem Located.many (hp : Located p) : Located (many p) := by
  intro c n h
  obtain ⟨d, -, hd, -⟩ := many_error_iff.mp h
  exact hp d n hd

theorem Located.firstOf (h : ∀ p ∈ ps, Located p) : Located (Parser.firstOf ps) := by
  have hgo : ∀ o, Located (choose o ps) := by
    induction ps with
    | nil =>
      rintro (_ | f) c n hn
      · exact absurd hn (by simp [choose, fail])
      · exact absurd hn (by simp [choose])
    | cons p ps ih =>
      intro o c n hn
      rw [choose_cons] at hn
      split at hn
      · split at hn
        · exact absurd hn (by simp)
        · exact ih (fun q hq => h q (by simp [hq])) _ c n hn
      · exact h p (by simp) c n hn
  exact hgo none

theorem fail_located (cause : Cause) : Located (fail cause : Parser α) := fun _ _ => by simp [fail]

theorem takeWhile1_located (f : Char → Bool) (what : Text) : Located (takeWhile1 f what) := by
  intro c n h
  unfold takeWhile1 at h
  split at h
  · exact fail_located _ _ _ h
  · exact absurd h (by simp)

theorem single_located (wanted : Text) : Located (single wanted) := by
  intro c n h
  unfold single at h
  split at h
  · exact absurd h (by simp)
  · exact fail_located _ _ _ h

theorem tagFolded_located (wanted : Text) : Located (tagFolded wanted) := by
  intro c n h
  unfold tagFolded at h
  split at h
  · exact absurd h (by simp)
  · exact fail_located _ _ _ h

theorem complete_oversized_iff :
    complete p c = .error (.oversizedLimit n) ↔ p c = .error (.oversizedLimit n) := by
  unfold complete
  rw [bind_error_iff, or_iff_left]
  rintro ⟨v, d, -, h⟩
  split at h
  · exact absurd h (by simp)
  · exact fail_located _ _ _ h

/-! ## 4. Lists with separators -/

/-- An element with the separator behind it stands between `c` and `d`. -/
def Passes (element : Parser α) (separator : Parser β) (c d : Cursor) : Prop :=
  ∃ v e s, element c = .ok (v, e) ∧ separator e = .ok (s, d)

/-- Whether a parser takes at least one character. -/
def Advancing (p : Parser α) : Prop := ∀ ⦃c v d⦄, p c = .ok (v, d) → d.distance < c.distance

theorem Sound.advancing (h : Sound p g) (hne : ∀ v t r, g v t r → t ≠ []) : Advancing p := by
  intro c v d hv
  obtain ⟨t, r, hr, rfl, ht⟩ := h hv
  exact Cursor.distance_past_lt hr (hne v t r ht)

/-- Behind a first element, a separator leads on to the element with the fault. -/
theorem many_of_passes {e : Cursor} {s : β} (hadv : Advancing (do let _ ← separator; element))
    (hs : separator c = .ok (s, e)) (h : ReflTransGen (Passes element separator) e d)
    (hd : element d = .error fault) (hf : fault.IsFinal) :
    many (do let _ ← separator; element) c = .error fault := by
  induction h using ReflTransGen.head_induction_on generalizing c s with
  | refl => exact many_of_final (by rw [bind_of_ok hs, hd]) hf
  | head hpass _ ih =>
    obtain ⟨v, e', s', hv, hs'⟩ := hpass
    have hstep : (do let _ ← separator; element) c = .ok (v, e') := by rw [bind_of_ok hs, hv]
    exact many_of_error hstep (hadv hstep) (ih hs')

/-- **A final fault of an element is the fault of the list**, however many elements are in front
of it. -/
theorem separated1_of_final (hadv : Advancing (do let _ ← separator; element))
    (h : ReflTransGen (Passes element separator) c d) (hd : element d = .error fault)
    (hf : fault.IsFinal) : separated1 separator element c = .error fault := by
  cases h using ReflTransGen.head_induction_on with
  | refl => exact bind_of_error hd
  | head hpass h =>
    obtain ⟨v, e, s, hv, hs⟩ := hpass
    rw [separated1, bind_of_ok hv]
    exact bind_of_error (many_of_passes hadv hs h hd hf)

/-- Elements with separators in front, told as elements with separators behind. -/
theorem passes_of_steps {a e : Cursor} {s : β} (hv : element c = .ok (v, a))
    (h : ReflTransGen (Step (do let _ ← separator; element)) a d)
    (hs : separator d = .ok (s, e)) : ReflTransGen (Passes element separator) c e := by
  induction h using ReflTransGen.head_induction_on generalizing c v with
  | refl => exact .single ⟨v, d, s, hv, hs⟩
  | head hstep _ ih =>
    obtain ⟨w, hw, -⟩ := hstep
    obtain ⟨s', b, hs', hw⟩ := bind_ok_iff.mp hw
    exact .head ⟨v, _, s', hv, hs'⟩ (ih hw)

/-- **What is no failure comes from an element**, if it cannot come from a separator. -/
theorem separated1_oversized (hsep : Located separator)
    (h : separated1 separator element c = .error (.oversizedLimit n)) :
    ∃ d, ReflTransGen (Passes element separator) c d ∧ element d = .error (.oversizedLimit n) := by
  rcases bind_error_iff.mp h with h | ⟨v, e, hv, h⟩
  · exact ⟨c, .refl, h⟩
  rcases bind_error_iff.mp h with h | ⟨_, _, -, h⟩
  · obtain ⟨a, hsteps, ha, -⟩ := many_error_iff.mp h
    rcases bind_error_iff.mp ha with ha | ⟨s, d, hs, hd⟩
    · exact absurd ha (hsep _ _)
    · exact ⟨d, passes_of_steps hv hsteps hs, hd⟩
  · exact absurd h pure_ne_error

theorem Located.separated1 (hsep : Located separator) (h : Located element) :
    Located (Parser.separated1 separator element) := by
  intro c n hc
  obtain ⟨d, -, hd⟩ := separated1_oversized hsep hc
  exact h d n hd

end Parser

end StoredFunctions
