/-
# Outcomes

Computations that stop at an error: what a result of a sequence says about its parts
(`except_bind_ok_iff`), and what a result for a list says about its elements (`mapM_ok_iff`,
`mapM_ok_iff_map`).

Computations that change a state and may stop at an error keep the state in which they stop
(`run_bind`).
-/

namespace StoredFunctions

variable {α β ε : Type}

theorem except_ok_bind {a : α} {f : α → Except ε β} : (Except.ok a >>= f) = f a := rfl

/-- Whether there is a given result can be decided without a look at the errors. -/
theorem ok_of_toOption {o : Except ε α} {v : α} (h : o.toOption = some v) : o = .ok v := by
  cases o with
  | error e => exact absurd h (by simp [Except.toOption])
  | ok w => exact congrArg Except.ok (Option.some.inj h)

theorem except_bind_ok_iff {o : Except ε α} {f : α → Except ε β} {b : β} :
    (o >>= f) = .ok b ↔ ∃ a, o = .ok a ∧ f a = .ok b := by
  cases o with
  | error e => simp [bind, Except.bind]
  | ok a => simp [bind, Except.bind]

theorem except_map_ok_iff {o : Except ε α} {f : α → β} {b : β} :
    (do pure (f (← o)) : Except ε β) = .ok b ↔ ∃ a, o = .ok a ∧ b = f a := by
  cases o with
  | error e => simp [bind, Except.bind]
  | ok a => simp [bind, Except.bind, pure, Except.pure, eq_comm]

/-- **A check of each element is a check of the list.** -/
theorem mapM_ok_iff {f : α → Except ε β} {P : α → Prop} {g : α → β}
    (hf : ∀ a b, f a = .ok b ↔ P a ∧ b = g a) {l : List α} :
    ∀ {bs : List β}, l.mapM f = .ok bs ↔ (∀ a ∈ l, P a) ∧ bs = l.map g := by
  induction l with
  | nil => simp [pure, Except.pure, eq_comm]
  | cons a l ih =>
    intro bs
    simp only [List.mapM_cons, except_bind_ok_iff, hf, ih, List.forall_mem_cons, List.map_cons]
    constructor
    · rintro ⟨_, ⟨ha, rfl⟩, _, ⟨hl, rfl⟩, ⟨⟩⟩
      exact ⟨⟨ha, hl⟩, rfl⟩
    · rintro ⟨⟨ha, hl⟩, rfl⟩
      exact ⟨g a, ⟨ha, rfl⟩, l.map g, ⟨hl, rfl⟩, rfl⟩

/-- The results for a list are those of its elements. -/
theorem mapM_ok_iff_map {f : α → Except ε β} {l : List α} :
    ∀ {bs : List β}, l.mapM f = .ok bs ↔ l.map f = bs.map .ok := by
  induction l with
  | nil => simp [pure, Except.pure, eq_comm]
  | cons a l ih =>
    intro bs
    simp only [List.mapM_cons, except_bind_ok_iff, ih, List.map_cons]
    constructor
    · rintro ⟨b, hb, bs, hbs, ⟨⟩⟩
      rw [hb, hbs, List.map_cons]
    · intro h
      obtain ⟨b, bs, rfl, hb, hbs⟩ := List.map_eq_cons_iff.mp h.symm
      exact ⟨b, hb.symm, bs, hbs.symm, rfl⟩

/-- **The first element with an error** gives the error for a list. -/
theorem mapM_error_iff {f : α → Except ε β} {e : ε} {l : List α} :
    l.mapM f = .error e ↔ ∃ front a behind, l = front ++ a :: behind ∧ f a = .error e ∧
      ∀ b ∈ front, ∃ v, f b = .ok v := by
  induction l with
  | nil => simp [pure, Except.pure]
  | cons a l ih =>
    rw [List.mapM_cons]
    cases ha : f a with
    | error e' =>
      constructor
      · intro h
        obtain rfl : e' = e := by simpa [bind, Except.bind] using h
        exact ⟨[], a, l, rfl, ha, by simp⟩
      · rintro ⟨front, b, behind, hl, hb, hfront⟩
        cases front with
        | nil =>
          obtain ⟨rfl, -⟩ := List.cons.inj hl
          obtain rfl : e' = e := Except.error.inj (ha.symm.trans hb)
          rfl
        | cons c front =>
          obtain ⟨rfl, -⟩ := List.cons.inj hl
          obtain ⟨v, hv⟩ := hfront a List.mem_cons_self
          exact absurd (ha.symm.trans hv) (by simp)
    | ok v =>
      have hrest : (do pure (v :: (← l.mapM f)) : Except ε (List β)) = .error e ↔
          l.mapM f = .error e := by
        cases l.mapM f with
        | error e' => simp [bind, Except.bind]
        | ok vs => simp [bind, Except.bind, pure, Except.pure]
      refine hrest.trans (ih.trans ?_)
      constructor
      · rintro ⟨front, b, behind, rfl, hb, hfront⟩
        exact ⟨a :: front, b, behind, rfl, hb, List.forall_mem_cons.mpr ⟨⟨v, ha⟩, hfront⟩⟩
      · rintro ⟨front, b, behind, hl, hb, hfront⟩
        cases front with
        | nil =>
          obtain ⟨rfl, -⟩ := List.cons.inj hl
          exact absurd (ha.symm.trans hb) (by simp)
        | cons c front =>
          obtain ⟨-, rfl⟩ := List.cons.inj hl
          exact ⟨front, b, behind, rfl, hb, (List.forall_mem_cons.mp hfront).2⟩

/-- An error for a list is that of one of its elements. -/
theorem exists_of_mapM_error {f : α → Except ε β} {e : ε} {l : List α} (h : l.mapM f = .error e) :
    ∃ i : Nat, (l.map f)[i]? = some (.error e) := by
  obtain ⟨front, a, behind, rfl, ha, -⟩ := mapM_error_iff.mp h
  exact ⟨front.length, by simp [ha]⟩

/-- What never fails for an element never fails for a list. -/
theorem mapM_of_ok {f : α → Except ε β} {g : α → β} (hf : ∀ a, f a = .ok (g a)) (l : List α) :
    l.mapM f = .ok (l.map g) := by
  obtain rfl : f = fun a => pure (g a) := funext hf
  exact List.mapM_pure

/-- What agrees on the elements of a list agrees on the list. -/
theorem mapM_congr {f g : α → Except ε β} {l : List α} (h : ∀ a ∈ l, f a = g a) :
    l.mapM f = l.mapM g := by
  induction l with
  | nil => rfl
  | cons a l ih =>
    obtain ⟨ha, hl⟩ := List.forall_mem_cons.mp h
    rw [List.mapM_cons, List.mapM_cons, ha, ih hl]

/-! ## Computations with a state -/

section

variable {σ : Type} {x : ExceptT ε (StateM σ) α} {f : α → ExceptT ε (StateM σ) β} {s s' : σ} {a : α}
  {e : ε}

theorem run_bind : (x >>= f).run s = match x.run s with
    | (.ok a, s') => (f a).run s'
    | (.error e, s') => (.error e, s') := by
  have hbind : (x >>= f).run s = (match x.run s with | (o, s') => ExceptT.bindCont f o s') := rfl
  rw [hbind]
  rcases x.run s with ⟨_ | _, s'⟩
  · rfl
  · rfl

theorem run_bind_ok (h : x.run s = (.ok a, s')) : (x >>= f).run s = (f a).run s' := by
  rw [run_bind, h]

theorem run_bind_error (h : x.run s = (.error e, s')) : (x >>= f).run s = (.error e, s') := by
  rw [run_bind, h]

theorem run_get : (get : ExceptT ε (StateM σ) σ).run s = (.ok s, s) := rfl

end

end StoredFunctions
