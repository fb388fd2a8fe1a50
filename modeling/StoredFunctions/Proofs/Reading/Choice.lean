/-
# Choice and repetition

What a choice or a repetition reads depends on which of its parts refuse, so the statements here
are about one direction each:

* soundness needs nothing: what is read was read by some alternative (`firstOf_ok_iff`), and what
  a repetition reads is a sequence of elements (`Sound.many`);
* completeness names what has to refuse: the alternatives in front of the one that applies, and
  the element behind the last one (`Complete.many`).

An element counts only if it takes at least one character, because a repetition stops at one that
ends where it began.
-/
import StoredFunctions.Proofs.Reading.Grammar

namespace StoredFunctions

/-! ## 1. Sequences of spellings -/

/-- Spellings one behind the other, none of them empty. -/
inductive Grammar.Star {α : Type} (g : Grammar α) : Grammar (List α)
  | nil {r : Text} : Star g [] [] r
  | cons {a : α} {as : List α} {t u r : Text} :
      g a t (u ++ r) → t ≠ [] → Star g as u r → Star g (a :: as) (t ++ u) r

namespace Parser

variable {α β : Type} {p q : Parser α} {ps : List (Parser α)} {g : Grammar α} {c c' : Cursor}
  {v : α}

/-! ## 2. Choice -/

theorem choose_cons (o : Option Failure) :
    choose o (p :: ps) c =
      match p c with
      | .error (.failure f) =>
        if f.committed then .error (.failure f)
        else choose (some (o.elim f (·.further f))) ps c
      | outcome => outcome := by
  cases o <;> rfl

/-- The failure kept of earlier alternatives never decides what is read. -/
theorem choose_ok_congr (o o' : Option Failure) {x : α × Cursor} :
    choose o ps c = .ok x → choose o' ps c = .ok x := by
  induction ps generalizing o o' with
  | nil => cases o <;> simp [choose, fail]
  | cons p ps ih =>
    rw [choose_cons, choose_cons]
    split
    · split
      · exact id
      · exact ih _ _
    · exact id

theorem firstOf_ok_iff :
    firstOf (p :: ps) c = .ok (v, c') ↔
      p c = .ok (v, c') ∨ Refuses p c ∧ firstOf ps c = .ok (v, c') := by
  rw [firstOf, choose_cons]
  constructor
  · intro h
    split at h
    · rename_i f hf
      split at h
      · exact absurd h (by simp)
      · rename_i hc
        exact .inr ⟨⟨f, hf, by simpa using hc⟩, choose_ok_congr _ _ h⟩
    · exact .inl h
  · rintro (h | ⟨⟨f, hf, hc⟩, h⟩)
    · rw [h]
    · simp only [hf, hc, Bool.false_eq_true, if_false]
      exact choose_ok_congr _ _ h

/-- An alternative that refuses leaves the choice to the others. -/
theorem choose_of_refuses {o : Option Failure} (h : Refuses p c) :
    ∃ f, choose o (p :: ps) c = choose (some f) ps c := by
  obtain ⟨f, hf, hc⟩ := h
  refine ⟨o.elim f (·.further f), ?_⟩
  rw [choose_cons]
  simp [hf, hc]

/-- A final failure of an alternative is one of the choice. -/
theorem choose_of_committed {o : Option Failure} {f : Failure} (h : p c = .error (.failure f))
    (hc : f.committed = true) : choose o (p :: ps) c = .error (.failure f) := by
  rw [choose_cons]
  simp [h, hc]

theorem not_firstOf_nil_ok : firstOf ([] : List (Parser α)) c ≠ .ok (v, c') := by
  simp [firstOf, choose, fail]

theorem choose_refuses {o : Option Failure} (ho : ∀ f ∈ o, f.committed = false)
    (h : ∀ p ∈ ps, Refuses p c) : Refuses (choose o ps) c := by
  induction ps generalizing o with
  | nil =>
    cases o with
    | none => exact fail_refuses _
    | some f => exact ⟨f, rfl, ho f rfl⟩
  | cons p ps ih =>
    obtain ⟨f, hf, hc⟩ := h p (by simp)
    rw [Refuses, choose_cons]
    simp only [hf, hc, Bool.false_eq_true, if_false]
    refine ih ?_ fun q hq => h q (by simp [hq])
    rintro k hk
    obtain rfl := Option.some.inj hk
    cases o with
    | none => exact hc
    | some e =>
      have he := ho e rfl
      simp only [Option.elim_some, Failure.further]
      split
      · exact hc
      · exact he

/-- A choice refuses where all alternatives do. -/
theorem firstOf_refuses (h : ∀ p ∈ ps, Refuses p c) : Refuses (firstOf ps) c :=
  choose_refuses (fun _ hf => absurd hf (by simp)) h

/-- An alternative applies when none disagrees with it. -/
theorem firstOf_of_mem (hp : p ∈ ps) (h : p c = .ok (v, c'))
    (hps : ∀ q ∈ ps, q c = .ok (v, c') ∨ Refuses q c) : firstOf ps c = .ok (v, c') := by
  induction ps with
  | nil => exact absurd hp (by simp)
  | cons q ps ih =>
    rcases hps q (by simp) with hq | hq
    · exact firstOf_ok_iff.mpr (.inl hq)
    · refine firstOf_ok_iff.mpr (.inr ⟨hq, ih ?_ fun q' hq' => hps q' (by simp [hq'])⟩)
      rcases List.mem_cons.mp hp with rfl | hp
      · obtain ⟨f, hf, -⟩ := hq
        exact absurd (hf.symm.trans h) (by simp)
      · exact hp

theorem Sound.firstOf (h : ∀ p ∈ ps, Sound p g) : Sound (Parser.firstOf ps) g := by
  intro c v c' hc
  induction ps with
  | nil => exact absurd hc not_firstOf_nil_ok
  | cons p ps ih =>
    rcases firstOf_ok_iff.mp hc with hp | ⟨-, hps⟩
    · exact h p (by simp) hp
    · exact ih (fun q hq => h q (by simp [hq])) hps

/-- A choice does not see the cursor but through its alternatives. -/
theorem firstOf_congr (hne : ps ≠ []) (h : ∀ p ∈ ps, p c = p c') :
    firstOf ps c = firstOf ps c' := by
  have hgo : ∀ {o : Option Failure}, (ps = [] → o ≠ none) → choose o ps c = choose o ps c' := by
    induction ps with
    | nil =>
      intro o ho
      obtain ⟨f, rfl⟩ := Option.ne_none_iff_exists'.mp (ho rfl)
      rfl
    | cons p ps ih =>
      intro o _
      rw [choose_cons, choose_cons, h p (by simp)]
      split
      · split
        · rfl
        · cases ps with
          | nil => rfl
          | cons q ps => exact ih (by simp) (fun q hq => h q (by simp [hq])) (by simp)
      · rfl
  exact hgo fun h0 => absurd h0 hne

theorem firstOf_mild (h : ∀ p ∈ ps, Mild p) : Mild (firstOf ps) := by
  intro c
  by_cases hall : ∀ p ∈ ps, Refuses p c
  · exact .inr (firstOf_refuses hall)
  · left
    induction ps with
    | nil => exact absurd (by simp) hall
    | cons p ps ih =>
      rcases h p (by simp) c with ⟨v, d, hv⟩ | hr
      · exact ⟨v, d, firstOf_ok_iff.mpr (.inl hv)⟩
      · have hrest : ¬ ∀ q ∈ ps, Refuses q c := fun hq => hall (by simpa [hr] using hq)
        obtain ⟨v, d, hv⟩ := ih (fun q hq => h q (by simp [hq])) hrest
        exact ⟨v, d, firstOf_ok_iff.mpr (.inr ⟨hr, hv⟩)⟩

theorem cut_ok_iff : cut p c = .ok (v, c') ↔ p c = .ok (v, c') := by
  unfold cut
  split
  · rename_i f hf
    simp [hf]
  · exact Iff.rfl

theorem Exact.cut (hp : Exact p g) : Exact (Parser.cut p) g :=
  ⟨fun _ _ _ h => hp.sound (cut_ok_iff.mp h),
    fun _ _ _ _ hr hg => cut_ok_iff.mpr (hp.complete hr hg)⟩

theorem orElse_ok_iff {d : α} :
    orElse p d c = .ok (v, c') ↔ p c = .ok (v, c') ∨ Refuses p c ∧ v = d ∧ c' = c := by
  unfold orElse
  constructor
  · intro h
    split at h
    · rename_i f hf
      split at h
      · exact absurd h (by simp)
      · rename_i hc
        rw [Except.ok.injEq, Prod.mk.injEq] at h
        exact .inr ⟨⟨f, hf, by simpa using hc⟩, h.1.symm, h.2.symm⟩
    · exact .inl h
  · rintro (h | ⟨⟨f, hf, hc⟩, rfl, rfl⟩)
    · rw [h]
    · simp [hf, hc]

/-! ## 3. Repetition -/

theorem many_of_refuses (h : Refuses p c) : many p c = .ok ([], c) := by
  obtain ⟨f, hf, hc⟩ := h
  rw [many]
  simp [hf, hc]

theorem many_of_ok {d e : Cursor} {vs : List α} (h : p c = .ok (v, d))
    (hd : d.distance < c.distance) (hm : many p d = .ok (vs, e)) :
    many p c = .ok (v :: vs, e) := by
  rw [many]
  simp [h, hd, hm]

theorem many_of_error {d : Cursor} {fault : Fault} (h : p c = .ok (v, d))
    (hd : d.distance < c.distance) (hm : many p d = .error fault) :
    many p c = .error fault := by
  rw [many]
  simp [h, hd, hm]

/-- **What a repetition reads is a sequence of elements.**  An element that took nothing is
dropped, which is why those of the sequence are not empty. -/
theorem Sound.many (hp : Sound p g) : Sound (many p) g.Star := by
  intro c vs c' h
  induction c using Parser.many.induct (p := p) generalizing vs c' with
  | case1 c f hf hc => rw [Parser.many] at h; simp [hf, hc] at h
  | case2 c f hf hc =>
    rw [many_of_refuses ⟨f, hf, by simpa using hc⟩, Except.ok.injEq, Prod.mk.injEq] at h
    obtain ⟨rfl, rfl⟩ := h
    exact ⟨[], c.rest, rfl, Cursor.past_nil.symm, .nil⟩
  | case3 c fault hne hf => rw [Parser.many] at h; simp [hf] at h
  | case4 c a d hd hlt items last hm ih =>
    rw [many_of_ok hd hlt hm] at h
    obtain ⟨rfl, rfl⟩ := Prod.mk.inj (Except.ok.inj h)
    obtain ⟨t, s, hr, rfl, hg⟩ := hp hd
    obtain ⟨u, r, hr', he, hs⟩ := ih hm
    rw [Cursor.rest_past hr] at hr'
    subst hr'
    refine ⟨t ++ u, r, by rw [hr, List.append_assoc], by rw [he, Cursor.past_past], .cons hg ?_ hs⟩
    rintro rfl
    exact absurd hlt (by simp)
  | case5 c a d hd hlt fault hm ih =>
    exact absurd ((many_of_error hd hlt hm).symm.trans h) (by simp)
  | case6 c a d hd hlt =>
    rw [Parser.many] at h
    simp only [hd, hlt, if_false, Except.ok.injEq, Prod.mk.injEq] at h
    obtain ⟨rfl, rfl⟩ := h
    exact ⟨[], c.rest, rfl, Cursor.past_nil.symm, .nil⟩

/-- **A repetition reads every sequence of elements** behind which the element refuses. -/
theorem Complete.many (hp : Complete p g) {vs : List α} {t r : Text} (h : g.Star vs t r) :
    ∀ {c : Cursor}, c.rest = t ++ r → Refuses p (c.past t) →
      Parser.many p c = .ok (vs, c.past t) := by
  induction h with
  | nil =>
    intro c _ hn
    rw [Cursor.past_nil] at hn ⊢
    exact many_of_refuses hn
  | @cons a as t u r ha hne _ ih =>
    intro c hr hn
    rw [List.append_assoc] at hr
    have hm := ih (Cursor.rest_past hr) (by rwa [Cursor.past_past])
    rw [many_of_ok (hp hr ha) (Cursor.distance_past_lt hr hne) hm, Cursor.past_past]

/-- A repetition of something that reads or refuses always comes to an end with a value. -/
theorem Mild.many (h : Mild p) (c : Cursor) :
    ∃ vs d, Parser.many p c = .ok (vs, d) := by
  induction c using Parser.many.induct (p := p) with
  | case1 c f hf hc =>
    rcases h c with ⟨v, d, hv⟩ | ⟨f', hf', hc'⟩
    · exact absurd (hf.symm.trans hv) (by simp)
    · obtain rfl : f = f' := by simpa [hf] using hf'
      simp [hc'] at hc
  | case2 c f hf hc => exact ⟨[], c, many_of_refuses ⟨f, hf, by simpa using hc⟩⟩
  | case3 c fault hne hf =>
    rcases h c with ⟨v, d, hv⟩ | ⟨f, hf', _⟩
    · exact absurd (hf.symm.trans hv) (by simp)
    · exact absurd (by simpa [hf] using hf') (hne f)
  | case4 c a d hd hlt items last hm _ => exact ⟨a :: items, last, many_of_ok hd hlt hm⟩
  | case5 c a d hd hlt fault hm ih =>
    obtain ⟨vs, e, he⟩ := ih
    exact absurd (hm.symm.trans he) (by simp)
  | case6 c a d hd hlt =>
    refine ⟨[], c, ?_⟩
    rw [Parser.many]
    simp [hd, hlt]

/-! ## 4. The end of the document -/

theorem complete_ok_iff : complete p c = .ok (v, c') ↔ p c = .ok (v, c') ∧ c'.rest = [] := by
  unfold complete
  rw [bind_ok_iff]
  constructor
  · rintro ⟨a, d, hp, h⟩
    split at h
    · rename_i he
      obtain ⟨rfl, rfl⟩ := Prod.mk.inj (Except.ok.inj h)
      exact ⟨hp, by simpa [Cursor.atEnd] using he⟩
    · exact absurd h (by simp [fail])
  · rintro ⟨hp, hr⟩
    exact ⟨v, c', hp, by simp [Cursor.atEnd, hr]⟩

end Parser

end StoredFunctions
