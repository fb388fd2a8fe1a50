/-
# Grammars, and the parsers that read them

A **grammar** relates a value, a text that spells it, and the text behind that one.  The third
part is needed because a spelling may depend on what follows it: a bare word ends only where no
word character follows.

A parser is **sound** for a grammar when it reads nothing else, and **complete** when it reads
everything the grammar relates; it is **exact** when it is both.  Choice and repetition go on only
behind a failure that is not committed, so there is a third notion, `Refuses`.

The combinators follow: sequences of exact parsers are exact (`Exact.bind`), and for choice and
repetition there is one lemma for each direction.
-/
import StoredFunctions.Proofs.Reading.Cursor
import StoredFunctions.Source.Parser

namespace StoredFunctions

/-- `g v t r`: in front of `r`, the text `t` spells `v`. -/
abbrev Grammar (α : Type) := α → Text → Text → Prop

/-- One grammar after the other, the second chosen by the value of the first. -/
def Grammar.andThen {α β : Type} (g : Grammar α) (h : α → Grammar β) : Grammar β :=
  fun v t r => ∃ a t₁ t₂, t = t₁ ++ t₂ ∧ g a t₁ (t₂ ++ r) ∧ h a v t₂ r

namespace Parser

variable {α β : Type} {p q : Parser α} {g : Grammar α} {c c' : Cursor}

/-! ## 1. The three notions -/

/-- Whatever `p` reads is spelt by the grammar. -/
def Sound (p : Parser α) (g : Grammar α) : Prop :=
  ∀ ⦃c v c'⦄, p c = .ok (v, c') → ∃ t r, c.rest = t ++ r ∧ c' = c.past t ∧ g v t r

/-- Whatever the grammar spells is read by `p`, and nothing behind it. -/
def Complete (p : Parser α) (g : Grammar α) : Prop :=
  ∀ ⦃c v t r⦄, c.rest = t ++ r → g v t r → p c = .ok (v, c.past t)

/-- `p` reads just what the grammar spells. -/
structure Exact (p : Parser α) (g : Grammar α) : Prop where
  sound : Sound p g
  complete : Complete p g

/-- `p` fails at `c` and leaves the way open for another parser. -/
def Refuses (p : Parser α) (c : Cursor) : Prop :=
  ∃ f : Failure, p c = .error (.failure f) ∧ f.committed = false

/-- `p` never fails for good: where it does not read, it refuses. -/
def Mild (p : Parser α) : Prop := ∀ c, (∃ v d, p c = .ok (v, d)) ∨ Refuses p c

theorem Sound.mono {h : Grammar α} (hp : Sound p g) (hgh : ∀ v t r, g v t r → h v t r) :
    Sound p h := by
  intro c v c' hc
  obtain ⟨t, r, hr, he, hg⟩ := hp hc
  exact ⟨t, r, hr, he, hgh v t r hg⟩

theorem Exact.congr {h : Grammar α} (hp : Exact p g) (hgh : ∀ v t r, g v t r ↔ h v t r) :
    Exact p h :=
  ⟨hp.sound.mono fun v t r => (hgh v t r).mp,
    fun _ v t r hr hh => hp.complete hr ((hgh v t r).mpr hh)⟩

/-- **An exact parser makes its grammar unambiguous**: two spellings that begin at the same place
are the same, and so are their values. -/
theorem Complete.unique (hp : Complete p g) {v w : α} {t u r s : Text} (hg : g v t r)
    (hh : g w u s) (h : t ++ r = u ++ s) : v = w ∧ t = u ∧ r = s := by
  have hr : (Cursor.ofSource (t ++ r) []).rest = t ++ r := rfl
  have h₁ := hp hr hg
  have h₂ := hp (hr.trans h) hh
  rw [h₁] at h₂
  obtain ⟨rfl, he⟩ := Prod.mk.inj (Except.ok.inj h₂)
  obtain rfl := Cursor.past_inj hr (hr.trans h) he
  exact ⟨rfl, rfl, List.append_cancel_left h⟩

/-! ## 2. Sequences -/

theorem bind_ok_iff {f : α → Parser β} {v : β} :
    (p >>= f) c = .ok (v, c') ↔ ∃ a d, p c = .ok (a, d) ∧ f a d = .ok (v, c') := by
  constructor
  · intro h
    cases hp : p c with
    | error e =>
      have he : (p >>= f) c = .error e := by simp [bind, StateT.bind, Except.bind, hp]
      rw [he] at h
      exact absurd h (by simp)
    | ok x =>
      refine ⟨x.1, x.2, rfl, ?_⟩
      simpa [bind, StateT.bind, Except.bind, hp] using h
  · rintro ⟨a, d, hp, hf⟩
    simpa [bind, StateT.bind, Except.bind, hp] using hf

theorem bind_of_ok {f : α → Parser β} {a : α} {d : Cursor} (hp : p c = .ok (a, d)) :
    (p >>= f) c = f a d := by
  simp [bind, StateT.bind, Except.bind, hp]

theorem pure_eq {a : α} : (pure a : Parser α) c = .ok (a, c) := rfl

theorem pure_ok_iff {a v : α} : (pure a : Parser α) c = .ok (v, c') ↔ v = a ∧ c' = c := by
  simp [pure_eq, eq_comm]

theorem map_ok_iff {f : α → β} {v : β} :
    (f <$> p) c = .ok (v, c') ↔ ∃ a, p c = .ok (a, c') ∧ v = f a := by
  rw [← bind_pure_comp, bind_ok_iff]
  simp only [pure_ok_iff]
  constructor
  · rintro ⟨a, d, hp, rfl, rfl⟩
    exact ⟨a, hp, rfl⟩
  · rintro ⟨a, hp, rfl⟩
    exact ⟨a, c', hp, rfl, rfl⟩

theorem Refuses.bind {f : α → Parser β} (h : Refuses p c) : Refuses (p >>= f) c := by
  obtain ⟨e, he, hc⟩ := h
  exact ⟨e, by simp [Bind.bind, StateT.bind, Except.bind, he], hc⟩

theorem Refuses.of_ok {f : α → Parser β} {a : α} {d : Cursor} (hp : p c = .ok (a, d))
    (h : Refuses (f a) d) : Refuses (p >>= f) c := by
  obtain ⟨e, he, hc⟩ := h
  exact ⟨e, by rw [bind_of_ok hp, he], hc⟩

theorem refuses_bind_pure_iff {f : α → β} :
    Refuses (p >>= fun a => pure (f a)) c ↔ Refuses p c := by
  constructor
  · rintro ⟨e, he, hc⟩
    refine ⟨e, ?_, hc⟩
    cases hp : p c with
    | error k => simpa [Bind.bind, StateT.bind, Except.bind, hp] using he
    | ok x =>
      rw [bind_of_ok hp] at he
      exact absurd he (by simp [pure_eq])
  · exact fun h => h.bind

theorem Mild.bind {f : α → Parser β} (hp : Mild p) (hf : ∀ a, Mild (f a)) : Mild (p >>= f) := by
  intro c
  rcases hp c with ⟨a, d, ha⟩ | hr
  · rcases hf a d with ⟨v, e, hv⟩ | hr
    · exact .inl ⟨v, e, bind_ok_iff.mpr ⟨a, d, ha, hv⟩⟩
    · exact .inr (hr.of_ok ha)
  · exact .inr hr.bind

theorem Mild.pure (a : α) : Mild (Pure.pure a) := fun c => .inl ⟨a, c, pure_ok_iff.mpr ⟨rfl, rfl⟩⟩

theorem Exact.pure (a : α) : Exact (Pure.pure a) (fun v t _ => v = a ∧ t = []) where
  sound := by
    intro c v c' h
    obtain ⟨rfl, rfl⟩ := pure_ok_iff.mp h
    exact ⟨[], c'.rest, rfl, Cursor.past_nil.symm, rfl, rfl⟩
  complete := by
    rintro c v t r - ⟨rfl, rfl⟩
    rw [pure_ok_iff]
    exact ⟨rfl, Cursor.past_nil⟩

theorem Sound.bind {f : α → Parser β} {h : α → Grammar β} (hp : Sound p g)
    (hf : ∀ a, Sound (f a) (h a)) : Sound (p >>= f) (g.andThen h) := by
  intro c v c' hb
  obtain ⟨a, d, ha, hv⟩ := bind_ok_iff.mp hb
  obtain ⟨t₁, r₁, hr, rfl, hg⟩ := hp ha
  obtain ⟨t₂, r, hr₂, rfl, hh⟩ := hf a hv
  rw [Cursor.rest_past hr] at hr₂
  subst hr₂
  exact ⟨t₁ ++ t₂, r, by rw [hr, List.append_assoc], Cursor.past_past, a, t₁, t₂, rfl, hg, hh⟩

theorem Complete.bind {f : α → Parser β} {h : α → Grammar β} (hp : Complete p g)
    (hf : ∀ a, Complete (f a) (h a)) : Complete (p >>= f) (g.andThen h) := by
  rintro c v t r hr ⟨a, t₁, t₂, rfl, hg, hh⟩
  rw [List.append_assoc] at hr
  rw [bind_of_ok (hp hr hg), hf a (Cursor.rest_past hr) hh, Cursor.past_past]

/-- **Exact parsers in sequence are exact.** -/
theorem Exact.bind {f : α → Parser β} {h : α → Grammar β} (hp : Exact p g)
    (hf : ∀ a, Exact (f a) (h a)) : Exact (p >>= f) (g.andThen h) :=
  ⟨hp.sound.bind fun a => (hf a).sound, hp.complete.bind fun a => (hf a).complete⟩

theorem Sound.map {f : α → β} (hp : Sound p g) :
    Sound (f <$> p) (fun v t r => ∃ a, v = f a ∧ g a t r) := by
  intro c v c' h
  obtain ⟨a, ha, rfl⟩ := map_ok_iff.mp h
  obtain ⟨t, r, hr, he, hg⟩ := hp ha
  exact ⟨t, r, hr, he, a, rfl, hg⟩

theorem Complete.map {f : α → β} (hp : Complete p g) :
    Complete (f <$> p) (fun v t r => ∃ a, v = f a ∧ g a t r) := by
  rintro c v t r hr ⟨a, rfl, hg⟩
  exact map_ok_iff.mpr ⟨a, hp hr hg, rfl⟩

/-! ## 3. Characters and words -/

theorem fail_refuses (cause : Cause) : Refuses (fail cause : Parser α) c :=
  ⟨⟨cause, c, false⟩, rfl, rfl⟩

theorem takeWhile_mild (f : Char → Bool) : Mild (takeWhile f) := fun _ => .inl ⟨_, _, rfl⟩

theorem takeWhile_exact (f : Char → Bool) :
    Exact (takeWhile f)
      (fun v t r => v = t ∧ t.all f = true ∧ ∀ x ∈ r.head?, f x = false) where
  sound := by
    intro c v c' h
    rw [takeWhile, Cursor.takeWhile_eq_past, Except.ok.injEq, Prod.mk.injEq] at h
    obtain ⟨rfl, rfl⟩ := h
    refine ⟨_, c.rest.dropWhile f, List.takeWhile_append_dropWhile.symm, rfl, rfl,
      List.all_takeWhile, ?_⟩
    intro x hx
    have hd := List.head?_dropWhile_not f c.rest
    rw [Option.mem_def.mp hx] at hd
    simpa using hd
  complete := by
    rintro c v t r hr ⟨rfl, hall, hhead⟩
    have ht : c.rest.takeWhile f = v := by
      rw [hr, List.takeWhile_append_of_pos (by simpa using hall)]
      cases r with
      | nil => simp
      | cons x r => simp [hhead x rfl]
    rw [takeWhile, Cursor.takeWhile_eq_past, ht]

/-- One character, or a symbol that is written as one. -/
theorem single_exact {w : Text} (hw : w.length = 1) :
    Exact (single w) (fun v t _ => v = w ∧ t = w) where
  sound := by
    intro c v c' h
    unfold single at h
    split at h
    · rename_i hp
      rw [Except.ok.injEq, Prod.mk.injEq] at h
      obtain ⟨rfl, rfl⟩ := h
      have hr : c.rest = w ++ c.rest.drop 1 :=
        (List.take_append_drop 1 c.rest).symm.trans (congrArg (· ++ c.rest.drop 1) hp)
      refine ⟨w, _, hr, ?_, rfl, rfl⟩
      rw [← hw]
      exact Cursor.advance_eq_past hr (List.ne_nil_of_length_eq_add_one hw)
    · exact absurd h (by simp [fail])
  complete := by
    rintro c v t r hr ⟨rfl, rfl⟩
    have hp : c.peek 1 = t := hw ▸ Cursor.peek_of_rest hr
    have ha : c.advance 1 = c.past t :=
      hw ▸ Cursor.advance_eq_past hr (List.ne_nil_of_length_eq_add_one hw)
    rw [single, if_pos hp, ha]

theorem single_refuses {w : Text} (hw : w.length = 1) (h : ¬ w <+: c.rest) :
    Refuses (single w) c := by
  have hp : ¬ c.peek 1 = w := fun hp => h (List.prefix_iff_eq_take.mpr (by rw [hw]; exact hp.symm))
  rw [Refuses, single, if_neg hp]
  exact fail_refuses _

theorem tag_exact {w : Text} (hw : w ≠ []) : Exact (tag w) (fun v t _ => v = w ∧ t = w) where
  sound := by
    intro c v c' h
    unfold tag at h
    split at h
    · rename_i hp
      rw [Except.ok.injEq, Prod.mk.injEq] at h
      obtain ⟨rfl, rfl⟩ := h
      obtain ⟨r, hr⟩ := Cursor.startsWith_iff.mp hp
      exact ⟨w, r, hr.symm, Cursor.advance_eq_past hr.symm hw, Cursor.peek_of_rest hr.symm, rfl⟩
    · exact absurd h (by simp [fail])
  complete := by
    rintro c v t r hr ⟨rfl, rfl⟩
    rw [tag, if_pos (Cursor.startsWith_iff.mpr ⟨r, hr.symm⟩), Cursor.peek_of_rest hr,
      Cursor.advance_eq_past hr hw]

theorem tag_refuses {w : Text} (h : ¬ w <+: c.rest) : Refuses (tag w) c := by
  rw [Refuses, tag, if_neg fun hp => h (Cursor.startsWith_iff.mp hp)]
  exact fail_refuses _

theorem tag_mild (w : Text) : Mild (tag w) := by
  intro c
  by_cases h : w <+: c.rest
  · exact .inl ⟨_, _, by rw [tag, if_pos (Cursor.startsWith_iff.mpr h)]⟩
  · exact .inr (tag_refuses h)

/-- A keyword in any letter case, where its letters are such that only their two ASCII forms have
them as lower-case form. -/
theorem tagFolded_exact {w k : Text} (hk : k ≠ [])
    (h : ∀ t : Text, t.lower = w.lower ↔ t.fold = k) :
    Exact (tagFolded w) (fun v t _ => v = t ∧ t.fold = k) := by
  have hlen : ∀ {t : Text}, t.fold = k → t.length = w.length := fun {t} ht => by
    have hw : w.fold = k := (h w).mp rfl
    simpa [Text.fold] using congrArg List.length (ht.trans hw.symm)
  have hne : ∀ {t : Text}, t.fold = k → t ≠ [] := fun ht h0 => hk (by rw [← ht, h0]; rfl)
  constructor
  · intro c v c' hc
    unfold tagFolded at hc
    split at hc
    · rename_i hp
      rw [Except.ok.injEq, Prod.mk.injEq] at hc
      obtain ⟨rfl, rfl⟩ := hc
      have hf : (c.peek w.length).fold = k := (h _).mp (by simpa [Cursor.startsWithFolded] using hp)
      have hr : c.rest = c.peek w.length ++ c.rest.drop w.length :=
        (List.take_append_drop _ _).symm
      refine ⟨_, _, hr, ?_, rfl, hf⟩
      rw [← Cursor.advance_eq_past hr (hne hf), hlen hf]
    · exact absurd hc (by simp [fail])
  · rintro c v t r hr ⟨rfl, hf⟩
    have hp : c.peek w.length = v := hlen hf ▸ Cursor.peek_of_rest hr
    have hs : c.startsWithFolded w = true := by
      rw [Cursor.startsWithFolded, hp, beq_iff_eq]
      exact (h v).mpr hf
    rw [tagFolded, if_pos hs, hp, ← hlen hf, Cursor.advance_eq_past hr (hne hf)]

theorem tagFolded_refuses {w : Text} (h : c.rest = []) (hw : w.lower ≠ []) :
    Refuses (tagFolded w) c := by
  have hs : ¬ c.startsWithFolded w = true := by
    rw [Cursor.startsWithFolded, Cursor.peek, h, List.take_nil, beq_iff_eq]
    exact fun he => hw (he.symm.trans rfl)
  rw [Refuses, tagFolded, if_neg hs]
  exact fail_refuses _

/-- Everything in front of the first occurrence of a marker of two different characters. -/
theorem takeUntil_exact {m : Text} {x y : Char} (hm : m = [x, y]) (hxy : x ≠ y) :
    Exact (takeUntil m) (fun v t r => v = t ∧ ¬ m <:+: t ∧ m <+: r) where
  sound := by
    intro c v c' h
    have hne : m ≠ [] := by simp [hm]
    unfold takeUntil at h
    rw [Cursor.find?_eq_map hne] at h
    cases hi : c.rest.indexOf? m with
    | none => simp [hi, fail] at h
    | some n =>
      obtain ⟨a, b, hr, rfl, ha⟩ := Text.eq_append_of_indexOf? hne hi
      simp only [hi, Option.map_some, Except.ok.injEq, Prod.mk.injEq, Nat.add_sub_cancel_left] at h
      obtain ⟨rfl, rfl⟩ := h
      rw [List.append_assoc] at hr
      rw [Cursor.jump_eq_past _ rfl, hr, List.take_left]
      exact ⟨a, m ++ b, rfl, rfl, rfl, ha, List.prefix_append m b⟩
  complete := by
    rintro c v t r hr ⟨rfl, ht, b, rfl⟩
    have hi : c.rest.indexOf? m = some v.length := by
      rw [hr, hm]
      exact Text.indexOf?_pair hxy (hm ▸ ht)
    rw [takeUntil, Cursor.find?_eq_map (by simp [hm]), hi]
    simp only [Option.map_some, Nat.add_sub_cancel_left]
    rw [hr, List.take_left, Cursor.jump_eq_past _ rfl]

theorem takeUntil_mild {m : Text} : Mild (takeUntil m) := by
  intro c
  cases h : c.find? m with
  | none =>
    rw [Refuses, takeUntil, h]
    exact .inr (fail_refuses _)
  | some n => exact .inl ⟨_, _, by rw [takeUntil, h]⟩

theorem takeUntil_refuses {m : Text} (hm : m ≠ []) (h : ¬ m <:+: c.rest) :
    Refuses (takeUntil m) c := by
  have hi := (Text.indexOf?_eq_none_iff hm).mpr h
  rw [Refuses, takeUntil, Cursor.find?_eq_map hm, hi]
  exact fail_refuses _

theorem takeWhile1_exact (f : Char → Bool) (what : Text) :
    Exact (takeWhile1 f what)
      (fun v t r => v = t ∧ t ≠ [] ∧ t.all f = true ∧ ∀ x ∈ r.head?, f x = false) where
  sound := by
    intro c v c' h
    unfold takeWhile1 at h
    split at h
    · exact absurd h (by simp [fail])
    · rename_i t after hne ht
      have hv : takeWhile f c = .ok (v, c') := by rw [takeWhile, ht, ← h]
      obtain ⟨t', r, hr, he, rfl, hall, hhead⟩ := (takeWhile_exact f).sound hv
      refine ⟨_, r, hr, he, rfl, fun h0 => ?_, hall, hhead⟩
      rw [takeWhile, ht, Except.ok.injEq, Prod.mk.injEq, h0] at hv
      exact hne hv.1
  complete := by
    rintro c v t r hr ⟨rfl, hne, hall, hhead⟩
    have ht := Except.ok.inj ((takeWhile_exact f).complete hr ⟨rfl, hall, hhead⟩)
    obtain ⟨x, v, rfl⟩ := List.exists_cons_of_ne_nil hne
    rw [takeWhile1, ht]

theorem takeWhile1_refuses {f : Char → Bool} {what : Text} (h : ∀ x ∈ c.rest.head?, f x = false) :
    Refuses (takeWhile1 f what) c := by
  have ht : c.takeWhile f = ([], c) := by
    have h0 := (takeWhile_exact f).complete (List.nil_append c.rest).symm ⟨rfl, rfl, h⟩
    rw [Cursor.past_nil] at h0
    exact Except.ok.inj h0
  rw [Refuses, takeWhile1, ht]
  exact fail_refuses _

end Parser

end StoredFunctions
