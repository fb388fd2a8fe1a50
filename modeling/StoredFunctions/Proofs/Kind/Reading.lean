/-
# Reading kinds

The parser of kinds reads the spellings of `Spelling`, and no other text.

`spelling_iff` takes a spelling apart into a keyword and its arguments, and the arguments are
dealt with for any reader of the kinds within.  What is left of the recursion is one induction on
depth in either direction.  Completeness needs a depth that suffices: the length of a text does,
because a kind within another takes at least the keyword and the brackets less.

* `parser_exact`: kinds at any cursor;
* `spelledAt_iff`: the grammar in terms of the offsets of a source.
-/
import StoredFunctions.Proofs.Kind.Arguments

namespace StoredFunctions.Kind

open StoredFunctions.Parser Filler Punctuation
open Cursor (past_ofOffset)

/-! ## 1. A keyword and its arguments -/

section

variable {S : Kind → Text → Prop} {f : Former} {p : Primitive} {k : Kind} {w a t r s : Text}
  {c c' : Cursor} {d : Nat}

/-- A spelling is a keyword kind, or a keyword and its arguments. -/
theorem spelling_iff :
    Spelling k t ↔ (∃ p, k = primitive p ∧ t.fold = p.text) ∨
      ∃ f w a, t = w ++ a ∧ w.fold = Former.text f ∧ Arguments Spelling f k a := by
  constructor
  · intro h
    cases h with
    | primitive hw => exact .inl ⟨_, rfl, hw⟩
    | option hw ht ha => exact .inr ⟨_, _, _, rfl, hw, _, _, rfl, ht, ha⟩
    | bareArray hw | bareSet hw | bareRecord hw =>
      exact .inr ⟨_, t, [], (List.append_nil t).symm, hw, .inr ⟨rfl, rfl⟩⟩
    | array hw ht hb ha | set hw ht hb ha =>
      exact .inr ⟨_, _, _, rfl, hw, .inl ⟨_, _, _, _, rfl, ht, hb, ha⟩⟩
    | record hw ht hu ha =>
      exact .inr ⟨_, _, _, rfl, hw, .inl ⟨_, _, rfl, ⟨_, _, _, _, rfl, rfl, ht, hu⟩, ha⟩⟩
    | either hw ht hu ha =>
      exact .inr ⟨_, _, _, rfl, hw, _, _, _, _, rfl, ⟨_, _, _, _, rfl, rfl, ht, hu⟩, ha⟩
    | geometry hw ht hu ha =>
      exact .inr ⟨_, _, _, rfl, hw, _, _, _, rfl, ⟨_, _, _, _, rfl, rfl, ht, hu⟩, ha⟩
  · rintro (⟨p, rfl, hw⟩ | ⟨f, w, a, rfl, hw, h⟩)
    · exact .primitive hw
    · cases f with
      | option =>
        obtain ⟨inner, t, rfl, ht, ha⟩ := h
        exact .option hw ht ha
      | array =>
        rcases h with ⟨inner, limit, t, b, rfl, ht, hb, ha⟩ | ⟨rfl, rfl⟩
        · exact .array hw ht hb ha
        · exact .bareArray (by simpa using hw)
      | set =>
        rcases h with ⟨inner, limit, t, b, rfl, ht, hb, ha⟩ | ⟨rfl, rfl⟩
        · exact .set hw ht hb ha
        · exact .bareSet (by simpa using hw)
      | record =>
        rcases h with ⟨_, _, rfl, ⟨table, more, t, u, rfl, rfl, ht, hu⟩, ha⟩ | ⟨rfl, rfl⟩
        · exact .record hw ht hu ha
        · exact .bareRecord (by simpa using hw)
      | either =>
        obtain ⟨first, second, more, _, rfl, ⟨_, _, t, u, heq, rfl, ht, hu⟩, ha⟩ := h
        obtain ⟨rfl, rfl⟩ := List.cons.inj heq
        exact .either hw ht hu ha
      | geometry =>
        obtain ⟨first, more, _, rfl, ⟨_, _, t, u, heq, rfl, ht, hu⟩, ha⟩ := h
        obtain ⟨rfl, rfl⟩ := List.cons.inj heq
        exact .geometry hw ht hu ha

/-- Arguments are missing, or begin with their bracket. -/
theorem Arguments.head (h : Arguments S f k a) :
    '<' ∈ a.head? ∨ a = [] ∧ (f = .array ∨ f = .set ∨ f = .record) := by
  cases f with
  | option =>
    obtain ⟨_, _, -, -, ha⟩ := h
    exact .inl ha.head
  | array | set =>
    rcases h with ⟨_, _, _, _, -, -, -, ha⟩ | ⟨-, rfl⟩
    · exact .inl ha.head
    · exact .inr ⟨rfl, by simp⟩
  | record =>
    rcases h with ⟨_, _, -, -, ha⟩ | ⟨-, rfl⟩
    · exact .inl ha.head
    · exact .inr ⟨rfl, by simp⟩
  | either =>
    obtain ⟨_, _, _, _, -, -, ha⟩ := h
    exact .inl ha.head
  | geometry =>
    obtain ⟨_, _, _, -, -, ha⟩ := h
    exact .inl ha.head

theorem stops_primitive_iff (hw : w.fold = p.text) :
    Stops w r ↔ ∀ x ∈ r.head?, isWordChar x = false := by
  have hne : ∀ f : Former, ¬ w.fold = f.text := fun f hf => by
    have hp := Primitive.ofText?_eq_some_iff.mpr (hf.symm.trans hw)
    rw [Primitive.ofText?_former] at hp
    exact absurd hp (by simp)
  constructor
  · exact fun h => h.1 (isWord_of_primitive hw).2
  · refine fun h => ⟨fun _ => h, ?_⟩
    rintro (hf | hf | hf)
    · exact absurd hf (hne _)
    · exact absurd hf (hne _)
    · exact absurd hf (hne _)

/-- What follows a keyword matters only if it has no arguments. -/
theorem stops_arguments_iff (hw : w.fold = f.text) (h : Arguments S f k a) :
    Stops (w ++ a) r ↔ (a = [] → Clear r) := by
  constructor
  · rintro ⟨hword, hbare⟩ rfl
    rw [List.append_nil] at hword hbare
    have hf : f = .array ∨ f = .set ∨ f = .record := by
      rcases h.head with h | ⟨-, h⟩
      · exact absurd h (by simp)
      · exact h
    intro x hx
    refine ⟨hword (isWord_of_former hw).2 x hx, hbare ?_ x hx⟩
    rcases hf with rfl | rfl | rfl
    · exact .inl hw
    · exact .inr (.inl hw)
    · exact .inr (.inr hw)
  · intro hclear
    rcases h.head with ha | ⟨rfl, -⟩
    · -- a text with a bracket in it is no word, in whatever case
      obtain ⟨a, rfl⟩ := List.head?_eq_some_iff.mp ha
      have hno : ¬ (w ++ '<' :: a).all isWordChar = true := fun hall => by
        have := List.all_eq_true.mp hall '<' (by simp)
        exact absurd this (by decide)
      refine ⟨fun hall => absurd hall hno, ?_⟩
      rintro (hf | hf | hf)
      · exact absurd (isWord_of_former hf).2 hno
      · exact absurd (isWord_of_former hf).2 hno
      · exact absurd (isWord_of_former hf).2 hno
    · rw [List.append_nil]
      exact .of_clear (hclear rfl)

/-- The word at the cursor decides how a kind goes on. -/
theorem nested_eq (hr : c.rest = w ++ s) (hw : Names.IsWord w)
    (hs : ∀ x ∈ s.head?, isWordChar x = false) :
    nested (d + 1) c =
      match Primitive.ofText? w.fold with
      | some p => .ok (primitive p, c.past w)
      | none =>
        match Former.ofText? w.fold with
        | some f => arguments c (nested d) f (c.past w)
        | none => fail (.unknownType w) c := by
  have hword := Except.ok.inj ((takeWhile_exact isWordChar).complete hr ⟨rfl, hw.2, hs⟩)
  have hne : ¬ w.isEmpty = true := by simpa using hw.1
  simp only [nested, hword]
  exact if_neg hne

/-- A kind begins with a word. -/
theorem nested_word (h : nested (d + 1) c = .ok (k, c')) :
    ∃ w s, c.rest = w ++ s ∧ Names.IsWord w ∧ ∀ x ∈ s.head?, isWordChar x = false := by
  obtain ⟨w, s, hr, -, rfl, hall, hs⟩ := (takeWhile_exact isWordChar).sound
    (show takeWhile isWordChar c = .ok (c.takeWhile isWordChar) from rfl)
  refine ⟨_, s, hr, ⟨fun h0 => ?_, hall⟩, hs⟩
  simp only [nested, Cursor.takeWhile_eq_past, h0, List.isEmpty_nil, if_true, fail] at h
  exact absurd h (by simp)

end

/-! ## 2. Kinds -/

variable {k l : Kind} {c c' : Cursor} {t u r : Text}

/-- **What is read as a kind is a spelling of it**, whatever the depth. -/
theorem nested_sound (d : Nat) : Sound (nested d) (fun k t r => Spelling k t ∧ Stops t r) := by
  induction d with
  | zero => exact fun c k c' h => absurd h (by simp [nested, fail])
  | succ d ih =>
    intro c k c' h
    obtain ⟨w, s, hr, hw, hs⟩ := nested_word h
    rw [nested_eq hr hw hs] at h
    split at h
    · rename_i p hp
      obtain ⟨rfl, rfl⟩ := Prod.mk.inj (Except.ok.inj h)
      have hp := Primitive.ofText?_eq_some_iff.mp hp
      exact ⟨w, s, hr, rfl, .primitive hp, (stops_primitive_iff hp).mpr hs⟩
    · split at h
      · rename_i f hf
        have hf := Former.ofText?_eq_some_iff.mp hf
        obtain ⟨a, r, hr', rfl, ha, hbare⟩ := arguments_sound (fun _ _ => Spelling.solid)
          (ih.mono fun _ _ _ h => h.1) h
        rw [Cursor.rest_past hr] at hr'
        subst hr'
        refine ⟨w ++ a, r, by rw [hr, List.append_assoc], Cursor.past_past,
          spelling_iff.mpr (.inr ⟨f, w, a, rfl, hf, ha⟩), (stops_arguments_iff hf ha).mpr ?_⟩
        rintro rfl x hx
        exact ⟨hs x hx, fun h => hbare rfl (h ▸ hx)⟩
      · exact absurd h (by simp [fail])

/-- **Every spelling that is not longer than the depth is read.**  The induction is on the depth;
the kinds within a kind are shorter than it, so less depth suffices for these. -/
theorem nested_complete (d : Nat) :
    Complete (nested d) (fun k t r => (Spelling k t ∧ t.length ≤ d) ∧ Stops t r) := by
  induction d with
  | zero =>
    rintro c k t r - ⟨⟨h, hlen⟩, -⟩
    obtain ⟨x, t, rfl, -⟩ := h.solid
    exact absurd hlen (by simp)
  | succ d ih =>
    rintro c k t r hr ⟨⟨h, hlen⟩, hstop⟩
    rcases spelling_iff.mp h with ⟨p, rfl, hp⟩ | ⟨f, w, a, rfl, hf, ha⟩
    · rw [nested_eq hr (isWord_of_primitive hp) ((stops_primitive_iff hp).mp hstop),
        Primitive.ofText?_eq_some_iff.mpr hp]
    · have hclear := (stops_arguments_iff hf ha).mp hstop
      have hw := isWord_of_former hf
      have hs : ∀ x ∈ (a ++ r).head?, isWordChar x = false := by
        rcases ha.head with ha | ⟨rfl, -⟩
        · obtain ⟨a, rfl⟩ := List.head?_eq_some_iff.mp ha
          rintro x ⟨⟩
          decide
        · exact fun x hx => (hclear rfl x hx).1
      have hlt : a.length ≤ d := by
        have hpos := List.length_pos_iff.mpr hw.1
        rw [List.length_append] at hlen
        omega
      have hinner := ha.mono (T := fun k t => Spelling k t ∧ t.length ≤ d) fun _ _ ht h =>
        ⟨h, by omega⟩
      rw [List.append_assoc] at hr
      rw [nested_eq hr hw hs, hf, Primitive.ofText?_former, Former.ofText?_eq_some_iff.mpr rfl]
      have hcomp : arguments c (nested d) f (c.past w) = .ok (k, (c.past w).past a) :=
        arguments_complete (fun _ _ h => h.1.solid) (fun _ _ _ _ hr h => ih hr ⟨h.1, .of_clear h.2⟩)
          (Cursor.rest_past hr) ⟨hinner, fun h0 hc => (hclear h0 _ hc).2 rfl⟩
      exact hcomp.trans (by rw [Cursor.past_past])

/-- **The parser of kinds reads the spellings of kinds, and nothing else.** -/
theorem parser_exact : Exact parser (fun k t r => Spelling k t ∧ Stops t r) where
  sound := fun c _ _ h => nested_sound (c.left + 1) h
  complete := by
    rintro c k t r hr ⟨h, hstop⟩
    refine nested_complete (c.left + 1) hr ⟨⟨h, ?_⟩, hstop⟩
    rw [c.left_eq, hr, List.length_append]
    omega

/-! ## 3. Kinds at an offset -/

/-- The characters of `source` from `o` to `e` spell the kind `k`, which may end there. -/
def SpelledAt (source : Text) (o : Nat) (k : Kind) (e : Nat) : Prop :=
  o ≤ e ∧ e ≤ source.length ∧ Spelling k ((source.drop o).take (e - o)) ∧
    Stops ((source.drop o).take (e - o)) (source.drop e)

variable {source filename : Text} {o e e' : Nat}

theorem drop_eq_take_append (h : o ≤ e) :
    source.drop o = (source.drop o).take (e - o) ++ source.drop e := by
  have hd : source.drop e = (source.drop o).drop (e - o) := by
    rw [List.drop_drop, Nat.add_sub_cancel' h]
  rw [hd, List.take_append_drop]

/-- A spelling at an offset, as the text in front of the rest of the source. -/
theorem spelledAt_iff :
    SpelledAt source o k e ↔
      ∃ t r, source.drop o = t ++ r ∧ e = o + t.length ∧ Spelling k t ∧ Stops t r := by
  constructor
  · rintro ⟨hle, hlen, hk, hstop⟩
    refine ⟨_, _, drop_eq_take_append hle, ?_, hk, hstop⟩
    rw [List.length_take, List.length_drop]
    omega
  · rintro ⟨t, r, hd, rfl, hk, hstop⟩
    obtain ⟨x, u, hx, -⟩ := hk.solid
    have hlen : source.length - o = t.length + r.length := by
      rw [← List.length_drop, hd, List.length_append]
    have hpos : 0 < t.length := by rw [hx]; simp
    have hr : source.drop (o + t.length) = r := by
      rw [← List.drop_drop, hd, List.drop_left]
    refine ⟨by omega, by omega, ?_, ?_⟩
    · rwa [Nat.add_sub_cancel_left, hd, List.take_left]
    · rwa [Nat.add_sub_cancel_left, hd, List.take_left, hr]

/-- **At an offset of a source the parser of kinds accepts just the grammar of kinds**, and an
offset has at most one kind and at most one end of it. -/
theorem parser_ok_iff_spelledAt (source filename : Text) (o : Nat) :
    (∀ k c', parser (Cursor.ofOffset source filename o) = .ok (k, c') ↔
      ∃ e, c' = Cursor.ofOffset source filename e ∧ SpelledAt source o k e) ∧
    (∀ k l e e', SpelledAt source o k e → SpelledAt source o l e' → k = l ∧ e = e') := by
  constructor
  · intro k c'
    constructor
    · intro h
      obtain ⟨t, r, hr, rfl, hk, hstop⟩ := parser_exact.sound h
      exact ⟨o + t.length, past_ofOffset, spelledAt_iff.mpr ⟨t, r, hr, rfl, hk, hstop⟩⟩
    · rintro ⟨e, rfl, h⟩
      obtain ⟨t, r, hd, rfl, hk, hstop⟩ := spelledAt_iff.mp h
      rw [parser_exact.complete (c := Cursor.ofOffset source filename o) hd ⟨hk, hstop⟩,
        past_ofOffset]
  · intro k l e e' h h'
    obtain ⟨t, r, hd, rfl, hk⟩ := spelledAt_iff.mp h
    obtain ⟨u, s, hd', rfl, hl⟩ := spelledAt_iff.mp h'
    obtain ⟨rfl, rfl, -⟩ := parser_exact.complete.unique hk hl (hd.symm.trans hd')
    exact ⟨rfl, rfl⟩

end StoredFunctions.Kind
