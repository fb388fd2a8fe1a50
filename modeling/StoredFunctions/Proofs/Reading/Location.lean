/-
# Where parsers stop and fail

A parser that starts inside a document stays there: it stops at a place of the same document that is
not in front of its start, and it fails at such a place.  `Forward` says so of a parser, and, if it
is strict, that the parser takes at least one character; there is one lemma for each combinator.

The line and the column of a failure are computed from its offset.  `Text.Locates` says what they
are, without the computation.
-/
import StoredFunctions.Proofs.Reading.Finality

namespace StoredFunctions

/-! ## 1. Lines and columns -/

namespace Text

variable {t : Text} {offset : Nat}

/-- What `line` and `column` say of an offset: the text in front of it consists of ended lines and
of the beginning of a further one, and both are counted from one. -/
def Locates (t : Text) (offset line column : Nat) : Prop :=
  ∃ above current : Text, t.take offset = above ++ current ∧ (∀ x ∈ above.getLast?, x = '\n') ∧
    '\n' ∉ current ∧ line = above.count '\n' + 1 ∧ column = current.length + 1

theorem locates_at (h : offset ≤ t.length) :
    t.Locates offset (t.lineAt offset) (t.columnAt offset) := by
  have hlength : (t.take offset).length = offset := by rw [List.length_take, Nat.min_eq_left h]
  have hspan : t.take offset = ((t.take offset).reverse.dropWhile (· != '\n')).reverse ++
      ((t.take offset).reverse.takeWhile (· != '\n')).reverse := by
    rw [← List.reverse_append, List.takeWhile_append_dropWhile, List.reverse_reverse]
  have hcurrent : '\n' ∉ ((t.take offset).reverse.takeWhile (· != '\n')).reverse := by
    intro hmem
    have hne := List.all_eq_true.mp List.all_takeWhile _ (List.mem_reverse.mp hmem)
    exact absurd hne (by decide)
  refine ⟨_, _, hspan, ?_, hcurrent, ?_, ?_⟩
  · intro x hx
    rw [List.getLast?_reverse] at hx
    have hnot := List.head?_dropWhile_not (· != '\n') (t.take offset).reverse
    rw [Option.mem_def.mp hx] at hnot
    simpa using hnot
  · have hcount := congrArg (List.count '\n') hspan
    rw [List.count_append, List.count_eq_zero.mpr hcurrent] at hcount
    rw [lineAt, hcount, Nat.add_zero]
  · have hle := (List.takeWhile_sublist (· != '\n') (l := (t.take offset).reverse)).length_le
    rw [List.length_reverse, hlength] at hle
    rw [columnAt, endedLines, hlength, List.length_reverse]
    omega

end Text

/-! ## 2. Places ahead of a cursor -/

/-- `d` is a place of the document of `c`, not in front of `c`, and behind it if that is wanted. -/
structure Cursor.Ahead (strict : Bool) (c d : Cursor) : Prop where
  source : d.source = c.source
  filename : d.filename = c.filename
  le : c.offset ≤ d.offset
  lt : strict = true → c.offset < d.offset
  inside : d.offset ≤ d.source.length

namespace Cursor

variable {c d e : Cursor} {s s' : Bool} {t r : Text}

theorem Ahead.refl (h : c.offset ≤ c.source.length) : c.Ahead false c :=
  ⟨rfl, rfl, Nat.le_refl _, fun h => absurd h (by simp), h⟩

theorem Ahead.start (h : c.Ahead s d) : c.Ahead false c := by
  have hinside := h.inside
  rw [h.source] at hinside
  exact .refl (Nat.le_trans h.le hinside)

theorem Ahead.weaken (h : c.Ahead s d) : c.Ahead false d :=
  ⟨h.source, h.filename, h.le, fun h => absurd h (by simp), h.inside⟩

theorem Ahead.trans (h : c.Ahead s d) (h' : d.Ahead s' e) : c.Ahead s e where
  source := h'.source.trans h.source
  filename := h'.filename.trans h.filename
  le := Nat.le_trans h.le h'.le
  lt := fun hs => Nat.lt_of_lt_of_le (h.lt hs) h'.le
  inside := h'.inside

theorem Ahead.trans_right (h : c.Ahead s d) (h' : d.Ahead s' e) : c.Ahead s' e where
  source := h'.source.trans h.source
  filename := h'.filename.trans h.filename
  le := Nat.le_trans h.le h'.le
  lt := fun hs => Nat.lt_of_le_of_lt h.le (h'.lt hs)
  inside := h'.inside

theorem ahead_past (hc : c.offset ≤ c.source.length) (h : c.rest = t ++ r)
    (ht : s = true → t ≠ []) : c.Ahead s (c.past t) := by
  have hlength : c.rest.length = t.length + r.length := by rw [h, List.length_append]
  rw [c.rest_length] at hlength
  refine ⟨source_past, filename_past, ?_, fun hs => ?_, ?_⟩
  · rw [offset_past]
    omega
  · have hpos := List.length_pos_iff.mpr (ht hs)
    rw [offset_past]
    omega
  · rw [offset_past, source_past]
    omega

theorem ahead_advance {n : Nat} (hc : c.offset ≤ c.source.length)
    (hn : s = true → 0 < n ∧ c.rest ≠ []) : c.Ahead s (c.advance n) := by
  have hoffset := c.offset_advance n
  have hlength := c.rest_length
  refine ⟨source_advance c n, filename_advance c n, by omega, fun hs => ?_, ?_⟩
  · obtain ⟨hpos, hrest⟩ := hn hs
    have hrest := List.length_pos_iff.mpr hrest
    omega
  · rw [source_advance]
    omega

theorem ahead_takeWhile (f : Char → Bool) (hc : c.offset ≤ c.source.length)
    (hne : s = true → (c.takeWhile f).1 ≠ []) : c.Ahead s (c.takeWhile f).2 := by
  rw [takeWhile_eq_past] at hne ⊢
  exact ahead_past hc List.takeWhile_append_dropWhile.symm hne

end Cursor

/-! ## 3. Parsers that go forward -/

namespace Parser

variable {α β : Type} {p q : Parser α} {c d : Cursor} {s s' : Bool} {v : α} {w : Text}
  {o : Except Fault (α × Cursor)}

/-- An outcome is at a place ahead of `c`. -/
def Placed (strict : Bool) (c : Cursor) : Except Fault (α × Cursor) → Prop
  | .ok x => c.Ahead strict x.2
  | .error (.failure f) => c.Ahead false f.place
  | .error (.oversizedLimit _) => True

/-- **A parser goes forward** when it stops ahead of where it started, and fails there as well. -/
def Forward (strict : Bool) (p : Parser α) : Prop :=
  ∀ c, c.offset ≤ c.source.length → Placed strict c (p c)

theorem Placed.imp (hok : ∀ e, d.Ahead s' e → c.Ahead s e)
    (hfail : ∀ e, d.Ahead false e → c.Ahead false e) (ho : Placed s' d o) : Placed s c o := by
  match o, ho with
  | .ok _, ho => exact hok _ ho
  | .error (.failure _), ho => exact hfail _ ho
  | .error (.oversizedLimit _), _ => trivial

theorem Placed.of_ahead (h : c.Ahead s d) (ho : Placed s' d o) : Placed s c o :=
  ho.imp (fun _ he => h.trans he) fun _ he => h.weaken.trans he

theorem Placed.of_ahead_right (h : c.Ahead s d) (ho : Placed s' d o) : Placed s' c o :=
  ho.imp (fun _ he => h.trans_right he) fun _ he => h.weaken.trans he

theorem Placed.weaken (h : Placed s c o) : Placed false c o :=
  h.imp (fun _ he => he.weaken) fun _ he => he

/-- A fault does not tell what was to be read. -/
theorem Placed.fault {fault : Fault} (h : Placed s c (.error fault : Except Fault (α × Cursor))) :
    Placed s' c (.error fault : Except Fault (β × Cursor)) := by
  cases fault with
  | failure _ => exact h
  | oversizedLimit _ => trivial

theorem Forward.weaken (h : Forward s p) : Forward false p := fun c hc => (h c hc).weaken

/-- What a sequence that stands at `d` comes to, as seen from a place `c` in front of it. -/
theorem Placed.bind {f : α → Parser β} (hp : Placed s c (p d))
    (hf : ∀ a e, c.Ahead s e → Placed s' c (f a e)) : Placed s' c ((p >>= f) d) := by
  cases hpd : p d with
  | ok x =>
    rw [bind_of_ok hpd]
    rw [hpd] at hp
    exact hf x.1 x.2 hp
  | error fault =>
    rw [hpd] at hp
    rw [bind_of_error hpd]
    exact hp.fault

theorem Forward.bind {f : α → Parser β} (hp : Forward s p) (hf : ∀ a, Forward s' (f a)) :
    Forward s (p >>= f) := fun c hc =>
  (hp c hc).bind fun a e he => .of_ahead he (hf a e he.inside)

theorem Forward.bind_right {f : α → Parser β} (hp : Forward s p) (hf : ∀ a, Forward s' (f a)) :
    Forward s' (p >>= f) := fun c hc =>
  (hp c hc).bind fun a e he => .of_ahead_right he (hf a e he.inside)

theorem Forward.pure (v : α) : Forward false (Pure.pure v) := fun _ hc => .refl hc

theorem Forward.map {f : α → β} (hp : Forward s p) : Forward s (f <$> p) := by
  rw [← bind_pure_comp]
  exact hp.bind fun _ => .pure _

/-! ## 4. Characters and words -/

theorem fail_forward (cause : Cause) : Forward s (fail cause : Parser α) := fun _ hc => .refl hc

theorem takeWhile_forward (f : Char → Bool) : Forward false (takeWhile f) := fun _ hc =>
  Cursor.ahead_takeWhile f hc fun h => absurd h (by simp)

theorem takeWhile1_forward (f : Char → Bool) (what : Text) : Forward true (takeWhile1 f what) := by
  intro c hc
  have hahead := Cursor.ahead_takeWhile (s := true) f hc
  unfold takeWhile1
  split
  · exact fail_forward _ c hc
  · rename_i t after hne ht
    rw [ht] at hahead
    exact hahead fun _ => hne

theorem rest_ne_nil_of_peek {n : Nat} (h : c.peek n ≠ []) : c.rest ≠ [] := by
  intro hnil
  exact h (by rw [Cursor.peek, hnil, List.take_nil])

theorem single_forward (hw : w ≠ []) : Forward true (single w) := by
  intro c hc
  unfold single
  split
  · rename_i hp
    exact Cursor.ahead_advance hc fun _ => ⟨Nat.one_pos, rest_ne_nil_of_peek (hp ▸ hw)⟩
  · exact fail_forward _ c hc

theorem tag_forward (hw : w ≠ []) : Forward true (tag w) := by
  intro c hc
  unfold tag
  split
  · rename_i hp
    have hpeek : c.peek w.length = w := by simpa [Cursor.startsWith] using hp
    exact Cursor.ahead_advance hc fun _ =>
      ⟨List.length_pos_iff.mpr hw, rest_ne_nil_of_peek (hpeek.symm ▸ hw)⟩
  · exact fail_forward _ c hc

theorem tagFolded_forward (hw : w.lower ≠ []) : Forward true (tagFolded w) := by
  intro c hc
  unfold tagFolded
  split
  · rename_i hp
    have hpeek : (c.peek w.length).lower = w.lower := by simpa [Cursor.startsWithFolded] using hp
    have hne : c.peek w.length ≠ [] := by
      intro hnil
      rw [hnil] at hpeek
      exact hw (hpeek.symm.trans rfl)
    have hpos : w ≠ [] := by
      rintro rfl
      exact hw rfl
    exact Cursor.ahead_advance hc fun _ => ⟨List.length_pos_iff.mpr hpos, rest_ne_nil_of_peek hne⟩
  · exact fail_forward _ c hc

theorem takeUntil_forward (hw : w ≠ []) : Forward false (takeUntil w) := by
  intro c hc
  unfold takeUntil
  rw [Cursor.find?_eq_map hw]
  cases hi : c.rest.indexOf? w with
  | none => exact fail_forward _ c hc
  | some n =>
    obtain ⟨a, b, hr, hn, -⟩ := Text.eq_append_of_indexOf? hw hi
    rw [List.append_assoc] at hr
    simp only [Option.map_some, Placed, Cursor.jump_eq_past n hn]
    exact Cursor.ahead_past hc hr fun h => absurd h (by simp)

/-! ## 5. Choice and repetition -/

/-- The failure that a choice reports is that of an alternative. -/
theorem choose_placed {ps : List (Parser α)} (hc : c.offset ≤ c.source.length)
    (h : ∀ p ∈ ps, Forward s p) :
    ∀ {kept : Option Failure}, (∀ f ∈ kept, c.Ahead false f.place) →
      Placed s c (choose kept ps c) := by
  induction ps with
  | nil =>
    intro kept hkept
    cases kept with
    | none => exact fail_forward _ c hc
    | some f => exact hkept f rfl
  | cons p ps ih =>
    intro kept hkept
    have hp := h p (by simp) c hc
    rw [choose_cons]
    split
    · rename_i f hf
      rw [hf] at hp
      split
      · exact hp
      · refine ih (fun q hq => h q (by simp [hq])) ?_
        rintro g hg
        obtain rfl := Option.some.inj hg
        cases kept with
        | none => exact hp
        | some e =>
          rw [Option.elim_some, Failure.further]
          split
          · exact hp
          · exact hkept e rfl
    · exact hp

theorem firstOf_forward {ps : List (Parser α)} (h : ∀ p ∈ ps, Forward s p) :
    Forward s (firstOf ps) := by
  intro c hc
  exact choose_placed hc h fun f hf => absurd hf (by simp)

theorem Forward.cut (hp : Forward s p) : Forward s (Parser.cut p) := by
  intro c hc
  have hpc := hp c hc
  unfold Parser.cut
  split
  · rename_i f hf
    rw [hf] at hpc
    exact hpc
  · exact hpc

theorem Forward.orElse (hp : Forward s p) (v : α) : Forward false (Parser.orElse p v) := by
  intro c hc
  have hpc := (hp c hc).weaken
  unfold Parser.orElse
  split
  · rename_i f hf
    rw [hf] at hpc
    split
    · exact hpc
    · exact Cursor.Ahead.refl hc
  · exact hpc

/-- Each element of a repetition starts where the one before it has stopped. -/
theorem Forward.many (hp : Forward s p) : Forward false (Parser.many p) := by
  intro c hc
  have hpc := (hp c hc).weaken
  induction c using many_induction p with
  | refused c hr =>
    rw [many_of_refuses hr]
    exact Cursor.Ahead.refl hc
  | raised c fault hf hfinal =>
    rw [hf] at hpc
    rw [many_of_final hf hfinal]
    exact hpc.fault
  | stalled c a d hd hlt =>
    rw [many_of_stalled hd hlt]
    exact Cursor.Ahead.refl hc
  | kept c a d hd hlt ih =>
    rw [hd] at hpc
    have hmore := ih hpc.inside (hp d hpc.inside).weaken
    rw [many_of_kept hd hlt]
    cases hm : Parser.many p d with
    | ok x =>
      rw [hm] at hmore
      exact hpc.trans hmore
    | error fault =>
      rw [hm] at hmore
      exact (Placed.of_ahead hpc hmore).fault

theorem Forward.many1 (hp : Forward s p) : Forward s (Parser.many1 p) :=
  hp.bind fun _ => hp.many.bind fun _ => .pure _

theorem Forward.separated1 {separator : Parser β} (hseparator : Forward s' separator)
    (hp : Forward s p) : Forward s (Parser.separated1 separator p) :=
  hp.bind fun _ => (hseparator.bind fun _ => hp).many.bind fun _ => .pure _

theorem Forward.separated {separator : Parser β} (hseparator : Forward s' separator)
    (hp : Forward s p) : Forward false (Parser.separated separator p) :=
  (hseparator.separated1 hp).orElse []

theorem Forward.complete (hp : Forward s p) : Forward s (Parser.complete p) := by
  have hend : ∀ v : α, Forward false fun c =>
      if c.atEnd then .ok (v, c) else fail (.trailingInput (c.peek shownTrailing)) c := by
    intro v c hc
    by_cases hend : c.atEnd = true
    · simp only [hend, if_true]
      exact Forward.pure v c hc
    · simp only [hend]
      exact fail_forward _ c hc
  exact hp.bind hend

/-! ## 6. Documents -/

/-- **What a parser comes to** that starts at an offset of a document: it stops at a later offset of
the same document, or, if it need not be strict, at the same one; and it fails at such an offset,
with the line and the column of that offset. -/
structure WellPlaced (strict : Bool) (p : Parser α) : Prop where
  result : ∀ source filename offset v d, offset ≤ source.length →
    p (.ofOffset source filename offset) = .ok (v, d) →
      d.source = source ∧ d.filename = filename ∧ offset ≤ d.offset ∧
        (strict = true → offset < d.offset) ∧ d.offset ≤ source.length
  failure : ∀ source filename offset f, offset ≤ source.length →
    p (.ofOffset source filename offset) = .error (.failure f) →
      f.place.source = source ∧ f.place.filename = filename ∧ offset ≤ f.offset ∧
        f.offset ≤ source.length ∧ source.Locates f.offset f.line f.column

theorem locates_of_ahead {f : Failure} (h : c.Ahead s f.place) :
    c.source.Locates f.offset f.line f.column := by
  have hinside := h.inside
  rw [h.source] at hinside
  have hlocates := Text.locates_at hinside
  rw [← h.source] at hlocates ⊢
  exact hlocates

theorem Forward.wellPlaced (hp : Forward s p) : WellPlaced s p := by
  constructor
  · intro source filename offset v d hoffset h
    have hplaced := hp (.ofOffset source filename offset) hoffset
    rw [h] at hplaced
    have hinside := hplaced.inside
    rw [hplaced.source] at hinside
    exact ⟨hplaced.source, hplaced.filename, hplaced.le, hplaced.lt, hinside⟩
  · intro source filename offset f hoffset h
    have hplaced := hp (.ofOffset source filename offset) hoffset
    rw [h] at hplaced
    have hinside := hplaced.inside
    rw [hplaced.source] at hinside
    exact ⟨hplaced.source, hplaced.filename, hplaced.le, hinside, locates_of_ahead hplaced⟩

end Parser

end StoredFunctions
