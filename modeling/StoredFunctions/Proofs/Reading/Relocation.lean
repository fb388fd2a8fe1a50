/-
# Text in front of a document

Places are offsets into a whole document, and searches, jumps and the comparison of failures compute
with them.  None of this looks at what is in front of a place.  `c.moved front` is the place of `c`
when the text `front` has been put in front of the document, and a parser is **relative** if it does
at `c.moved front` what it does at `c`, moved likewise: the value, the place where it stops, and the
place of its failure.

There is one lemma for each combinator, and none of them asks where `c` is.  What follows for the
two runs, told by offsets, lines and columns, is `Relative.onlyAhead`.
-/
import StoredFunctions.Proofs.Reading.Location

namespace StoredFunctions

/-! ## 1. Places -/

namespace Cursor

variable {front : Text} {c d : Cursor} {n : Nat}

/-- The same place, with `front` in front of the document. -/
def moved (front : Text) (c : Cursor) : Cursor :=
  ofOffset (front ++ c.source) c.filename (front.length + c.offset)

@[simp] theorem source_moved : (c.moved front).source = front ++ c.source := rfl
@[simp] theorem filename_moved : (c.moved front).filename = c.filename := rfl
@[simp] theorem offset_moved : (c.moved front).offset = front.length + c.offset := rfl

/-- **What lies ahead is the same.** -/
@[simp] theorem rest_moved : (c.moved front).rest = c.rest := by
  rw [Cursor.rest_eq, c.rest_eq, source_moved, offset_moved]
  exact List.drop_length_add_append _

@[simp] theorem left_moved : (c.moved front).left = c.left := by
  rw [Cursor.left_eq, rest_moved, ← c.left_eq]

@[simp] theorem atEnd_moved : (c.moved front).atEnd = c.atEnd := by
  rw [atEnd, rest_moved, atEnd]

@[simp] theorem peek_moved : (c.moved front).peek n = c.peek n := by
  rw [peek, rest_moved, peek]

@[simp] theorem startsWith_moved {t : Text} : (c.moved front).startsWith t = c.startsWith t := by
  rw [startsWith, peek_moved, startsWith]

@[simp] theorem startsWithFolded_moved {t : Text} :
    (c.moved front).startsWithFolded t = c.startsWithFolded t := by
  rw [startsWithFolded, peek_moved, startsWithFolded]

@[simp] theorem distance_moved : (c.moved front).distance = c.distance := by
  rw [distance_eq, distance_eq, source_moved, offset_moved, List.length_append]
  omega

/-- A search finds the same occurrence, at its moved offset. -/
theorem find?_moved {t : Text} : (c.moved front).find? t = (c.find? t).map (front.length + ·) := by
  unfold find?
  rw [atEnd_moved, rest_moved, source_moved, offset_moved, List.length_append]
  simp only [Nat.add_lt_add_iff_left]
  split
  · rfl
  · rw [Option.map_map]
    exact congrArg (Option.map · _) (funext fun n => Nat.add_assoc _ _ n)

theorem advance_moved : (c.moved front).advance n = (c.advance n).moved front := by
  refine ext rfl rfl ?_
  rw [offset_advance, offset_moved, offset_moved, offset_advance, source_moved, List.length_append]
  omega

theorem jump_moved : (c.moved front).jump (front.length + n) = (c.jump n).moved front :=
  ext (by simp) (by simp) (by simp)

theorem takeWhile_moved (p : Char → Bool) :
    (c.moved front).takeWhile p = ((c.takeWhile p).1, (c.takeWhile p).2.moved front) := by
  rw [takeWhile_eq_past, takeWhile_eq_past, rest_moved]
  refine Prod.ext rfl (ext (by simp) (by simp) ?_)
  simp only [offset_past, offset_moved]
  exact Nat.add_assoc _ _ _

theorem eq_moved_iff : d = c.moved front ↔
    d.source = front ++ c.source ∧ d.filename = c.filename ∧
      d.offset = front.length + c.offset := by
  constructor
  · rintro rfl
    exact ⟨rfl, rfl, rfl⟩
  · rintro ⟨hsource, hfilename, hoffset⟩
    exact ext hsource hfilename hoffset

end Cursor

/-! ## 2. Failures and outcomes -/

namespace Failure

variable {front : Text} {f g : Failure}

/-- The same failure, with `front` in front of the document. -/
def moved (front : Text) (f : Failure) : Failure := { f with place := f.place.moved front }

@[simp] theorem offset_moved : (f.moved front).offset = front.length + f.offset := rfl
@[simp] theorem committed_moved : (f.moved front).committed = f.committed := rfl

theorem eq_moved_iff : g = f.moved front ↔
    g.cause = f.cause ∧ g.committed = f.committed ∧ g.place = f.place.moved front := by
  obtain ⟨cause, place, committed⟩ := g
  rw [moved, Failure.mk.injEq]
  exact and_congr Iff.rfl and_comm

/-- Which of two failures got further does not depend on the text in front. -/
theorem further_moved : (f.moved front).further (g.moved front) = (f.further g).moved front := by
  simp only [further, offset_moved, Nat.add_le_add_iff_left]
  split
  · rfl
  · rfl

end Failure

/-- The same fault, with `front` in front of the document. -/
def Fault.moved (front : Text) : Fault → Fault
  | .failure f => .failure (f.moved front)
  | .oversizedLimit digits => .oversizedLimit digits

theorem Fault.isFinal_moved {front : Text} {fault : Fault} :
    (fault.moved front).IsFinal ↔ fault.IsFinal := by
  cases fault with
  | failure f => exact Iff.rfl
  | oversizedLimit n => exact Iff.rfl

namespace Parser

variable {α β : Type} {p q : Parser α} {front : Text} {c d : Cursor} {v : α} {fault : Fault}

/-- The same outcome, with `front` in front of the document. -/
def moved (front : Text) : Except Fault (α × Cursor) → Except Fault (α × Cursor)
  | .ok (v, d) => .ok (v, d.moved front)
  | .error fault => .error (fault.moved front)

theorem moved_ok_iff {o : Except Fault (α × Cursor)} :
    moved front o = .ok (v, d) ↔ ∃ e, o = .ok (v, e) ∧ d = e.moved front := by
  rcases o with fault | ⟨w, e⟩
  · simp [moved]
  · simp only [moved, Except.ok.injEq, Prod.mk.injEq]
    constructor
    · rintro ⟨rfl, rfl⟩
      exact ⟨e, ⟨rfl, rfl⟩, rfl⟩
    · rintro ⟨e, ⟨rfl, rfl⟩, rfl⟩
      exact ⟨rfl, rfl⟩

theorem moved_failure_iff {o : Except Fault (α × Cursor)} {g : Failure} :
    moved front o = .error (.failure g) ↔
      ∃ f, o = .error (.failure f) ∧ g = f.moved front := by
  rcases o with (f | n) | x
  · simp [moved, Fault.moved, eq_comm]
  · simp [moved, Fault.moved]
  · simp [moved]

theorem moved_oversized_iff {o : Except Fault (α × Cursor)} {n : Nat} :
    moved front o = .error (.oversizedLimit n) ↔ o = .error (.oversizedLimit n) := by
  rcases o with (f | n) | x
  · simp [moved, Fault.moved]
  · simp [moved, Fault.moved]
  · simp [moved]

/-- **A relative parser** does the same whatever is in front of the document. -/
def Relative (p : Parser α) : Prop := ∀ front c, p (c.moved front) = moved front (p c)

theorem Relative.ok (hp : Relative p) (h : p c = .ok (v, d)) :
    p (c.moved front) = .ok (v, d.moved front) := by
  rw [hp, h]
  rfl

theorem Relative.error (hp : Relative p) (h : p c = .error fault) :
    p (c.moved front) = .error (fault.moved front) := by
  rw [hp, h]
  rfl

/-! ## 3. Sequences -/

/-- What a sequence comes to, if its second part is known only behind its first. -/
theorem Relative.bind_at {f f' : α → Parser β} (hp : Relative p)
    (hf : ∀ a d, f' a (d.moved front) = moved front (f a d)) :
    (p >>= f') (c.moved front) = moved front ((p >>= f) c) := by
  cases h : p c with
  | error fault => rw [bind_of_error (hp.error h), bind_of_error h, moved]
  | ok x => rw [bind_of_ok (hp.ok h), bind_of_ok h, hf]

theorem Relative.bind {f : α → Parser β} (hp : Relative p) (hf : ∀ a, Relative (f a)) :
    Relative (p >>= f) := fun front _ => hp.bind_at fun a d => hf a front d

theorem Relative.pure (v : α) : Relative (Pure.pure v) := fun _ _ => rfl

theorem Relative.map {f : α → β} (hp : Relative p) : Relative (f <$> p) := by
  rw [← bind_pure_comp]
  exact hp.bind fun _ => .pure _

/-! ## 4. Characters and words -/

theorem fail_relative (cause : Cause) : Relative (fail cause : Parser α) := fun _ _ => rfl

theorem takeWhile_relative (f : Char → Bool) : Relative (takeWhile f) := fun _ _ =>
  congrArg Except.ok (Cursor.takeWhile_moved f)

theorem takeWhile1_relative (f : Char → Bool) (what : Text) : Relative (takeWhile1 f what) := by
  intro front c
  unfold takeWhile1
  rw [Cursor.takeWhile_moved]
  cases h : (c.takeWhile f).1 with
  | nil => rw [show c.takeWhile f = ([], (c.takeWhile f).2) from Prod.ext h rfl]; rfl
  | cons x t => rw [show c.takeWhile f = (x :: t, (c.takeWhile f).2) from Prod.ext h rfl]; rfl

theorem single_relative (w : Text) : Relative (single w) := by
  intro front c
  unfold single
  rw [Cursor.peek_moved]
  split
  · rw [Cursor.advance_moved]; rfl
  · rfl

theorem tag_relative (w : Text) : Relative (tag w) := by
  intro front c
  unfold tag
  rw [Cursor.startsWith_moved]
  split
  · rw [Cursor.peek_moved, Cursor.advance_moved]; rfl
  · rfl

theorem tagFolded_relative (w : Text) : Relative (tagFolded w) := by
  intro front c
  unfold tagFolded
  rw [Cursor.startsWithFolded_moved]
  split
  · rw [Cursor.peek_moved, Cursor.advance_moved]; rfl
  · rfl

theorem takeUntil_relative (w : Text) : Relative (takeUntil w) := by
  intro front c
  unfold takeUntil
  rw [Cursor.find?_moved]
  cases c.find? w with
  | none => rfl
  | some found =>
    simp only [Option.map_some, Cursor.rest_moved, Cursor.offset_moved, Cursor.jump_moved,
      Nat.add_sub_add_left]
    rfl

/-! ## 5. Choice and repetition -/

theorem choose_moved {ps : List (Parser α)} (h : ∀ p ∈ ps, Relative p) :
    ∀ kept : Option Failure,
      choose (kept.map (Failure.moved front)) ps (c.moved front) =
        moved front (choose kept ps c) := by
  induction ps with
  | nil =>
    intro kept
    cases kept with
    | none => rfl
    | some f => rfl
  | cons p ps ih =>
    intro kept
    obtain ⟨hp, hps⟩ := List.forall_mem_cons.mp h
    rw [choose_cons, choose_cons]
    rcases hpc : p c with (f | n) | x
    · rw [hp.error hpc]
      cases hf : f.committed with
      | true => simp only [Fault.moved, Failure.committed_moved, hf, if_true, moved]
      | false =>
        simp only [Fault.moved, Failure.committed_moved, hf, Bool.false_eq_true, if_false]
        rw [← ih hps]
        cases kept with
        | none => rfl
        | some g => simp only [Option.map_some, Option.elim_some, Failure.further_moved]
    · rw [hp.error hpc]; rfl
    · rw [hp.ok hpc]; rfl

theorem firstOf_relative {ps : List (Parser α)} (h : ∀ p ∈ ps, Relative p) :
    Relative (firstOf ps) := fun _ _ => choose_moved h none

theorem Relative.cut (hp : Relative p) : Relative (Parser.cut p) := by
  intro front c
  unfold Parser.cut
  rcases hpc : p c with (f | n) | x
  · rw [hp.error hpc]; rfl
  · rw [hp.error hpc]; rfl
  · rw [hp.ok hpc]; rfl

theorem Relative.orElse (hp : Relative p) (v : α) : Relative (Parser.orElse p v) := by
  intro front c
  unfold Parser.orElse
  rcases hpc : p c with (f | n) | x
  · rw [hp.error hpc]
    cases hf : f.committed with
    | true => simp only [Fault.moved, Failure.committed_moved, hf, if_true, moved]
    | false =>
      simp only [Fault.moved, Failure.committed_moved, hf, Bool.false_eq_true, if_false, moved]
  · rw [hp.error hpc]; rfl
  · rw [hp.ok hpc]; rfl

/-- Each element is followed in both documents, and both repetitions stop at the same one. -/
theorem Relative.many (hp : Relative p) : Relative (Parser.many p) := by
  intro front c
  induction c using many_induction p with
  | refused c hr =>
    obtain ⟨f, hf, hc⟩ := hr
    rw [many_of_refuses ⟨f, hf, hc⟩, many_of_refuses ⟨f.moved front, hp.error hf, hc⟩, moved]
  | raised c fault hf hfinal =>
    have hfinal' : (fault.moved front).IsFinal := Fault.isFinal_moved.mpr hfinal
    rw [many_of_final hf hfinal, many_of_final (hp.error hf) hfinal', moved]
  | stalled c a d hd hlt =>
    rw [many_of_stalled hd hlt, many_of_stalled (hp.ok hd) (by simpa using hlt), moved]
  | kept c a d hd hlt ih =>
    rw [many_of_kept hd hlt, many_of_kept (hp.ok hd) (by simpa using hlt), ih]
    cases Parser.many p d with
    | ok x => rfl
    | error fault => rfl

theorem Relative.many1 (hp : Relative p) : Relative (Parser.many1 p) :=
  hp.bind fun _ => hp.many.bind fun _ => .pure _

theorem Relative.separated1 {separator : Parser β} (hseparator : Relative separator)
    (hp : Relative p) : Relative (Parser.separated1 separator p) :=
  hp.bind fun _ => (hseparator.bind fun _ => hp).many.bind fun _ => .pure _

theorem Relative.separated {separator : Parser β} (hseparator : Relative separator)
    (hp : Relative p) : Relative (Parser.separated separator p) :=
  (hseparator.separated1 hp).orElse []

/-! ## 6. Two documents -/

/-- **A parser that looks at nothing in front of it.**  From an offset of a document, and from the
same place with a text in front of the document, it succeeds or fails alike: with the same value and
the place where it stops moved, or with the same cause, as final as before and at a place moved,
whose line and column are counted in the longer document. -/
structure OnlyAhead (p : Parser α) : Prop where
  result : ∀ front source filename offset v d, offset ≤ source.length →
    (p (.ofOffset (front ++ source) filename (front.length + offset)) = .ok (v, d) ↔
      ∃ e, p (.ofOffset source filename offset) = .ok (v, e) ∧ d.source = front ++ source ∧
        d.filename = filename ∧ d.offset = front.length + e.offset)
  failure : ∀ front source filename offset g, offset ≤ source.length →
    (p (.ofOffset (front ++ source) filename (front.length + offset)) = .error (.failure g) ↔
      ∃ f, p (.ofOffset source filename offset) = .error (.failure f) ∧ g.cause = f.cause ∧
        g.committed = f.committed ∧ g.place.source = front ++ source ∧
        g.place.filename = filename ∧ g.offset = front.length + f.offset)
  location : ∀ front source filename offset g, offset ≤ source.length →
    p (.ofOffset (front ++ source) filename (front.length + offset)) = .error (.failure g) →
      (front ++ source).Locates g.offset g.line g.column
  oversized : ∀ front source filename offset n,
    (p (.ofOffset (front ++ source) filename (front.length + offset)) =
        .error (.oversizedLimit n) ↔
      p (.ofOffset source filename offset) = .error (.oversizedLimit n))

theorem Relative.onlyAhead {s : Bool} (hp : Relative p) (hforward : Forward s p) :
    OnlyAhead p := by
  have hmoved : ∀ front source filename offset,
      p (.ofOffset (front ++ source) filename (front.length + offset)) =
        moved front (p (.ofOffset source filename offset)) := fun front source filename offset =>
    hp front (.ofOffset source filename offset)
  constructor
  · intro front source filename offset v d hoffset
    have hplaced := hforward (.ofOffset source filename offset) hoffset
    rw [hmoved, moved_ok_iff]
    refine exists_congr fun e => and_congr_right fun he => ?_
    rw [he] at hplaced
    rw [Cursor.eq_moved_iff, hplaced.source, hplaced.filename]
    exact Iff.rfl
  · intro front source filename offset g hoffset
    have hplaced := hforward (.ofOffset source filename offset) hoffset
    rw [hmoved, moved_failure_iff]
    refine exists_congr fun f => and_congr_right fun hf => ?_
    rw [hf] at hplaced
    rw [Failure.eq_moved_iff, Cursor.eq_moved_iff, hplaced.source, hplaced.filename]
    exact Iff.rfl
  · intro front source filename offset g hoffset h
    have hinside : front.length + offset ≤ (front ++ source).length := by
      rw [List.length_append]
      omega
    exact (hforward.wellPlaced.failure _ _ _ _ hinside h).2.2.2.2
  · intro front source filename offset n
    rw [hmoved, moved_oversized_iff]

end Parser

end StoredFunctions
