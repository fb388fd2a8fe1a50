/-
# Line and column determine the offset

A document is its lines with one line feed between neighbours.  `Text.Pinpoints` says, in terms of
these lines alone, which offset a line and a column stand for: so many characters come before it as
the lines above have, each with its line feed, and as stand in front of the column.

* The location of every place of a document pinpoints it (`Locates.pinpoints`).
* Of two lines the lower one, and of two columns of a line the one further right, pinpoints the later
  offset (`Pinpoints.lt_of_lex`).

So nothing else pinpoints a place (`pinpoints_iff`), and locations are in the order of their offsets
(`Cursor.location_pinpoints`).
-/
import Mathlib.Algebra.GroupWithZero.Nat
import Mathlib.Data.Prod.Lex
import StoredFunctions.Proofs.Reading.Location

namespace StoredFunctions

namespace Text

variable {t : Text} {line column offset line' column' offset' : Nat}

/-! ## 1. Lines and what they take up -/

/-- The pieces of a text between its line feeds. -/
def lines (t : Text) : List Text := t.splitOn '\n'

/-- How many characters lines have together, with a line feed for each. -/
def extent (ls : List Text) : Nat := (ls.map fun l => l.length + 1).sum

theorem lines_ne_nil (t : Text) : t.lines ≠ [] := List.splitOn_ne_nil _ _

theorem lines_feed (t : Text) : Text.lines ('\n' :: t) = [] :: t.lines := by
  rw [lines, List.splitOn_cons_eq_if_modifyHead, if_pos (by decide), lines]

theorem lines_cons {x : Char} (hx : x ≠ '\n') (t : Text) :
    Text.lines (x :: t) = t.lines.modifyHead (x :: ·) := by
  rw [lines, List.splitOn_cons_eq_if_modifyHead, if_neg (by simpa using hx), lines]

theorem lines_append_feed (t u : Text) : Text.lines (t ++ '\n' :: u) = t.lines ++ u.lines :=
  List.splitOn_append_cons_self t u

/-- The beginning of a line belongs to the first line of what follows. -/
theorem lines_append_of_not_mem {current : Text} (h : '\n' ∉ current) (t : Text) :
    Text.lines (current ++ t) = t.lines.modifyHead (current ++ ·) := by
  induction current with
  | nil =>
    obtain ⟨first, others, hlines⟩ := List.exists_cons_of_ne_nil (lines_ne_nil t)
    rw [List.nil_append, hlines, List.modifyHead_cons, List.nil_append]
  | cons x current ih =>
    obtain ⟨hx, hcurrent⟩ := not_or.mp (mt List.mem_cons.mpr h)
    rw [List.cons_append, lines_cons (Ne.symm hx), ih hcurrent, List.modifyHead_modifyHead]
    rfl

@[simp] theorem extent_cons (l : Text) (ls : List Text) :
    extent (l :: ls) = l.length + 1 + extent ls := rfl

theorem extent_append (ls ms : List Text) : extent (ls ++ ms) = extent ls + extent ms := by
  rw [extent, List.map_append, List.sum_append]
  rfl

/-- **There is one line more than there are line feeds.** -/
theorem length_lines (t : Text) : t.lines.length = t.count '\n' + 1 := by
  induction t with
  | nil => rfl
  | cons x t ih =>
    by_cases hx : x = '\n'
    · rw [hx, lines_feed, List.length_cons, ih, List.count_cons_self]
    · rw [lines_cons hx, List.length_modifyHead, ih, List.count_cons_of_ne hx]

/-- Every character is on a line or a line feed, and the last line has none. -/
theorem extent_lines (t : Text) : extent t.lines = t.length + 1 := by
  induction t with
  | nil => rfl
  | cons x t ih =>
    by_cases hx : x = '\n'
    · rw [hx, lines_feed, extent_cons, ih, List.length_cons, List.length_nil]
      omega
    · obtain ⟨first, others, hlines⟩ := List.exists_cons_of_ne_nil (lines_ne_nil t)
      rw [hlines, extent_cons] at ih
      rw [lines_cons hx, hlines, List.modifyHead_cons, extent_cons, List.length_cons,
        List.length_cons]
      omega

/-- A line ends before any further one begins. -/
theorem extent_take_lt {ls : List Text} {l : Text} {m n : Nat} (h : ls[m]? = some l) (hmn : m < n) :
    extent (ls.take m) + l.length < extent (ls.take n) := by
  obtain ⟨k, rfl⟩ := Nat.exists_eq_add_of_lt hmn
  rw [Nat.add_right_comm, List.take_add, List.take_add_one, h, extent_append, extent_append,
    Option.toList_some, extent_cons]
  omega

/-! ## 2. The offset of a line and a column -/

/-- **The offset that a line and a column stand for**, both counted from one: the line is one of the
text, the column is on it or right behind it, and in front of the offset are the lines above, each
with its line feed, and the line up to the column. -/
structure Pinpoints (t : Text) (line column offset : Nat) : Prop where
  line_pos : 1 ≤ line
  line_le : line ≤ t.count '\n' + 1
  column_pos : 1 ≤ column
  column_le : ∃ l, t.lines[line - 1]? = some l ∧ column - 1 ≤ l.length
  offset_eq : offset = extent (t.lines.take (line - 1)) + (column - 1)

/-- A text that ends with a line feed, or is empty, is made of whole lines. -/
theorem exists_ended {above : Text} (h : ∀ x ∈ above.getLast?, x = '\n') :
    ∃ ended : List Text, ended.length = above.count '\n' ∧ extent ended = above.length ∧
      ∀ t : Text, Text.lines (above ++ t) = ended ++ t.lines := by
  rcases List.eq_nil_or_concat above with rfl | ⟨before, x, rfl⟩
  · exact ⟨[], rfl, rfl, fun _ => rfl⟩
  · obtain rfl : x = '\n' := h x (by simp)
    refine ⟨Text.lines before, ?_, ?_, fun t => ?_⟩
    · rw [length_lines, List.concat_eq_append, List.count_append, List.count_singleton_self]
    · rw [extent_lines, List.concat_eq_append, List.length_append, List.length_singleton]
    · rw [List.concat_eq_append, List.append_assoc, List.singleton_append, lines_append_feed]

theorem Locates.pinpoints (h : t.Locates offset line column) (hoffset : offset ≤ t.length) :
    t.Pinpoints line column offset := by
  obtain ⟨above, current, htake, habove, hcurrent, rfl, rfl⟩ := h
  obtain ⟨ended, hcount, hextent, happend⟩ := exists_ended habove
  obtain ⟨first, others, hrest⟩ := List.exists_cons_of_ne_nil (lines_ne_nil (t.drop offset))
  -- The line that begins in front of the offset goes on with the first line behind it.
  have hlines : t.lines = ended ++ (current ++ first) :: others := by
    conv_lhs => rw [← List.take_append_drop offset t]
    rw [htake, List.append_assoc, happend, lines_append_of_not_mem hcurrent, hrest,
      List.modifyHead_cons]
  have hlength : offset = above.length + current.length := by
    rw [← List.length_append, ← htake, List.length_take, Nat.min_eq_left hoffset]
  have hsum : above.count '\n' ≤ t.count '\n' := by
    have hcounts := length_lines t
    rw [hlines, List.length_append, List.length_cons] at hcounts
    omega
  refine ⟨Nat.le_add_left _ _, Nat.succ_le_succ hsum, Nat.le_add_left _ _,
    ⟨current ++ first, ?_, ?_⟩, ?_⟩
  · rw [Nat.add_sub_cancel, hlines, ← hcount, List.getElem?_append_right (Nat.le_refl _),
      Nat.sub_self, List.getElem?_cons_zero]
  · rw [Nat.add_sub_cancel, List.length_append]
    exact Nat.le_add_right _ _
  · rw [Nat.add_sub_cancel, Nat.add_sub_cancel, hlines, ← hcount, List.take_left, hextent]
    exact hlength

/-- **The order of lines, and of columns on a line, is the order of offsets.** -/
theorem Pinpoints.lt_of_lex (h : t.Pinpoints line column offset)
    (h' : t.Pinpoints line' column' offset') (hlt : toLex (line, column) < toLex (line', column')) :
    offset < offset' := by
  have hline := h.line_pos
  have hcolumn := h.column_pos
  rw [h.offset_eq, h'.offset_eq]
  rcases Prod.Lex.toLex_lt_toLex.mp hlt with hbelow | ⟨hsame, hright⟩
  · -- A column is on its line or right behind it, and there the next line has not begun.
    obtain ⟨l, hl, hle⟩ := h.column_le
    have hextent := extent_take_lt hl (n := line' - 1) (by simp only at hbelow; omega)
    omega
  · simp only at hsame hright
    rw [hsame]
    omega

theorem Pinpoints.lex_iff (h : t.Pinpoints line column offset)
    (h' : t.Pinpoints line' column' offset') :
    toLex (line, column) < toLex (line', column') ↔ offset < offset' := by
  refine ⟨h.lt_of_lex h', fun hlt => ?_⟩
  rcases lt_trichotomy (toLex (line, column)) (toLex (line', column')) with hbefore | hsame | hafter
  · exact hbefore
  · obtain ⟨rfl, rfl⟩ := Prod.mk.inj (toLex.injective hsame)
    exact absurd (h.offset_eq.trans h'.offset_eq.symm) (Nat.ne_of_lt hlt)
  · exact absurd (h'.lt_of_lex h hafter) (Nat.lt_asymm hlt)

/-- An offset is pinpointed by one line and one column only. -/
theorem Pinpoints.unique (h : t.Pinpoints line column offset)
    (h' : t.Pinpoints line' column' offset) : line = line' ∧ column = column' := by
  have hle : ¬ toLex (line, column) < toLex (line', column') := fun hlt =>
    Nat.lt_irrefl _ (h.lt_of_lex h' hlt)
  have hge : ¬ toLex (line', column') < toLex (line, column) := fun hlt =>
    Nat.lt_irrefl _ (h'.lt_of_lex h hlt)
  exact Prod.mk.inj (toLex.injective (le_antisymm (not_lt.mp hge) (not_lt.mp hle)))

/-- No line and column stand for an offset outside the text. -/
theorem Pinpoints.inside (h : t.Pinpoints line column offset) : offset ≤ t.length := by
  obtain ⟨l, hl, hle⟩ := h.column_le
  obtain ⟨hline, -⟩ := List.getElem?_eq_some_iff.mp hl
  have hextent := extent_take_lt hl hline
  rw [List.take_length, extent_lines] at hextent
  rw [h.offset_eq]
  omega

/-- **Exactly the places of a text are pinpointed**, each by its own line and column. -/
theorem pinpoints_iff : t.Pinpoints line column offset ↔
    offset ≤ t.length ∧ line = t.lineAt offset ∧ column = t.columnAt offset := by
  constructor
  · intro h
    exact ⟨h.inside, h.unique ((locates_at h.inside).pinpoints h.inside)⟩
  · rintro ⟨hoffset, rfl, rfl⟩
    exact (locates_at hoffset).pinpoints hoffset

end Text

/-! ## 3. Locations of places -/

namespace Cursor

variable {offset other : Nat}

/-- **Line and column determine the offset.**  The location of a place is the line and the column
that pinpoint its offset, and no others do.  Locations are in the order of their offsets, lines
first and then columns, so places with different offsets have different locations. -/
theorem location_pinpoints (source filename : Text) (h : offset ≤ source.length)
    (hother : other ≤ source.length) :
    (∀ line column, (ofOffset source filename offset).location = (line, column) ↔
      source.Pinpoints line column offset) ∧
    (toLex (ofOffset source filename offset).location <
      toLex (ofOffset source filename other).location ↔ offset < other) ∧
    (offset ≠ other → (ofOffset source filename offset).location ≠
      (ofOffset source filename other).location) := by
  have hplace := (Text.locates_at h).pinpoints h
  have hotherPlace := (Text.locates_at hother).pinpoints hother
  refine ⟨fun line column => ?_, hplace.lex_iff hotherPlace, fun hne hsame => ?_⟩
  · rw [Text.pinpoints_iff, location, Prod.mk.injEq]
    exact ⟨fun ⟨hline, hcolumn⟩ => ⟨h, hline.symm, hcolumn.symm⟩,
      fun ⟨_, hline, hcolumn⟩ => ⟨hline.symm, hcolumn.symm⟩⟩
  · rcases Nat.lt_or_gt_of_ne hne with hlt | hgt
    · exact ((hplace.lex_iff hotherPlace).mpr hlt).ne (congrArg toLex hsame)
    · exact ((hotherPlace.lex_iff hplace).mpr hgt).ne' (congrArg toLex hsame)

/-- The start of an empty line, and the end of a document that a line feed ends. -/
theorem location_pinpoints_around_feeds :
    let source : Text := "ab\n\nc\n"
    3 ≤ source.length ∧ 6 ≤ source.length ∧
      (ofOffset source "f" 3).location = (2, 1) ∧ (ofOffset source "f" 6).location = (4, 1) ∧
      source.Pinpoints 2 1 3 ∧ source.Pinpoints 4 1 6 ∧
      (toLex (ofOffset source "f" 3).location < toLex (ofOffset source "f" 6).location ↔ 3 < 6) ∧
      (ofOffset source "f" 3).location ≠ (ofOffset source "f" 6).location := by
  intro source
  have hline : 3 ≤ source.length := by decide +kernel
  have hend : 6 ≤ source.length := by decide +kernel
  have hlineAt : (ofOffset source "f" 3).location = (2, 1) := by decide +kernel
  have hendAt : (ofOffset source "f" 6).location = (4, 1) := by decide +kernel
  obtain ⟨hpinpoints, horder, hdistinct⟩ := location_pinpoints source "f" hline hend
  obtain ⟨hpinpointsEnd, -, -⟩ := location_pinpoints source "f" hend hline
  exact ⟨hline, hend, hlineAt, hendAt, (hpinpoints 2 1).mp hlineAt, (hpinpointsEnd 4 1).mp hendAt,
    horder, hdistinct (by decide)⟩

end Cursor

end StoredFunctions
