/-
# Cursors behind a text

Every reading that succeeds moves a cursor over a piece of the document and leaves the rest of it
unread.  `c.past t` is the cursor behind the text `t`, provided the document goes on with `t`
at `c`; what the primitive moves of a cursor do is restated here in these terms:

* `takeWhile_eq_past`: a run of characters, however long it is;
* `advance_eq_past`: a text whose length is known;
* `jump_eq_past`: everything up to a place that a search found.

A place past the end of the document needs no care: nothing but the empty text is there, and
`c.past []` is `c`.
-/
import StoredFunctions.Source.Cursor

namespace StoredFunctions

/-! ## 1. Where a run ends and where a marker stands -/

namespace Text

theorem of_ne_nil {literal : String} (h : literal.toList ≠ []) : Text.of literal ≠ [] := by
  rwa [of_eq]

/-- The characters at the start of a text that satisfy `p`, and the rest. -/
theorem exists_span (p : Char → Bool) (t : Text) :
    ∃ l u, t = l ++ u ∧ l.all p = true ∧ ∀ x ∈ u.head?, p x = false := by
  refine ⟨t.takeWhile p, t.dropWhile p, List.takeWhile_append_dropWhile.symm,
    List.all_takeWhile, fun x hx => ?_⟩
  have hd := List.head?_dropWhile_not p t
  rw [Option.mem_def.mp hx] at hd
  simpa using hd

/-- The marker found is the first one: it is nowhere inside the text in front of it. -/
theorem eq_append_of_indexOf? {m : Text} (hm : m ≠ []) :
    ∀ {t : Text} {n : Nat}, t.indexOf? m = some n →
      ∃ a b, t = a ++ m ++ b ∧ a.length = n ∧ ¬ m <:+: a
  | [], n, h => by
    simp [indexOf?, hm] at h
  | x :: more, n, h => by
    simp only [indexOf?] at h
    split at h
    · rename_i hp
      obtain ⟨b, hb⟩ := List.isPrefixOf_iff_prefix.mp hp
      obtain rfl : 0 = n := by simpa using h
      exact ⟨[], b, by simpa using hb.symm, rfl, by simpa using hm⟩
    · rename_i hp
      obtain ⟨k, hk, rfl⟩ := Option.map_eq_some_iff.mp h
      obtain ⟨a, b, rfl, rfl, ha⟩ := eq_append_of_indexOf? hm hk
      refine ⟨x :: a, b, by simp, rfl, fun hi => ?_⟩
      rcases List.infix_cons_iff.mp hi with hx | hx
      · obtain ⟨d, hd⟩ := hx
        refine hp (List.isPrefixOf_iff_prefix.mpr ⟨d ++ m ++ b, ?_⟩)
        rw [List.append_assoc a m b, ← List.cons_append, ← hd]
        simp
      · exact ha hx

/-- A text that no occurrence of the marker begins in is passed over. -/
theorem indexOf?_append {m b : Text} :
    ∀ {a : Text}, (∀ u v, a = u ++ v → v ≠ [] → ¬ m <+: v ++ (m ++ b)) →
      (a ++ (m ++ b)).indexOf? m = some a.length
  | [], _ => by
    cases m with
    | nil => cases b <;> simp [indexOf?]
    | cons x m => simp [indexOf?]
  | x :: a, h => by
    have hx : ¬ m.isPrefixOf (x :: (a ++ (m ++ b))) = true := fun hp =>
      h [] (x :: a) rfl (by simp) (List.isPrefixOf_iff_prefix.mp hp)
    have ih := indexOf?_append (a := a) fun u v huv hv => h (x :: u) v (by simp [huv]) hv
    simp only [List.cons_append, indexOf?, if_neg hx, ih, List.length_cons, Option.map_some]

/-- A marker of one character is found at the first occurrence of that character. -/
theorem indexOf?_single {x : Char} {a b : Text} (h : x ∉ a) :
    (a ++ x :: b).indexOf? [x] = some a.length := by
  refine indexOf?_append (m := [x]) fun u v huv hv hp => ?_
  obtain ⟨y, v, rfl⟩ := List.exists_cons_of_ne_nil hv
  obtain rfl : x = y := by simpa using hp
  exact h (by simp [huv])

/-- A marker of two different characters cannot overlap with itself, so it is found at its first
occurrence as well. -/
theorem indexOf?_pair {x y : Char} {a b : Text} (hxy : x ≠ y) (h : ¬ [x, y] <:+: a) :
    (a ++ x :: y :: b).indexOf? [x, y] = some a.length := by
  refine indexOf?_append (m := [x, y]) fun u v huv hv hp => ?_
  match v, hv with
  | [z], _ =>
    have hz : x = z ∧ y = x := by simpa using hp
    exact hxy hz.2.symm
  | z :: w :: v, _ =>
    have hz : x = z ∧ y = w := by simpa using hp
    exact h ⟨u, v, by simp [huv, hz.1, hz.2]⟩

/-- No marker, no index. -/
theorem indexOf?_eq_none_iff {m : Text} (hm : m ≠ []) :
    ∀ {t : Text}, t.indexOf? m = none ↔ ¬ m <:+: t
  | [] => by simp [indexOf?, hm]
  | x :: t => by
    have ih := indexOf?_eq_none_iff hm (t := t)
    simp only [indexOf?, List.infix_cons_iff, not_or]
    split
    · rename_i hp
      simp [List.isPrefixOf_iff_prefix.mp hp]
    · rename_i hp
      have hp' : ¬ m <+: x :: t := fun h => hp (List.isPrefixOf_iff_prefix.mpr h)
      simp [hp', ih]

end Text

/-! ## 2. The cursor behind a text -/

namespace Cursor

/-- The place behind the text `t`, which the document goes on with. -/
def past (c : Cursor) (t : Text) : Cursor := c.jump (c.offset + t.length)

variable {c : Cursor} {t u r : Text}

@[simp] theorem source_past : (c.past t).source = c.source := source_jump _ _
@[simp] theorem filename_past : (c.past t).filename = c.filename := filename_jump _ _
@[simp] theorem offset_past : (c.past t).offset = c.offset + t.length := offset_jump _ _

@[simp] theorem past_nil : c.past [] = c := ext source_past filename_past (by simp)

@[simp] theorem past_past : (c.past t).past u = c.past (t ++ u) :=
  ext (by simp) (by simp) (by simp [Nat.add_assoc])

theorem rest_past (h : c.rest = t ++ r) : (c.past t).rest = r := by
  rw [past, rest_jump, ← List.drop_drop, ← c.rest_eq, h, List.drop_left]

/-- Two texts that the document goes on with, and that end at the same place, are equal. -/
theorem past_inj {s : Text} (ht : c.rest = t ++ r) (hu : c.rest = u ++ s)
    (h : c.past t = c.past u) : t = u := by
  have hl : t.length = u.length := by
    have := congrArg offset h
    simpa using this
  exact (List.append_inj (ht.symm.trans hu) hl).1

/-- **A text that is not empty brings the end nearer.**  This is what keeps a repetition going. -/
theorem distance_past_lt (h : c.rest = t ++ r) (ht : t ≠ []) :
    (c.past t).distance < c.distance := by
  have hl : c.rest.length = t.length + r.length := by rw [h, List.length_append]
  have hr := c.rest_length
  have hp : 0 < t.length := List.length_pos_iff.mpr ht
  rw [distance_eq, distance_eq, source_past, offset_past]
  omega

theorem takeWhile_eq_past (p : Char → Bool) :
    c.takeWhile p = (c.rest.takeWhile p, c.past (c.rest.takeWhile p)) :=
  Prod.ext rfl (ext (by simp [takeWhile]) (by simp [takeWhile]) (by simp [takeWhile]))

theorem peek_of_rest (h : c.rest = t ++ r) : c.peek t.length = t := by
  rw [peek, h, List.take_left]

theorem peek_one_iff {x : Char} : c.peek 1 = [x] ↔ x ∈ c.rest.head? := by
  rw [peek]
  cases c.rest with
  | nil => simp
  | cons y r => simp

theorem advance_eq_past (h : c.rest = t ++ r) (ht : t ≠ []) : c.advance t.length = c.past t := by
  have hl : c.rest.length = t.length + r.length := by rw [h, List.length_append]
  have hp : 0 < t.length := List.length_pos_iff.mpr ht
  have hc := c.rest_length
  refine ext (by simp) (by simp) ?_
  rw [offset_advance, offset_past]
  omega

theorem advance_one {x : Char} (h : c.rest = x :: r) : c.advance 1 = c.past [x] :=
  advance_eq_past (t := [x]) h (by simp)

theorem startsWith_iff : c.startsWith t = true ↔ t <+: c.rest := by
  rw [startsWith, beq_iff_eq, peek, List.prefix_iff_eq_take]
  exact eq_comm

/-! ## 3. Markers ahead of a cursor -/

theorem find?_eq_map {m : Text} (hm : m ≠ []) :
    c.find? m = (c.rest.indexOf? m).map (c.offset + ·) := by
  unfold find?
  split
  · rename_i h
    have hr : c.rest = [] := by
      simpa [atEnd] using (Bool.and_eq_true_iff.mp h).1
    simp [hr, Text.indexOf?, hm]
  · rfl

theorem jump_eq_past (n : Nat) (h : t.length = n) : c.jump (c.offset + n) = c.past t := by
  rw [past, h]

/-! ## 4. Places told by their offsets -/

theorem past_ofOffset {source filename : Text} {o : Nat} :
    (ofOffset source filename o).past t = ofOffset source filename (o + t.length) := by
  rw [past, jump_eq]
  rfl

theorem past_ofSource {source filename : Text} :
    (ofSource source filename).past t = ofOffset source filename t.length := by
  rw [ofSource, past_ofOffset, Nat.zero_add]

end Cursor

end StoredFunctions
