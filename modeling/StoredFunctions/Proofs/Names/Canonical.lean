/-
# Canonical spellings of names and tables

`Names.escape` and `Names.anyName` undo each other (`escape_roundTrip`).  A name without NUL is
read back from its canonical spelling, and just that spelling is read; one with NUL has no
spelling at all, and the text that is written for it is refused for good.  No style of quoting
yields NUL, so whatever is read can be written again.

A bare spelling ends where no word character follows.  A quoted one ends at its backtick, whatever
follows, because every backtick of the name has a backslash in front, and so has every backslash.

Lists of tables are read back from their canonical spelling as well, with commas and with bars.
-/
import StoredFunctions.Names.Basic
import StoredFunctions.Proofs.Names.Reading

namespace StoredFunctions

open StoredFunctions.Parser Filler Punctuation

namespace Names

variable {name v t r : Text} {c : Cursor}

/-! ## 1. Names without NUL -/

theorem unescape?_ne_nul {code x : Char} (h : unescape? code = some x) : x ≠ '\x00' := by
  rintro rfl
  simp only [unescape?, backtick, Bool.or_eq_true, decide_eq_true_eq] at h
  split at h
  · rename_i hcode
    obtain rfl : code = '\x00' := Option.some.inj h
    exact absurd hcode (by decide)
  · repeat' split at h
    all_goals exact absurd h (by decide)

theorem Encodes.not_mem_nul (h : Encodes t name) : '\x00' ∉ name := by
  induction h with
  | nil => simp
  | plain _ _ hx _ ih => simp [Ne.symm hx, ih]
  | escape hcode _ ih => simp [Ne.symm (unescape?_ne_nul hcode), ih]

/-- **No spelling stands for a name with NUL in it.** -/
theorem Spells.not_mem_nul (h : Spells name t) : '\x00' ∉ name := by
  cases h with
  | bare hw => exact fun hmem => absurd (List.all_eq_true.mp hw.2 _ hmem) (by decide)
  | quoted ht => exact ht.not_mem_nul
  | bracketed _ hall => exact fun hmem => (hall _ hmem).2 rfl

/-! ## 2. What is written is read back -/

theorem escape_of_not_isBare (h : ¬ isBare v = true) :
    escape v = backtick :: (v.flatMap escapeChar ++ [backtick]) := by
  rw [escape, if_neg h]
  rfl

/-- **The canonical spelling is read, and nothing behind it.** -/
theorem anyName_escape (hv : '\x00' ∉ v) (hc : c.rest = escape v ++ r)
    (hr : isBare v = true → ∀ x ∈ r.head?, isWordChar x = false) :
    anyName c = .ok (v, c.past (escape v)) := by
  by_cases hb : isBare v = true
  · exact anyName_complete hc ⟨spells_escape hv, hr hb⟩
  · exact anyName_of_quoted hc ⟨_, escape_of_not_isBare hb, encodes_escapeChar hv⟩

/-- Whether a name is decoded from its canonical spelling, and that to its end. -/
def Decodes (name : Text) : Prop :=
  ∀ filename, anyName (Cursor.ofSource (escape name) filename) =
    .ok (name, Cursor.ofOffset (escape name) filename (escape name).length)

theorem decodes_of_not_mem_nul (h : '\x00' ∉ name) : Decodes name := by
  intro filename
  rw [anyName_escape h (List.append_nil _).symm (by simp), Cursor.past_ofSource]

/-! ## 3. Names with NUL -/

/-- Between backticks NUL is where the reading ends. -/
theorem quotedBody_of_nul (h : Encodes t name) :
    quotedBody (t ++ '\x00' :: r) = .error (.nul t.length) := by
  have hend : quotedBody ('\x00' :: r) = .error (.nul 0) := by
    rw [quotedBody] <;> simp [backtick]
  rw [quotedBody_append h, hend]
  simp [QuoteError.shift]

theorem not_isBare_of_mem_nul (h : '\x00' ∈ v) : ¬ isBare v = true := by
  intro hb
  simp only [isBare, Bool.and_eq_true] at hb
  exact absurd (List.all_eq_true.mp hb.1.2 _ h) (by decide)

/-- **What is written for a name with NUL is refused for good.** -/
theorem anyName_escape_nul (hv : '\x00' ∈ v) (hc : c.rest = escape v ++ r) :
    ∃ place, anyName c = .error (.failure ⟨.nulInName, place, true⟩) := by
  obtain ⟨a, b, rfl, ha⟩ := List.eq_append_cons_of_mem hv
  rw [escape_of_not_isBare (not_isBare_of_mem_nul hv)] at hc
  have hnul : escapeChar '\x00' = ['\x00'] := by decide
  have hopen : c.rest =
      [backtick] ++ (a.flatMap escapeChar ++
        '\x00' :: (b.flatMap escapeChar ++ ([backtick] ++ r))) := by
    rw [hc, List.flatMap_append, List.flatMap_cons, hnul]
    simp
  have hbody := quotedBody_of_nul (r := b.flatMap escapeChar ++ ([backtick] ++ r))
    (encodes_escapeChar ha)
  rw [← Cursor.rest_past hopen] at hbody
  have hquoted : quoted c = .error (.failure
      ⟨.nulInName, (c.past [backtick]).advance (a.flatMap escapeChar).length, true⟩) := by
    rw [quoted, (tag_exact (by simp)).complete hopen ⟨rfl, rfl⟩]
    simp only [hbody]
    rfl
  obtain ⟨f, hbare⟩ : ∃ f, anyName c = choose (some f) [quoted, bracketed] c :=
    choose_of_refuses (bare_refuses_cons hopen (by decide))
  exact ⟨_, hbare.trans (choose_of_committed hquoted rfl)⟩

end Names

/-! ## 4. Tables and lists of tables -/

namespace Table

variable {tables : List Table} {separator : Text}

theorem parser_sound : Sound parser (fun v t _ => Names.Spells v.name t) := by
  intro c v c' h
  obtain ⟨name, hname, rfl⟩ := map_ok_iff.mp h
  exact Names.anyName_sound hname

theorem parser_complete : Complete parser (fun v t r => Names.Spells v.name t ∧ Clear r) := by
  rintro c v t r hr ⟨hv, hclear⟩
  exact map_ok_iff.mpr
    ⟨v.name, Names.anyName_complete hr ⟨hv, fun x hx => (hclear x hx).1⟩, rfl⟩

theorem spells_solid (v : Table) (t : Text) (h : Names.Spells v.name t) : Solid t := h.solid

/-- **A list of tables is read back to its end**, whatever mark stands between them. -/
theorem separated1_listText {w f g filename : Text} (hw : IsMark w) (hf : IsFiller f)
    (hg : IsFiller g) (hsep : separator = f ++ (w ++ g)) (hne : tables ≠ [])
    (h : ∀ v ∈ tables, '\x00' ∉ v.name) :
    separated1 (surrounded w) parser (.ofSource (listText separator tables) filename) =
      .ok (tables, .ofOffset (listText separator tables) filename
        (listText separator tables).length) := by
  obtain ⟨first, more, rfl⟩ := List.exists_cons_of_ne_nil hne
  obtain ⟨hfirst, hmore⟩ := List.forall_mem_cons.mp h
  have htext : listText separator (first :: more) =
      first.text ++ (more.map text).flatMap (separator ++ ·) := by
    rw [listText, List.map_cons, Text.join_cons]
  have hrest : (Cursor.ofSource (listText separator (first :: more)) filename).rest =
      first.text ++ ((more.map text).flatMap (separator ++ ·) ++ []) := by
    rw [List.append_nil, ← htext]
    rfl
  have hspells : Names.Spells first.name first.text := Names.spells_escape hfirst
  have hfollowing : Following w (fun (v : Table) => Names.Spells v.name) more
      ((more.map text).flatMap (separator ++ ·)) := by
    rw [hsep]
    exact following_flatMap hf hg fun v hv => Names.spells_escape (hmore v hv)
  have hstop : Refuses (surrounded w) ((Cursor.ofSource (listText separator (first :: more))
      filename).past (first.text ++ (more.map text).flatMap (separator ++ ·))) :=
    surrounded_refuses_nil hw (Cursor.rest_past (by rw [hrest, List.append_assoc]))
  rw [separated1_complete hw spells_solid parser_complete hspells hfollowing (by simp [Clear])
    hrest hstop, ← htext, Cursor.past_ofSource]

end Table

/-! ## 5. Writing and reading -/

/-- **Names and lists of tables are read back from what is written for them.**  For every name and
every text behind its canonical spelling, where a bare spelling may end, the name is read and
just its spelling is taken; if there is NUL in the name, the reading fails for good.  Whatever
is read as a name, in any style, has no NUL in it and is decoded from its canonical spelling.  So
the lists of tables, with commas and with bars, are read back to their end. -/
theorem Names.escape_roundTrip (filename : Text) :
    (∀ v r, (isBare v = true → ∀ x ∈ r.head?, isWordChar x = false) →
      ('\x00' ∉ v → anyName (.ofSource (escape v ++ r) filename) =
        .ok (v, .ofOffset (escape v ++ r) filename (escape v).length)) ∧
      ('\x00' ∈ v → ∃ place, anyName (.ofSource (escape v ++ r) filename) =
        .error (.failure ⟨.nulInName, place, true⟩))) ∧
    (∀ c v d, anyName c = .ok (v, d) → '\x00' ∉ v ∧ Decodes v) ∧
    (∀ tables, tables ≠ [] → (∀ t ∈ tables, '\x00' ∉ t.name) →
      Table.commaList (.ofSource (Table.listText ", " tables) filename) =
        .ok (tables, .ofOffset (Table.listText ", " tables) filename
          (Table.listText ", " tables).length) ∧
      Table.barList (.ofSource (Table.listText " | " tables) filename) =
        .ok (tables, .ofOffset (Table.listText " | " tables) filename
          (Table.listText " | " tables).length)) := by
  refine ⟨?_, ?_, ?_⟩
  · intro v r hr
    constructor
    · intro hv
      rw [anyName_escape hv rfl hr, Cursor.past_ofSource]
    · exact fun hv => anyName_escape_nul hv rfl
  · intro c v d h
    obtain ⟨t, r, -, -, ht⟩ := anyName_sound h
    exact ⟨ht.not_mem_nul, decodes_of_not_mem_nul ht.not_mem_nul⟩
  · intro tables hne h
    exact ⟨Table.separated1_listText isMark_comma isFiller_nil isFiller_space spacedComma_eq hne h,
      Table.separated1_listText isMark_bar isFiller_space isFiller_space spacedBar_eq hne h⟩

end StoredFunctions
