/-
# Where the readers of a document stop and fail

Every reader of the grammar goes forward (`Forward`): one lemma for each, from the tokens up to
whole documents.  Only filler may be empty; all other readers are strict.

Most of them are sequences of earlier ones.  The others are read off their definitions:

* a name in quotes fails at its delimiter, or at the character that is wrong inside;
* a union with a single member fails at its keyword, which is in front of what has been read;
* a body is passed by a search, and its end is the place behind what was found.
-/
import StoredFunctions.Proofs.Reading.Location
import StoredFunctions.Proofs.Statement.Faults

namespace StoredFunctions

open StoredFunctions.Parser

variable {s : Bool} {c d : Cursor}

/-! ## 1. Filler and punctuation -/

namespace Filler

theorem layout_forward : Forward false layout := takeWhile_forward _

theorem block_forward : Forward true block :=
  layout_forward.bind_right fun _ => (tag_forward (Text.of_ne_nil (by simp))).bind fun _ =>
    (takeUntil_forward (Text.of_ne_nil (by simp))).bind fun _ =>
      (tag_forward (Text.of_ne_nil (by simp))).bind fun _ => layout_forward.bind fun _ => .pure _

theorem lineComment_forward {marker : Text} (h : marker ≠ []) : Forward true (lineComment marker) :=
  layout_forward.bind_right fun _ => (tag_forward h).bind fun _ =>
    (takeWhile_forward _).bind fun _ => .pure _

theorem comment_forward : Forward true comment := by
  refine firstOf_forward fun p hp => ?_
  simp only [List.mem_cons, List.not_mem_nil, or_false] at hp
  rcases hp with rfl | rfl | rfl | rfl
  · exact block_forward
  all_goals exact lineComment_forward (Text.of_ne_nil (by simp))

theorem comments_forward : Forward true comments :=
  layout_forward.bind_right fun _ => comment_forward.many1.bind fun _ =>
    layout_forward.bind fun _ => .pure _

theorem documentation_forward : Forward false documentation := by
  refine firstOf_forward fun p hp => ?_
  simp only [List.mem_cons, List.not_mem_nil, or_false] at hp
  rcases hp with rfl | rfl
  · exact comments_forward.weaken
  · exact layout_forward.bind fun _ => .pure _

theorem skip_forward : Forward false skip := documentation_forward.bind fun _ => .pure _

theorem skip1_forward : Forward true skip1 := by
  refine firstOf_forward fun p hp => ?_
  simp only [List.mem_cons, List.not_mem_nil, or_false] at hp
  rcases hp with rfl | rfl
  · exact comments_forward.bind fun _ => .pure _
  · exact (takeWhile1_forward _ _).bind fun _ => .pure _

end Filler

namespace Punctuation

open Filler

variable {w : Text}

theorem surrounded_forward (hw : w ≠ []) : Forward true (surrounded w) :=
  skip_forward.bind_right fun _ => (single_forward hw).bind fun _ => skip_forward

theorem opening_forward (hw : w ≠ []) : Forward true (opening w) :=
  (single_forward hw).bind fun _ => skip_forward

theorem closing_forward (hw : w ≠ []) : Forward true (closing w) :=
  skip_forward.bind_right fun _ => (single_forward hw).bind fun _ => .pure _

theorem comma_forward : Forward true comma := surrounded_forward (Text.of_ne_nil (by simp))

theorem bar_forward : Forward true bar := surrounded_forward (Text.of_ne_nil (by simp))

theorem openChevron_forward : Forward true openChevron :=
  opening_forward (Text.of_ne_nil (by simp))

theorem closeChevron_forward : Forward true closeChevron :=
  closing_forward (Text.of_ne_nil (by simp))

theorem terminator_forward : Forward true terminator :=
  skip_forward.bind_right fun _ =>
    (single_forward (Text.of_ne_nil (by simp))).many1.bind fun _ =>
      layout_forward.bind fun _ => .pure _

end Punctuation

/-! ## 2. Names -/

namespace Names

theorem bare_forward : Forward true bare := takeWhile1_forward _ _

theorem advance_ahead {n : Nat} (h : c.Ahead s d) : c.Ahead s (d.advance n) :=
  h.trans (Cursor.ahead_advance (s := false) h.inside fun h => absurd h (by simp))

theorem quoted_forward : Forward true quoted := by
  intro c hc
  have htag := tag_forward (w := [backtick]) (by simp) c hc
  unfold quoted
  cases h : tag [backtick] c with
  | error fault =>
    rw [h] at htag
    exact htag.fault
  | ok x =>
    rw [h] at htag
    have hinside : c.Ahead true x.2 := htag
    simp only
    split
    · exact advance_ahead hinside
    · exact Cursor.Ahead.refl hc
    · exact advance_ahead hinside.weaken
    · exact advance_ahead hinside.weaken

theorem bracketed_forward : Forward true bracketed := by
  intro c hc
  have htag := tag_forward (w := [bracketOpen]) (by simp) c hc
  unfold bracketed
  cases h : tag [bracketOpen] c with
  | error fault =>
    rw [h] at htag
    exact htag.fault
  | ok x =>
    rw [h] at htag
    have hinside : c.Ahead true x.2 := htag
    have hafter := hinside.trans
      (Cursor.ahead_takeWhile (s := false) (fun y => y != bracketClose && y != '\x00')
        hinside.inside fun h => absurd h (by simp))
    simp only
    split
    · exact hafter.weaken
    split
    · exact Cursor.Ahead.refl hc
    · exact advance_ahead hafter

theorem anyName_forward : Forward true anyName := by
  refine firstOf_forward fun p hp => ?_
  simp only [List.mem_cons, List.not_mem_nil, or_false] at hp
  rcases hp with rfl | rfl | rfl
  · exact bare_forward
  · exact quoted_forward
  · exact bracketed_forward

theorem path_forward : Forward true path :=
  bare_forward.bind fun _ =>
    ((tag_forward (Text.of_ne_nil (by simp))).bind fun _ => bare_forward).many.bind fun _ =>
      .pure _

end Names

theorem Identifier.parser_forward : Forward true Identifier.parser := Names.anyName_forward.map

namespace Table

theorem parser_forward : Forward true parser := Names.anyName_forward.map

theorem commaList_forward : Forward true commaList :=
  Punctuation.comma_forward.separated1 parser_forward

theorem barList_forward : Forward true barList :=
  Punctuation.bar_forward.separated1 parser_forward

end Table

/-! ## 3. Kinds -/

namespace Kind

open Punctuation

variable {inner : Parser Kind}

theorem limit_forward : Forward false limit := by
  intro c hc
  have hdigits := Cursor.ahead_takeWhile (s := false) isDigit hc fun h => absurd h (by simp)
  unfold limit
  split
  · exact fail_forward _ c hc
  · rename_i digits after _ htake
    rw [htake] at hdigits
    split
    · trivial
    · exact hdigits

/-- A comma without a bound fails behind the comma; without a comma nothing is read. -/
theorem limit?_forward : Forward false limit? := by
  intro c hc
  have hcomma := comma_forward c hc
  unfold limit?
  cases h : comma c with
  | error fault => exact Cursor.Ahead.refl hc
  | ok x =>
    rw [h] at hcomma
    exact .of_ahead_right hcomma (limit_forward.map x.2 hcomma.inside)

theorem shape_forward : Forward false shape := by
  intro c hc
  unfold shape
  simp only
  split
  · exact fail_forward _ c hc
  · exact Cursor.ahead_takeWhile isWordChar hc fun h => absurd h (by simp)

theorem collection_forward (former : Kind → Option Nat → Kind) (hi : Forward s inner) :
    Forward false (collection former inner) := by
  intro c hc
  unfold collection
  split
  · exact ((openChevron_forward.bind fun _ => hi.bind fun _ => limit?_forward.bind fun _ =>
      closeChevron_forward.bind fun _ => .pure _) c hc).weaken
  · exact Cursor.Ahead.refl hc

theorem recordArguments_forward : Forward false recordArguments := by
  intro c hc
  unfold recordArguments
  split
  · exact ((openChevron_forward.bind fun _ => Table.barList_forward.bind fun _ =>
      closeChevron_forward.bind fun _ => .pure _) c hc).weaken
  · exact Cursor.Ahead.refl hc

theorem optionArguments_forward (hi : Forward s inner) : Forward true (optionArguments inner) :=
  openChevron_forward.bind fun _ => hi.bind fun _ => closeChevron_forward.bind fun _ => .pure _

theorem geometryArguments_forward : Forward true geometryArguments :=
  openChevron_forward.bind fun _ => shape_forward.bind fun _ =>
    (bar_forward.bind fun _ => shape_forward).many.bind fun _ =>
      closeChevron_forward.bind fun _ => .pure _

/-- The arguments of a union do not go forward from where they start: with a single member they fail
at the keyword in front of them. -/
theorem eitherArguments_placed (hi : Forward s inner) (h : c.Ahead true d) :
    Placed true c (eitherArguments c inner d) := by
  have hopen : Placed true c (openChevron d) := .of_ahead h (openChevron_forward d h.inside)
  refine hopen.bind fun _ d h => ?_
  have hmembers : Placed true c (separated1 bar inner d) :=
    .of_ahead h (bar_forward.separated1 hi d h.inside)
  refine hmembers.bind fun members d h => ?_
  have hclose : Placed true c (closeChevron d) := .of_ahead h (closeChevron_forward d h.inside)
  refine hclose.bind fun _ d h => ?_
  split
  · exact h
  · exact h.start

theorem arguments_placed (former : Former) (hi : Forward s inner) (h : c.Ahead true d) :
    Placed true c (arguments c inner former d) := by
  cases former with
  | option => exact .of_ahead h (optionArguments_forward hi d h.inside)
  | array => exact .of_ahead h (collection_forward array hi d h.inside)
  | set => exact .of_ahead h (collection_forward set hi d h.inside)
  | record => exact .of_ahead h (recordArguments_forward d h.inside)
  | either => exact eitherArguments_placed hi h
  | geometry => exact .of_ahead h (geometryArguments_forward d h.inside)

/-- By induction on the depth: the kinds inside of a kind are read one level below. -/
theorem nested_forward (depth : Nat) : Forward true (nested depth) := by
  induction depth with
  | zero => exact fail_forward _
  | succ depth ih =>
    intro c hc
    unfold nested
    simp only
    split
    · exact fail_forward _ c hc
    rename_i hword
    have hafter : c.Ahead true (c.takeWhile isWordChar).2 :=
      Cursor.ahead_takeWhile isWordChar hc fun _ => by simpa using hword
    split
    · exact hafter
    split
    · exact arguments_placed _ ih hafter
    · exact fail_forward _ c hc

theorem parser_forward : Forward true parser := fun c hc => nested_forward _ c hc

end Kind

/-! ## 4. Definitions and documents -/

namespace Statement

open Punctuation Filler

variable {filename source : Text} {f : Failure} {statements : List Statement}

theorem parameter_forward : Forward true parameter :=
  (single_forward (Text.of_ne_nil (by simp))).bind fun _ => Identifier.parser_forward.bind fun _ =>
    skip_forward.bind fun _ => (single_forward (Text.of_ne_nil (by simp))).bind fun _ =>
      skip_forward.bind fun _ => Kind.parser_forward.cut.bind fun _ => .pure _

theorem toBrace_forward : Forward true toBrace := by
  intro c hc
  cases h : toBrace c with
  | ok x =>
    obtain ⟨t, r, hr, hx, u, rfl, -⟩ := toBrace_exact.sound h
    rw [Placed, hx]
    exact Cursor.ahead_past hc hr fun _ => by simp
  | error fault =>
    unfold toBrace at h
    split at h
    · obtain rfl := Except.error.inj h
      exact Cursor.Ahead.refl hc
    · exact absurd h (by simp)

theorem body_forward : Forward true body :=
  (single_forward (Text.of_ne_nil (by simp))).bind fun _ => skip_forward.bind fun _ =>
    toBrace_forward

theorem definition_forward : Forward true definition :=
  documentation_forward.bind_right fun _ => skip_forward.bind_right fun _ =>
    (tagFolded_forward (by rw [Text.of_eq]; decide)).bind fun _ => skip1_forward.bind fun _ =>
      (tagFolded_forward (by rw [Text.of_eq]; decide)).bind fun _ => skip1_forward.bind fun _ =>
        (tag_forward (Text.of_ne_nil (by simp))).bind fun _ => Names.path_forward.bind fun _ =>
          skip_forward.bind fun _ =>
            (opening_forward (Text.of_ne_nil (by simp))).bind fun _ =>
              (comma_forward.separated parameter_forward).bind fun _ =>
                (closing_forward (Text.of_ne_nil (by simp))).bind fun _ =>
                  skip_forward.bind fun _ => body_forward.bind fun _ => .pure _

theorem definitions_forward : Forward true definitions :=
  layout_forward.bind_right fun _ =>
    (terminator_forward.separated1 definition_forward).bind fun _ =>
      terminator_forward.bind fun _ => .pure _

theorem document_forward : Forward true document :=
  definitions_forward.bind fun _ => skip_forward.bind fun _ => .pure _

/-- A document that is read is read to its end. -/
theorem exists_document_of_parseAll (h : parseAll filename source = .ok statements) :
    ∃ d, document (.ofSource source filename) = .ok (statements, d) ∧ d.source = source ∧
      d.offset = source.length := by
  obtain ⟨d, hcomplete⟩ := map_fst_ok_iff.mp h
  obtain ⟨hdocument, hrest⟩ := complete_ok_iff.mp hcomplete
  have hplaced := document_forward (.ofSource source filename) (Nat.zero_le _)
  rw [hdocument] at hplaced
  have hinside : d.offset ≤ d.source.length := hplaced.inside
  have hlength := d.rest_length
  rw [hrest, List.length_nil] at hlength
  have hend : d.offset = d.source.length := by omega
  have hsource : d.source = source := hplaced.source
  exact ⟨d, hdocument, hsource, by rw [hend, hsource]⟩

theorem parseAll_failure (h : parseAll filename source = .error (.failure f)) :
    f.place.source = source ∧ f.place.filename = filename ∧ f.offset ≤ source.length ∧
      source.Locates f.offset f.line f.column := by
  obtain ⟨hsource, hfilename, -, hinside, hlocates⟩ := document_forward.complete.wellPlaced.failure
    source filename 0 f (Nat.zero_le _) (map_fst_error_iff.mp h)
  exact ⟨hsource, hfilename, hinside, hlocates⟩

/-- **Every result and every failure of the grammar is well placed.**  From any offset of any
document, each reader stops at a later one, or, if it reads filler that may be empty, at the same
one; it fails at an offset that is not in front of its start, with the line and the column of that
offset.  A document that is read is read to its end, and one that is not fails at a place inside it
or at its end. -/
theorem readers_wellPlaced :
    WellPlaced true Names.anyName ∧ WellPlaced true Names.path ∧ WellPlaced true Table.parser ∧
      WellPlaced true Table.commaList ∧ WellPlaced true Table.barList ∧
      WellPlaced true Kind.parser ∧ WellPlaced true Filler.comments ∧
      WellPlaced false documentation ∧ WellPlaced false skip ∧ WellPlaced true skip1 ∧
      WellPlaced true comma ∧ WellPlaced true bar ∧ WellPlaced true terminator ∧
      WellPlaced true parameter ∧ WellPlaced true body ∧ WellPlaced true definition ∧
      WellPlaced true definitions ∧
      (∀ filename source statements, parseAll filename source = .ok statements →
        ∃ d, document (.ofSource source filename) = .ok (statements, d) ∧ d.source = source ∧
          d.offset = source.length) ∧
      ∀ filename source f, parseAll filename source = .error (.failure f) →
        f.place.source = source ∧ f.place.filename = filename ∧ f.offset ≤ source.length ∧
          source.Locates f.offset f.line f.column := by
  refine ⟨Names.anyName_forward.wellPlaced, Names.path_forward.wellPlaced,
    Table.parser_forward.wellPlaced, Table.commaList_forward.wellPlaced,
    Table.barList_forward.wellPlaced, Kind.parser_forward.wellPlaced,
    comments_forward.wellPlaced, documentation_forward.wellPlaced, skip_forward.wellPlaced,
    skip1_forward.wellPlaced, comma_forward.wellPlaced, bar_forward.wellPlaced,
    terminator_forward.wellPlaced, parameter_forward.wellPlaced, body_forward.wellPlaced,
    definition_forward.wellPlaced, definitions_forward.wellPlaced, ?_, ?_⟩
  · intro filename source statements h
    exact exists_document_of_parseAll h
  · intro filename source f h
    exact parseAll_failure h

/-- A union with a single member, in the second line: what is wrong is found behind its closing
bracket, and is reported at its keyword. -/
theorem lonely_union_placed :
    let source : Text := "DEFINE FUNCTION fn::a(\n  $x: either<int>) \x7b\x7d;"
    let f : Failure := ⟨.lonelyUnion, .ofOffset source "f" 29, true⟩
    parseAll "f" source = .error (.failure f) ∧ f.place.source = source ∧
      f.place.filename = Text.of "f" ∧ f.offset ≤ source.length ∧
      source.Locates f.offset f.line f.column ∧ f.line = 2 ∧ f.column = 7 := by
  intro source f
  have hfails : parseAll "f" source = .error (.failure f) := by decide +kernel
  obtain ⟨-, -, -, -, -, -, -, -, -, -, -, -, -, -, -, -, -, -, hfailure⟩ := readers_wellPlaced
  obtain ⟨hsource, hfilename, hinside, hlocates⟩ := hfailure _ _ _ hfails
  exact ⟨hfails, hsource, hfilename, hinside, hlocates, by decide +kernel, by decide +kernel⟩

end Statement

end StoredFunctions
