/-
# Readers look at nothing in front of them

Every reader of the grammar is relative (`Relative`): one lemma for each, from the tokens up to
whole documents, and the readers that are sequences of others follow from these.  Those that keep a
place to come back to have to move it along:

* a name in quotes fails at its delimiter, or at a number of characters behind it;
* a union with a single member fails at its keyword, which is handed on to the arguments;
* a comma behind the element of a collection is tried, and taken back without a bound.
-/
import StoredFunctions.Proofs.Reading.Relocation
import StoredFunctions.Proofs.Statement.Location

namespace StoredFunctions

open StoredFunctions.Parser

variable {front : Text} {c d : Cursor}

/-! ## 1. Filler and punctuation -/

namespace Filler

theorem layout_relative : Relative layout := takeWhile_relative _

theorem block_relative : Relative block :=
  layout_relative.bind fun _ => (tag_relative _).bind fun _ => (takeUntil_relative _).bind fun _ =>
    (tag_relative _).bind fun _ => layout_relative.bind fun _ => .pure _

theorem lineComment_relative (marker : Text) : Relative (lineComment marker) :=
  layout_relative.bind fun _ => (tag_relative _).bind fun _ => (takeWhile_relative _).bind fun _ =>
    .pure _

theorem comment_relative : Relative comment := by
  refine firstOf_relative fun p hp => ?_
  simp only [List.mem_cons, List.not_mem_nil, or_false] at hp
  rcases hp with rfl | rfl | rfl | rfl
  · exact block_relative
  all_goals exact lineComment_relative _

theorem comments_relative : Relative comments :=
  layout_relative.bind fun _ => comment_relative.many1.bind fun _ => layout_relative.bind fun _ =>
    .pure _

theorem documentation_relative : Relative documentation := by
  refine firstOf_relative fun p hp => ?_
  simp only [List.mem_cons, List.not_mem_nil, or_false] at hp
  rcases hp with rfl | rfl
  · exact comments_relative
  · exact layout_relative.bind fun _ => .pure _

theorem skip_relative : Relative skip := documentation_relative.bind fun _ => .pure _

theorem skip1_relative : Relative skip1 := by
  refine firstOf_relative fun p hp => ?_
  simp only [List.mem_cons, List.not_mem_nil, or_false] at hp
  rcases hp with rfl | rfl
  · exact comments_relative.bind fun _ => .pure _
  · exact (takeWhile1_relative _ _).bind fun _ => .pure _

end Filler

namespace Punctuation

open Filler

theorem surrounded_relative (w : Text) : Relative (surrounded w) :=
  skip_relative.bind fun _ => (single_relative w).bind fun _ => skip_relative

theorem opening_relative (w : Text) : Relative (opening w) :=
  (single_relative w).bind fun _ => skip_relative

theorem closing_relative (w : Text) : Relative (closing w) :=
  skip_relative.bind fun _ => (single_relative w).bind fun _ => .pure _

theorem comma_relative : Relative comma := surrounded_relative _

theorem bar_relative : Relative bar := surrounded_relative _

theorem terminator_relative : Relative terminator :=
  skip_relative.bind fun _ => (single_relative _).many1.bind fun _ => layout_relative.bind fun _ =>
    .pure _

end Punctuation

/-! ## 2. Names -/

namespace Names

theorem bare_relative : Relative bare := takeWhile1_relative _ _

theorem quoted_relative : Relative quoted := by
  intro front c
  unfold quoted
  cases h : tag [backtick] c with
  | error fault => rw [(tag_relative _).error h]; rfl
  | ok x =>
    rw [(tag_relative _).ok h]
    simp only [Cursor.rest_moved, Cursor.advance_moved]
    rcases quotedBody x.2.rest with (_ | n | ⟨n, code⟩) | ⟨name, length⟩
    all_goals rfl

theorem bracketed_relative : Relative bracketed := by
  intro front c
  unfold bracketed
  cases h : tag [bracketOpen] c with
  | error fault => rw [(tag_relative _).error h]; rfl
  | ok x =>
    rw [(tag_relative _).ok h]
    simp only [Cursor.takeWhile_moved, Cursor.peek_moved, Cursor.advance_moved]
    split
    · rfl
    split
    · rfl
    · rfl

theorem anyName_relative : Relative anyName := by
  refine firstOf_relative fun p hp => ?_
  simp only [List.mem_cons, List.not_mem_nil, or_false] at hp
  rcases hp with rfl | rfl | rfl
  · exact bare_relative
  · exact quoted_relative
  · exact bracketed_relative

theorem path_relative : Relative path :=
  bare_relative.bind fun _ => ((tag_relative _).bind fun _ => bare_relative).many.bind fun _ =>
    .pure _

end Names

theorem Identifier.parser_relative : Relative Identifier.parser := Names.anyName_relative.map

namespace Table

theorem parser_relative : Relative parser := Names.anyName_relative.map

theorem commaList_relative : Relative commaList :=
  Punctuation.comma_relative.separated1 parser_relative

theorem barList_relative : Relative barList :=
  Punctuation.bar_relative.separated1 parser_relative

end Table

/-! ## 3. Kinds -/

namespace Kind

open Punctuation

variable {inner : Parser Kind}

theorem limit_relative : Relative limit := by
  intro front c
  unfold limit
  rw [Cursor.takeWhile_moved]
  rcases c.takeWhile isDigit with ⟨_ | ⟨x, t⟩, after⟩
  · rfl
  · simp only
    split
    · rfl
    · rfl

theorem limit?_relative : Relative limit? := by
  intro front c
  unfold limit?
  cases h : comma c with
  | error fault => rw [comma_relative.error h]; rfl
  | ok x => rw [comma_relative.ok h]; exact limit_relative.map _ _

theorem shape_relative : Relative shape := by
  intro front c
  unfold shape
  rw [Cursor.takeWhile_moved]
  simp only
  split
  · rfl
  · rfl

theorem collection_relative (former : Kind → Option Nat → Kind) (hi : Relative inner) :
    Relative (collection former inner) := by
  intro front c
  unfold collection
  rw [Cursor.peek_moved]
  split
  · exact ((opening_relative _).bind fun _ => hi.bind fun _ => limit?_relative.bind fun _ =>
      (closing_relative _).bind fun _ => .pure _) _ _
  · rfl

theorem recordArguments_relative : Relative recordArguments := by
  intro front c
  unfold recordArguments
  rw [Cursor.peek_moved]
  split
  · exact ((opening_relative _).bind fun _ => Table.barList_relative.bind fun _ =>
      (closing_relative _).bind fun _ => .pure _) _ _
  · rfl

theorem optionArguments_relative (hi : Relative inner) : Relative (optionArguments inner) :=
  (opening_relative _).bind fun _ => hi.bind fun _ => (closing_relative _).bind fun _ => .pure _

theorem geometryArguments_relative : Relative geometryArguments :=
  (opening_relative _).bind fun _ => shape_relative.bind fun _ =>
    (bar_relative.bind fun _ => shape_relative).many.bind fun _ =>
      (closing_relative _).bind fun _ => .pure _

/-- The keyword that a union with a single member fails at is moved along with its arguments. -/
theorem eitherArguments_moved (hi : Relative inner) :
    eitherArguments (c.moved front) inner (d.moved front) =
      moved front (eitherArguments c inner d) := by
  refine (opening_relative _).bind_at fun _ d => ?_
  refine (bar_relative.separated1 hi).bind_at fun members d => ?_
  refine (closing_relative _).bind_at fun _ d => ?_
  match members with
  | [] => rfl
  | [_] => rfl
  | first :: second :: more => rfl

theorem arguments_moved (former : Former) (hi : Relative inner) :
    arguments (c.moved front) inner former (d.moved front) =
      moved front (arguments c inner former d) := by
  cases former with
  | option => exact optionArguments_relative hi _ _
  | array => exact collection_relative array hi _ _
  | set => exact collection_relative set hi _ _
  | record => exact recordArguments_relative _ _
  | either => exact eitherArguments_moved hi
  | geometry => exact geometryArguments_relative _ _

/-- By induction on the depth: the kinds inside of a kind are read one level below. -/
theorem nested_relative (depth : Nat) : Relative (nested depth) := by
  induction depth with
  | zero => exact fail_relative _
  | succ depth ih =>
    intro front c
    unfold nested
    simp only [Cursor.takeWhile_moved]
    split
    · rfl
    split
    · rfl
    split
    · exact arguments_moved _ ih
    · rfl

/-- The depth comes from the length of the unread text, which is the same. -/
theorem parser_relative : Relative parser := by
  intro front c
  rw [parser, parser, Cursor.left_moved]
  exact nested_relative _ _ _

end Kind

/-! ## 4. Definitions -/

namespace Statement

open Punctuation Filler

theorem parameter_relative : Relative parameter :=
  (single_relative _).bind fun _ => Identifier.parser_relative.bind fun _ =>
    skip_relative.bind fun _ => (single_relative _).bind fun _ => skip_relative.bind fun _ =>
      Kind.parser_relative.cut.bind fun _ => .pure _

theorem toBrace_relative : Relative toBrace := by
  intro front c
  unfold toBrace
  rw [Cursor.find?_moved]
  cases c.find? "\x7d" with
  | none => rfl
  | some found =>
    simp only [Option.map_some, Nat.add_assoc, Cursor.jump_moved]
    rfl

theorem body_relative : Relative body :=
  (single_relative _).bind fun _ => skip_relative.bind fun _ => toBrace_relative

theorem definition_relative : Relative definition :=
  documentation_relative.bind fun _ => skip_relative.bind fun _ =>
    (tagFolded_relative _).bind fun _ => skip1_relative.bind fun _ =>
      (tagFolded_relative _).bind fun _ => skip1_relative.bind fun _ =>
        (tag_relative _).bind fun _ => Names.path_relative.bind fun _ => skip_relative.bind fun _ =>
          (opening_relative _).bind fun _ =>
            (comma_relative.separated parameter_relative).bind fun _ =>
              (closing_relative _).bind fun _ => skip_relative.bind fun _ =>
                body_relative.bind fun _ => .pure _

theorem definitions_relative : Relative definitions :=
  layout_relative.bind fun _ => (terminator_relative.separated1 definition_relative).bind fun _ =>
    terminator_relative.bind fun _ => .pure _

/-- **No reader looks at what is in front of it.**  Put any text in front of a document: from each
offset the readers succeed and fail as before, with the values and the causes of before, and all
places are moved by the length of that text, to the lines and columns that they have there. -/
theorem readers_onlyAhead :
    OnlyAhead Names.anyName ∧ OnlyAhead Names.path ∧ OnlyAhead Table.commaList ∧
      OnlyAhead Table.barList ∧ OnlyAhead Kind.parser ∧ OnlyAhead documentation ∧
      OnlyAhead skip1 ∧ OnlyAhead terminator ∧ OnlyAhead parameter ∧ OnlyAhead body ∧
      OnlyAhead definition ∧ OnlyAhead definitions :=
  ⟨Names.anyName_relative.onlyAhead Names.anyName_forward,
    Names.path_relative.onlyAhead Names.path_forward,
    Table.commaList_relative.onlyAhead Table.commaList_forward,
    Table.barList_relative.onlyAhead Table.barList_forward,
    Kind.parser_relative.onlyAhead Kind.parser_forward,
    documentation_relative.onlyAhead documentation_forward,
    skip1_relative.onlyAhead skip1_forward, terminator_relative.onlyAhead terminator_forward,
    parameter_relative.onlyAhead parameter_forward, body_relative.onlyAhead body_forward,
    definition_relative.onlyAhead definition_forward,
    definitions_relative.onlyAhead definitions_forward⟩

/-- A body that is not closed, behind a line that holds a brace and the end of a comment. -/
theorem unclosed_body_onlyAhead :
    let front : Text := "x \x7d */\n"
    let source : Text := "\x7b /* y */"
    let g : Failure := ⟨.unclosedBody, .ofOffset (front ++ source) "f" 16, false⟩
    0 ≤ source.length ∧ body (.ofOffset source "f" 0) =
        .error (.failure ⟨.unclosedBody, .ofOffset source "f" 9, false⟩) ∧
      body (.ofOffset (front ++ source) "f" (front.length + 0)) = .error (.failure g) ∧
      (front ++ source).Locates g.offset g.line g.column ∧ g.line = 2 ∧ g.column = 10 := by
  intro front source g
  obtain ⟨-, -, -, -, -, -, -, -, -, hbody, -, -⟩ := readers_onlyAhead
  have hhere : body (.ofOffset source "f" 0) =
      .error (.failure ⟨.unclosedBody, .ofOffset source "f" 9, false⟩) := by decide +kernel
  have hthere : body (.ofOffset (front ++ source) "f" (front.length + 0)) = .error (.failure g) :=
    (hbody.failure _ _ _ _ g (Nat.zero_le _)).mpr ⟨_, hhere, rfl, rfl, rfl, rfl, by decide +kernel⟩
  exact ⟨Nat.zero_le _, hhere, hthere, hbody.location _ _ _ _ g (Nat.zero_le _) hthere,
    by decide +kernel, by decide +kernel⟩

end Statement

end StoredFunctions
