/-
# The repetitions and the recursion of the grammar

Two things could keep the grammar from coming to an end.

* It repeats elements (`Repeated`).  All of them go forward, so every repetition ends.
* Kinds stand inside of kinds.  `Kind.level` is one level of a kind, with a parser of its own for the
  kinds inside.  These are read behind the keyword, from fewer characters, so that as many levels as
  there are characters left, and one, are enough, whatever stands below them.
-/
import Mathlib.Logic.Function.Iterate
import StoredFunctions.Proofs.Reading.Progress
import StoredFunctions.Proofs.Statement.Location

namespace StoredFunctions

/-! ## 1. Agreement behind a place -/

theorem Cursor.Ahead.left_lt {c d : Cursor} (h : c.Ahead true d) : d.left < c.left := by
  have hlt := h.lt rfl
  have hinside := h.inside
  rw [h.source] at hinside
  rw [Cursor.left_eq_sub, Cursor.left_eq_sub, h.source]
  omega

namespace Parser

variable {α β : Type} {p q : Parser α} {s : Bool} {c : Cursor}

/-- Two parsers come to the same from every place of a document behind `c`. -/
def AgreeBehind (c : Cursor) (p q : Parser α) : Prop := ∀ d, c.Ahead true d → p d = q d

theorem AgreeBehind.refl (p : Parser α) : AgreeBehind c p p := fun _ _ => rfl

theorem AgreeBehind.bind {f g : α → Parser β} (h : AgreeBehind c p q) (hp : Forward s p)
    (hf : ∀ a, AgreeBehind c (f a) (g a)) : AgreeBehind c (p >>= f) (q >>= g) := by
  intro d hd
  have hplaced := hp d hd.inside
  cases hpd : p d with
  | error fault => rw [bind_of_error hpd, bind_of_error ((h d hd).symm.trans hpd)]
  | ok x =>
    rw [hpd] at hplaced
    rw [bind_of_ok hpd, bind_of_ok ((h d hd).symm.trans hpd)]
    exact hf x.1 x.2 (hd.trans hplaced)

theorem AgreeBehind.many (h : AgreeBehind c p q) (hp : Forward s p) :
    AgreeBehind c (Parser.many p) (Parser.many q) := by
  intro d hd
  induction d using many_induction p with
  | refused d hr =>
    obtain ⟨f, hf, hmild⟩ := hr
    rw [many_of_refuses ⟨f, hf, hmild⟩, many_of_refuses ⟨f, (h d hd).symm.trans hf, hmild⟩]
  | raised d fault hf hfinal =>
    rw [many_of_final hf hfinal, many_of_final ((h d hd).symm.trans hf) hfinal]
  | stalled d a e he hlt =>
    rw [many_of_stalled he hlt, many_of_stalled ((h d hd).symm.trans he) hlt]
  | kept d a e he hlt ih =>
    have hplaced := hp d hd.inside
    rw [he] at hplaced
    rw [many_of_kept he hlt, many_of_kept ((h d hd).symm.trans he) hlt, ih (hd.trans hplaced)]

theorem AgreeBehind.separated1 {separator : Parser β} {s' : Bool}
    (hseparator : Forward s' separator) (h : AgreeBehind c p q) (hp : Forward s p) :
    AgreeBehind c (Parser.separated1 separator p) (Parser.separated1 separator q) :=
  h.bind hp fun _ =>
    (((refl separator).bind hseparator fun _ => h).many (hseparator.bind fun _ => hp)).bind
      (hseparator.bind fun _ => hp).many fun _ => .refl _

end Parser

open StoredFunctions.Parser

/-! ## 2. Kinds inside of kinds -/

namespace Kind

open Punctuation

variable {inner inner' : Parser Kind} {s : Bool} {c d : Cursor} {n m : Nat}

/-- One level of a kind: the keyword and its arguments, with `inner` for the kinds inside. -/
def level (inner : Parser Kind) : Parser Kind := fun c =>
  let (word, after) := c.takeWhile isWordChar
  if word.isEmpty then fail (.expected "a type") c
  else match Primitive.ofText? word.fold with
    | some p => .ok (primitive p, after)
    | none =>
      match Former.ofText? word.fold with
      | some former => arguments c inner former after
      | none => fail (.unknownType word) c

theorem nested_succ (depth : Nat) : nested (depth + 1) = level (nested depth) := rfl

section

variable (h : AgreeBehind c inner inner') (hi : Forward s inner)

include h hi

theorem optionArguments_agree :
    AgreeBehind c (optionArguments inner) (optionArguments inner') :=
  (AgreeBehind.refl _).bind openChevron_forward fun _ => h.bind hi fun _ => .refl _

theorem collection_agree (former : Kind → Option Nat → Kind) :
    AgreeBehind c (collection former inner) (collection former inner') := by
  intro d hd
  unfold collection
  split
  · exact ((AgreeBehind.refl _).bind openChevron_forward fun _ => h.bind hi fun _ => .refl _) d hd
  · rfl

theorem eitherArguments_agree (start : Cursor) :
    AgreeBehind c (eitherArguments start inner) (eitherArguments start inner') :=
  (AgreeBehind.refl _).bind openChevron_forward fun _ =>
    (h.separated1 bar_forward hi).bind (bar_forward.separated1 hi) fun _ => .refl _

/-- The arguments of a kind read the kinds inside only where they start, or behind. -/
theorem arguments_agree (start : Cursor) (former : Former) :
    AgreeBehind c (arguments start inner former) (arguments start inner' former) := by
  cases former with
  | option => exact optionArguments_agree h hi
  | array => exact collection_agree h hi array
  | set => exact collection_agree h hi set
  | record => exact .refl _
  | either => exact eitherArguments_agree h hi start
  | geometry => exact .refl _

/-- A level reads the kinds inside behind its keyword only. -/
theorem level_congr (hc : c.offset ≤ c.source.length) : level inner c = level inner' c := by
  unfold level
  simp only
  split
  · rfl
  rename_i hword
  have hafter : c.Ahead true (c.takeWhile isWordChar).2 :=
    Cursor.ahead_takeWhile isWordChar hc fun _ => by simpa using hword
  split
  · rfl
  split
  · exact arguments_agree h hi c _ _ hafter
  · rfl

end

/-- **Levels below the last character are not reached.**  By induction on the number of levels: one
level further in, fewer characters are left. -/
theorem iterate_level (inner : Parser Kind) (hc : c.offset ≤ c.source.length) (hn : c.left < n)
    (hm : c.left < m) : level^[n] inner c = nested m c := by
  induction n generalizing c m with
  | zero => omega
  | succ n ih =>
    obtain ⟨m, rfl⟩ : ∃ k, m = k + 1 := ⟨m - 1, by omega⟩
    have hagree : AgreeBehind c (nested m) (level^[n] inner) := by
      intro d hd
      have hlt := hd.left_lt
      exact (ih hd.inside (by omega) (by omega)).symm
    rw [Function.iterate_succ_apply', nested_succ]
    exact (level_congr hagree (nested_forward m) hc).symm

/-- The kinds inside of a kind are kinds: `parser` solves the equation that describes it. -/
theorem level_parser_eq (hc : c.offset ≤ c.source.length) : level parser c = parser c := by
  have hagree : AgreeBehind c (nested c.left) parser := by
    intro d hd
    have hlt := hd.left_lt
    rw [parser, ← iterate_level parser hd.inside hlt hlt]
    exact iterate_level parser hd.inside hlt d.left.lt_succ_self
  exact (level_congr hagree (nested_forward _) hc).symm

end Kind

/-! ## 3. Repetitions -/

namespace Statement

open Punctuation Filler

/-- The elements of the repetitions of the grammar, with the separators in front of them. -/
inductive Repeated : {α : Type} → Parser α → Prop
  /-- The comments of a run of filler. -/
  | comment : Repeated comment
  /-- The semicolons behind a definition. -/
  | semicolon : Repeated (single ";")
  /-- The segments of a path. -/
  | segment : Repeated (do let _ ← tag "::"; Names.bare)
  /-- The tables of a list, by commas. -/
  | table : Repeated (do let _ ← comma; Table.parser)
  /-- The tables of a record. -/
  | recordTable : Repeated (do let _ ← bar; Table.parser)
  /-- The shapes of a geometry. -/
  | shape : Repeated (do let _ ← bar; Kind.shape)
  /-- The members of a union, at any depth. -/
  | member (depth : Nat) : Repeated (do let _ ← bar; Kind.nested depth)
  /-- The parameters of a definition. -/
  | parameter : Repeated (do let _ ← comma; parameter)
  /-- The definitions of a document. -/
  | definition : Repeated (do let _ ← terminator; definition)

theorem Repeated.forward {α : Type} {p : Parser α} (h : Repeated p) : Forward true p := by
  cases h with
  | comment => exact comment_forward
  | semicolon => exact single_forward (Text.of_ne_nil (by simp))
  | segment => exact (tag_forward (Text.of_ne_nil (by simp))).bind fun _ => Names.bare_forward
  | table => exact comma_forward.bind fun _ => Table.parser_forward
  | recordTable => exact bar_forward.bind fun _ => Table.parser_forward
  | shape => exact bar_forward.bind fun _ => Kind.shape_forward
  | member depth => exact bar_forward.bind fun _ => Kind.nested_forward depth
  | parameter => exact comma_forward.bind fun _ => parameter_forward
  | definition => exact terminator_forward.bind fun _ => definition_forward

/-- **Repetitions make progress and come to an end.**  Let an element, and a separator, stay in a
document.  From any place of it `many`, `many1` and `separated1` are loops that go in one way only,
with at most one attempt for each character left, and one, after the first element.  Each element
that is kept behind the first ends strictly behind the one before it, and they stop where the last
one ends, unless it is for good that an attempt fails there.

All repetitions of the grammar are of this sort, and its recursion is bounded: a kind is read by as
many levels as there are characters left, and one, whatever stands below them. -/
theorem repetitions_end :
    (∀ (α β : Type) (source : Text) (p : Parser α) (separator : Parser β) (c : Cursor),
      StaysIn source p → StaysIn source separator → c.source = source →
        c.offset ≤ source.length →
          (∃ n items ending, Repetition p c [] c n items ending (many p c)) ∧
            Begun p p c (many1 p c) ∧
            Begun p (do let _ ← separator; p) c (separated1 separator p c)) ∧
      (∀ (α : Type) (p : Parser α) (c : Cursor), Repeated p → c.offset ≤ c.source.length →
        ∃ n items ending, Repetition p c [] c n items ending (many p c)) ∧
      ∀ c : Cursor, c.offset ≤ c.source.length → Kind.level Kind.parser c = Kind.parser c ∧
        ∀ inner n, c.left < n → Kind.level^[n] inner c = Kind.parser c := by
  refine ⟨?_, ?_, ?_⟩
  · intro α β source p separator c hp hseparator hc hoffset
    exact ⟨hp.repetition hc hoffset, hp.many1_begun hc hoffset,
      hseparator.separated1_begun hp hc hoffset⟩
  · intro α p c hp hoffset
    exact hp.forward.staysIn.repetition rfl hoffset
  · intro c hc
    refine ⟨Kind.level_parser_eq hc, fun inner n hn => ?_⟩
    exact Kind.iterate_level inner hc hn c.left.lt_succ_self

/-- Behind the last element of a list there is a comma that none follows, and it is left unread.  A
kind of three letters is read by four levels, whatever stands below them. -/
theorem trailing_comma_unread :
    let c := Cursor.ofSource "a,b,;" "f"
    Begun Names.bare (do let _ ← single ","; Names.bare) c (separated1 (single ",") Names.bare c) ∧
      separated1 (single ",") Names.bare c = .ok (["a", "b"], .ofOffset "a,b,;" "f" 3) ∧
      (∃ n items ending, Repetition Filler.comment c [] c n items ending (many comment c)) ∧
      Kind.level^[4] (fail .noAlternatives) (.ofSource "int" "f") =
        Kind.parser (.ofSource "int" "f") := by
  intro c
  obtain ⟨hloops, hgrammar, hkinds⟩ := repetitions_end
  have hcomma : Forward true (single ",") := single_forward (Text.of_ne_nil (by simp))
  obtain ⟨-, -, hbegun⟩ := hloops _ _ c.source Names.bare (single ",") c
    Names.bare_forward.staysIn hcomma.staysIn rfl (Nat.zero_le _)
  exact ⟨hbegun, by decide +kernel, hgrammar _ comment c .comment (Nat.zero_le _),
    (hkinds (.ofSource "int" "f") (Nat.zero_le _)).2 _ 4 (by decide +kernel)⟩

end Statement

end StoredFunctions
