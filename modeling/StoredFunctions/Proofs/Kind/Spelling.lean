/-
# The source texts of a kind

`Spelling k t` says that the text `t` spells the kind `k`, with nothing before it and nothing
behind it.  It is the grammar of kinds as a document's author knows it; nothing in it speaks of
cursors, of depth, or of what a parser tries first.

Keywords may be in any letter case and are followed directly by the bracket of their arguments.
Within the brackets filler may stand in front of the first argument, behind the last one, and on
both sides of every bar and comma.

A spelling that ends in a word is read as that kind only where the word ends, and `array`, `set`
and `record` alone only where no arguments follow: that is `Stops`.
-/
import StoredFunctions.Proofs.Names.Reading
import StoredFunctions.Proofs.Text.Folding
import StoredFunctions.Kind.Reader

namespace StoredFunctions.Kind

open Filler Punctuation

/-! ## 1. The grammar -/

/-- Arguments between chevrons, with filler inside of these. -/
def Enclosed (inner t : Text) : Prop :=
  ∃ f g, t = "<" ++ (f ++ (inner ++ (g ++ ">"))) ∧ IsFiller f ∧ IsFiller g

/-- The bound of a collection, behind its element: a comma and digits, or nothing. -/
inductive Bound : Option Nat → Text → Prop
  | none : Bound none []
  | some {f g digits : Text} :
      IsFiller f → IsFiller g → digits ≠ [] → digits.length ≤ digitLimit →
        digits.all isDigit = true →
          Bound (some digits.toNat) (f ++ ("," ++ (g ++ digits)))

/-- `Spelling k t`: the text `t` spells the kind `k`. -/
inductive Spelling : Kind → Text → Prop
  | primitive {p : Primitive} {w : Text} : w.fold = p.text → Spelling (primitive p) w
  | option {inner : Kind} {w t a : Text} :
      w.fold = Former.option.text → Spelling inner t → Enclosed t a →
        Spelling (option inner) (w ++ a)
  | bareArray {w : Text} : w.fold = Former.array.text → Spelling (array any none) w
  | array {inner : Kind} {limit : Option Nat} {w t b a : Text} :
      w.fold = Former.array.text → Spelling inner t → Bound limit b → Enclosed (t ++ b) a →
        Spelling (array inner limit) (w ++ a)
  | bareSet {w : Text} : w.fold = Former.set.text → Spelling (set any none) w
  | set {inner : Kind} {limit : Option Nat} {w t b a : Text} :
      w.fold = Former.set.text → Spelling inner t → Bound limit b → Enclosed (t ++ b) a →
        Spelling (set inner limit) (w ++ a)
  | bareRecord {w : Text} : w.fold = Former.record.text → Spelling (record []) w
  | record {table : Table} {more : List Table} {w t u a : Text} :
      w.fold = Former.record.text → Names.Spells table.name t →
        Following "|" (fun (table : Table) => Names.Spells table.name) more u →
          Enclosed (t ++ u) a → Spelling (record (table :: more)) (w ++ a)
  | either {first second : Kind} {more : List Kind} {w t u a : Text} :
      w.fold = Former.either.text → Spelling first t →
        Following "|" Spelling (second :: more) u → Enclosed (t ++ u) a →
          Spelling (either first second more) (w ++ a)
  | geometry {first : Shape} {more : List Shape} {w t u a : Text} :
      w.fold = Former.geometry.text → t.fold = first.text →
        Following "|" (fun (shape : Shape) t => t.fold = shape.text) more u → Enclosed (t ++ u) a →
          Spelling (geometry first more) (w ++ a)

/-- Where a spelling may end: a word ends in front of a character that is not one of a word, and
a collection or a record without arguments where no bracket follows. -/
def Stops (t r : Text) : Prop :=
  (t.all isWordChar = true → ∀ x ∈ r.head?, isWordChar x = false) ∧
    ((t.fold = Former.array.text ∨ t.fold = Former.set.text ∨ t.fold = Former.record.text) →
      ∀ x ∈ r.head?, x ≠ '<')

theorem Stops.of_clear {t r : Text} (h : Clear r) : Stops t r :=
  ⟨fun _ x hx => (h x hx).1, fun _ x hx => (h x hx).2⟩

/-! ## 2. Words in any letter case -/

theorem isWordChar_toLower (c : Char) : isWordChar c.toLower = isWordChar c := by
  by_cases h : c.toNat < 0x80
  · have hall : ∀ n < 0x80, isWordChar (Char.ofNat n).toLower = isWordChar (Char.ofNat n) := by
      decide +kernel
    simpa using hall c.toNat h
  · rw [toLower_of_not_ascii (Nat.le_of_not_lt h)]

/-- A word in any letter case is a word. -/
theorem isWord_of_fold {t k : Text} (h : t.fold = k) (hk : Names.IsWord k) : Names.IsWord t := by
  obtain ⟨hne, hall⟩ := hk
  subst h
  refine ⟨?_, ?_⟩
  · rintro rfl
    exact hne rfl
  · rw [Text.fold, List.all_map] at hall
    rw [← hall]
    exact congrArg t.all (funext fun c => (isWordChar_toLower c).symm)

/-- **A word names what is written with it**, if everything is found by its own text. -/
theorem find?_text_eq_some_iff {α : Type} {text : α → Text} {all : List α} {w : Text} {a : α}
    (hself : ∀ b, all.find? (text · == text b) = some b) :
    all.find? (text · == w) = some a ↔ w = text a := by
  constructor
  · intro h
    exact (by simpa using List.find?_some h : text a = w).symm
  · rintro rfl
    exact hself a

theorem Primitive.ofText?_eq_some_iff {w : Text} {p : Primitive} :
    Primitive.ofText? w = some p ↔ w = p.text :=
  find?_text_eq_some_iff fun q => by cases q <;> cbv

theorem Former.ofText?_eq_some_iff {w : Text} {f : Former} :
    Former.ofText? w = some f ↔ w = f.text :=
  find?_text_eq_some_iff fun g => by cases g <;> cbv

theorem Shape.ofText?_eq_some_iff {w : Text} {s : Shape} :
    Shape.ofText? w = some s ↔ w = s.text :=
  find?_text_eq_some_iff fun t => by cases t <;> cbv

/-- No keyword of a kind with arguments is a keyword kind. -/
theorem Primitive.ofText?_former (f : Former) : Primitive.ofText? f.text = none := by
  cases f <;> cbv

theorem isWord_of_primitive {w : Text} {p : Primitive} (h : w.fold = p.text) : Names.IsWord w :=
  isWord_of_fold h (by cases p <;> (rw [Primitive.text, Text.of_eq]; decide))

theorem isWord_of_former {w : Text} {f : Former} (h : w.fold = f.text) : Names.IsWord w :=
  isWord_of_fold h (by cases f <;> (rw [Former.text, Text.of_eq]; decide))

theorem isWord_of_shape {w : Text} {s : Shape} (h : w.fold = s.text) : Names.IsWord w :=
  isWord_of_fold h (by cases s <;> (rw [Shape.text, Text.of_eq]; decide))

/-! ## 3. The start and the end of a spelling -/

/-- A spelling begins with a word, so no filler begins there. -/
theorem Spelling.solid {k : Kind} {t : Text} (h : Spelling k t) : Solid t := by
  cases h with
  | primitive hw => exact (isWord_of_primitive hw).solid
  | bareArray hw | bareSet hw | bareRecord hw => exact (isWord_of_former hw).solid
  | option hw | array hw | set hw | record hw | either hw | geometry hw =>
    exact (isWord_of_former hw).solid.append

end StoredFunctions.Kind
