/-
# Kinds and their constructors

The constructors of kinds take lists, words and whole numbers, and refuse the parts that make no
kind: fewer than two members of a union, no shapes or an unknown one, a negative limit.  The
readers have guards of their own in front of them, so that no constructor ever refuses what a
reader hands to it.

To say so, each reader is written once more with its constructor in it (`checkedCollection`,
`checkedUnion`, `checkedGeometry`).  An error of the constructor goes to a parser `raise`, about
which nothing is assumed: it may fail, for good or not, or go on in any way.  A reader that is the
same for every `raise` never gets there.
-/
import StoredFunctions.Kind.Build
import StoredFunctions.Proofs.Kind.Arguments
import StoredFunctions.Proofs.Outcome

namespace StoredFunctions

/-! ## 1. Readers with a mapped value -/

namespace Parser

variable {α β γ : Type} {p : Parser α} {c : Cursor}

theorem map_of_ok {f : α → β} {v : α} {d : Cursor} (h : p c = .ok (v, d)) :
    (f <$> p) c = .ok (f v, d) :=
  map_ok_iff.mpr ⟨v, h, rfl⟩

theorem map_of_error {f : α → β} {fault : Fault} (h : p c = .error fault) :
    (f <$> p) c = .error fault := by
  rw [← bind_pure_comp]
  simp [Bind.bind, StateT.bind, Except.bind, h]

/-- **Mapped elements make a mapped list.** -/
theorem many_map (f : α → β) (p : Parser α) :
    many (f <$> p) = Functor.map (f := Parser) (List.map f) (many p) := by
  funext c
  induction c using Parser.many.induct (p := p) with
  | case1 c failure hp hc =>
    have hmany : many p c = .error (.failure failure) := by
      rw [many]
      simp [hp, hc]
    rw [map_of_error hmany, many]
    simp [map_of_error (f := f) hp, hc]
  | case2 c failure hp hc =>
    have hfinal : failure.committed = false := by simpa using hc
    rw [map_of_ok (many_of_refuses ⟨failure, hp, hfinal⟩),
      many_of_refuses ⟨failure, map_of_error hp, hfinal⟩]
    rfl
  | case3 c fault _ hp =>
    have hmany : many p c = .error fault := by
      rw [many]
      simp [hp]
    rw [map_of_error hmany, many]
    simp [map_of_error (f := f) hp]
  | case4 c v d hp hd vs e hm ih =>
    rw [map_of_ok (many_of_ok hp hd hm)]
    exact many_of_ok (map_of_ok hp) hd (by rw [ih, map_of_ok hm])
  | case5 c v d hp hd fault hm ih =>
    rw [map_of_error (many_of_error hp hd hm)]
    exact many_of_error (map_of_ok hp) hd (by rw [ih, map_of_error hm])
  | case6 c v d hp hd =>
    have hmany : many p c = .ok ([], c) := by
      rw [many]
      simp [hp, hd]
    rw [map_of_ok hmany, many]
    simp [map_of_ok (f := f) hp, hd]

theorem separated1_map (f : α → β) (separator : Parser γ) (p : Parser α) :
    separated1 separator (f <$> p) = List.map f <$> separated1 separator p := by
  have hnext : (do let _ ← separator; f <$> p : Parser β) = f <$> (do let _ ← separator; p) := by
    simp only [map_bind]
  rw [separated1, separated1, hnext, many_map]
  simp only [← bind_pure_comp, bind_assoc, pure_bind, List.map_cons]

/-- Goes on with the outcome of a constructor, whose error is handed to `raise`. -/
def orRaise {ε : Type} (raise : ε → Parser α) : Except ε α → Parser α
  | .ok v => pure v
  | .error e => raise e

end Parser

namespace Kind

open StoredFunctions.Parser Punctuation

/-! ## 2. Readers with their constructors -/

/-- The arguments of a sequence or a set, made into a kind by `make`. -/
def checkedCollection (raise : KindError → Parser Kind)
    (make : Kind → Option Int → Except KindError Kind) (inner : Parser Kind) : Parser Kind :=
  fun c =>
    if c.peek 1 = "<" then
      (do
        openChevron
        let element ← inner
        let bound ← limit?
        closeChevron
        orRaise raise (make element (bound.map Int.ofNat)) : Parser Kind) c
    else orRaise raise (make any none) c

/-- The members of a union whose keyword stands at `start`.  They are counted before the
constructor counts them. -/
def checkedUnion (raise : KindError → Parser Kind) (start : Cursor) (inner : Parser Kind) :
    Parser Kind := do
  openChevron
  let members ← separated1 bar inner
  closeChevron
  if members.length < 2 then fun _ => fail .lonelyUnion start
  else orRaise raise (ofMembers members)

/-- A word for a sort of geometry, in lower case. -/
def shapeWord : Parser Text := fun c =>
  let (word, after) := c.takeWhile isWordChar
  if (Shape.ofText? word.fold).isSome then .ok (word.fold, after)
  else fail (.unknownShape word) c

/-- The words of a geometry. -/
def checkedGeometry (raise : KindError → Parser Kind) : Parser Kind := do
  openChevron
  let words ← separated1 bar shapeWord
  closeChevron
  orRaise raise (ofShapeNames words)

/-! ## 3. No constructor refuses -/

variable {raise : KindError → Parser Kind} {inner : Parser Kind} {start : Cursor}

/-- A natural number is no negative limit. -/
theorem checkLimit_ofNat (l : Option Nat) : checkLimit (l.map Int.ofNat) = .ok l := by
  cases l with
  | none => rfl
  | some n => rfl

theorem ofArray_ofNat (k : Kind) (l : Option Nat) :
    ofArray k (l.map Int.ofNat) = .ok (array k l) := by
  rw [ofArray, checkLimit_ofNat]
  rfl

theorem ofSet_ofNat (k : Kind) (l : Option Nat) : ofSet k (l.map Int.ofNat) = .ok (set k l) := by
  rw [ofSet, checkLimit_ofNat]
  rfl

theorem ofShapeNames_texts (first : Shape) (more : List Shape) :
    ofShapeNames ((first :: more).map Shape.text) = .ok (geometry first more) := by
  rw [ofShapeNames, ofShapes, List.map_map, List.mapM_map, mapM_of_ok (g := id), List.map_id]
  · rfl
  · intro s
    simp [Shape.ofText?_eq_some_iff.mpr rfl]

theorem collection_eq_checked {former : Kind → Option Nat → Kind}
    {make : Kind → Option Int → Except KindError Kind}
    (h : ∀ k l, make k (l.map Int.ofNat) = .ok (former k l)) :
    collection former inner = checkedCollection raise make inner := by
  have hany : make any none = .ok (former any none) := h any none
  funext c
  simp only [collection, checkedCollection, h, hany, orRaise]
  rfl

theorem eitherArguments_eq_checked :
    eitherArguments start inner = checkedUnion raise start inner := by
  have hunion : ∀ members : List Kind, union start members =
      if members.length < 2 then fun _ => fail .lonelyUnion start
      else orRaise raise (ofMembers members) := by
    intro members
    match members with
    | [] => rfl
    | [_] => rfl
    | first :: second :: more =>
      rw [if_neg (by simp)]
      rfl
  rw [eitherArguments_eq, funext hunion]
  simp only [checkedUnion, enclosed, bind_assoc, pure_bind]

/-- A word for a sort of geometry is the lower-case word of that sort. -/
theorem shapeWord_eq : shapeWord = Shape.text <$> shape := by
  funext c
  cases h : Shape.ofText? (c.takeWhile isWordChar).1.fold with
  | none =>
    have hs : shape c = fail (.unknownShape (c.takeWhile isWordChar).1) c := by
      simp only [shape, h]
    rw [map_of_error hs]
    simp [shapeWord, h, fail]
  | some s =>
    have hs : shape c = .ok (s, (c.takeWhile isWordChar).2) := by
      simp only [shape, h]
    rw [map_of_ok hs, ← Shape.ofText?_eq_some_iff.mp h]
    simp only [shapeWord, h, Option.isSome_some, if_true]

theorem geometryArguments_eq_checked : geometryArguments = checkedGeometry raise := by
  rw [checkedGeometry, shapeWord_eq, separated1_map, separated1]
  simp only [geometryArguments, ← bind_pure_comp, bind_assoc, pure_bind, ofShapeNames_texts,
    orRaise]

end Kind

end StoredFunctions
