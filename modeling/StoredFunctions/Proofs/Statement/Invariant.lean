/-
# What parsed statements are like

Every statement of an accepted document is well formed (`WellFormed`): it has a path of one word or
more, no name in it contains NUL, its comments are trimmed, and each of its kinds is, at every
depth, one that the constructors let through, with limits short enough to be read again.  So every
name in it is decoded from its canonical spelling.

The facts come from different layers -- three styles of quoting, the lists between bars, runs of
digits, the trimming of comments -- and each is proved of the source texts of its layer; that what
is parsed is spelt by the text is known (`parseAll_sound`).

That no constructor ever refuses what a reader has read does not depend on the document being
accepted (`Unraised`).
-/
import StoredFunctions.Proofs.Kind.Construction
import StoredFunctions.Proofs.Statement.Signature

namespace StoredFunctions

open StoredFunctions.Parser Filler Punctuation

/-! ## 1. Kinds -/

namespace Kind

mutual

/-- A kind and all kinds inside of it, at every depth. -/
def within : Kind → List Kind
  | primitive p => [primitive p]
  | geometry first more => [geometry first more]
  | record tables => [record tables]
  | option inner => option inner :: inner.within
  | array inner limit => array inner limit :: inner.within
  | set inner limit => set inner limit :: inner.within
  | either first second more =>
    either first second more :: (first.within ++ (second.within ++ allWithin more))

/-- The kinds of a list and all kinds inside of them. -/
def allWithin : List Kind → List Kind
  | [] => []
  | k :: more => k.within ++ allWithin more

end

/-- The members of a union. -/
def unionMembers? : Kind → Option (List Kind)
  | either first second more => some (first :: second :: more)
  | _ => none

/-- The words of a geometry. -/
def shapeWords? : Kind → Option (List Text)
  | geometry first more => some ((first :: more).map Shape.text)
  | _ => none

/-- The limit of a sequence or a set, if there is one. -/
def bound? : Kind → Option Nat
  | array _ limit | set _ limit => limit
  | _ => none

/-- The names of the tables of a record. -/
def tableNames : Kind → List Text
  | record tables => tables.map Table.name
  | _ => []

/-- What holds of each kind that is read, apart from the kinds inside of it. -/
structure WellFormed (k : Kind) : Prop where
  members : ∀ ks ∈ k.unionMembers?, 2 ≤ ks.length
  shapes : ∀ ws ∈ k.shapeWords?, ws ≠ [] ∧ ∀ w ∈ ws, w ∈ Shape.all.map Shape.text ∧ w.fold = w
  bound : IsBound k.bound?
  tables : ∀ name ∈ k.tableNames, '\x00' ∉ name

theorem mem_shapes (s : Shape) : s ∈ Shape.all := by
  cases s <;> decide

/-- A kind that has a spelling is well formed. -/
theorem Writable.wellFormed {k : Kind} (h : k.Writable) : k.WellFormed where
  members := by
    cases k with
    | either first second more =>
      rintro ks ⟨⟩
      exact Nat.le_add_left 2 more.length
    | _ => rintro ks ⟨⟩
  shapes := by
    cases k with
    | geometry first more =>
      rintro ws ⟨⟩
      refine ⟨by simp, List.forall_mem_map.mpr ?_⟩
      intro s _
      exact ⟨List.mem_map_of_mem (mem_shapes s), fold_shape s⟩
    | _ => rintro ks ⟨⟩
  bound := by
    cases k with
    | array inner limit => exact h.2
    | set inner limit => exact h.2
    | _ => exact isBound_none
  tables := by
    cases k with
    | record tables => exact List.forall_mem_map.mpr h
    | _ => simp [tableNames]

mutual

/-- The kinds inside of one that has a spelling have one too. -/
theorem writable_within : (k : Kind) → k.Writable → ∀ j ∈ k.within, j.Writable
  | primitive p, h => by simpa [within] using h
  | geometry first more, h => by simpa [within] using h
  | record tables, h => by simpa [within] using h
  | option inner, h => List.forall_mem_cons.mpr ⟨h, writable_within inner h⟩
  | array inner limit, h => List.forall_mem_cons.mpr ⟨h, writable_within inner h.1⟩
  | set inner limit, h => List.forall_mem_cons.mpr ⟨h, writable_within inner h.1⟩
  | either first second more, h => by
    refine List.forall_mem_cons.mpr ⟨h, List.forall_mem_append.mpr ⟨?_, ?_⟩⟩
    · exact writable_within first h.1
    · exact List.forall_mem_append.mpr
        ⟨writable_within second h.2.1, writable_allWithin more h.2.2⟩

theorem writable_allWithin : (ks : List Kind) → AllWritable ks → ∀ j ∈ allWithin ks, j.Writable
  | [], _ => by simp [allWithin]
  | k :: more, h =>
    List.forall_mem_append.mpr ⟨writable_within k h.1, writable_allWithin more h.2⟩

end

end Kind

/-! ## 2. Comments -/

/-- The comments of filler are trimmed. -/
theorem Filler.Run.trimmed {bodies : List Text} {t : Text} (h : Run bodies t) :
    ∀ c ∈ bodies, c.trim = c := by
  induction h with
  | nil => simp
  | layout _ _ ih => exact ih
  | block _ _ ih => exact List.forall_mem_cons.mpr ⟨Text.trim_trim _, ih⟩
  | line _ _ _ _ ih => exact List.forall_mem_cons.mpr ⟨Text.trim_trim _, ih⟩

/-! ## 3. Statements -/

namespace Statement

variable {st : Statement} {sts : List Statement} {s t r : Text}

/-- All names of a statement: the segments of its path, its parameters, and the tables of their
kinds at every depth. -/
def names (st : Statement) : List Text :=
  st.path ++ (st.parameterNames ++
    st.parameters.flatMap fun p => p.kind.within.flatMap Kind.tableNames)

/-- What holds of each statement of an accepted document. -/
structure WellFormed (st : Statement) : Prop where
  path_ne_nil : st.path ≠ []
  segments : ∀ w ∈ st.path, w ≠ [] ∧ w.all isWordChar = true
  parameterNames : ∀ name ∈ st.parameterNames, '\x00' ∉ name
  kinds : ∀ p ∈ st.parameters, ∀ k ∈ p.kind.within, k.WellFormed
  comments : ∀ c ∈ st.comments, c.trim = c
  decodes : ∀ name ∈ st.names, Names.Decodes name

theorem ParameterList.exists_text {ps : List Parameter} (h : ParameterList ps t) :
    ∀ p ∈ ps, ∃ u, ParameterText p u := by
  cases h with
  | none _ => simp
  | some _ hp hu _ =>
    exact List.forall_mem_cons.mpr ⟨⟨_, hp⟩, hu.forall_mem fun _ _ h => ⟨_, h⟩⟩

theorem Header.writable (h : Header st t) : st.Writable := by
  cases h with
  | intro _ _ _ _ _ _ _ hpath _ hps _ =>
    refine ⟨hpath, ?_, ?_⟩
    · intro p hp
      obtain ⟨_, hn, _, _, _⟩ := hps.exists_text p hp
      exact hn.not_mem_nul
    · intro p hp
      obtain ⟨_, _, _, _, hk⟩ := hps.exists_text p hp
      exact Kind.writable_of_spelling _ _ hk

theorem Header.trimmed (h : Header st t) : ∀ c ∈ st.comments, c.trim = c := by
  cases h with
  | intro hrun => exact hrun.trimmed

theorem Definitions.exists_header (h : Definitions sts t r) : ∀ st ∈ sts, ∃ u, Header st u := by
  induction h with
  | nil => simp
  | cons hd _ _ ih =>
    obtain ⟨h, _, _, hh, _⟩ := hd
    exact List.forall_mem_cons.mpr ⟨⟨h, hh⟩, ih⟩

/-- A statement that was read from a document can be written. -/
theorem writable_of_parseAll {filename source : Text}
    (h : parseAll filename source = .ok sts) (hst : st ∈ sts) : st.Writable := by
  obtain ⟨-, t, e, -, hdefs, -⟩ := parseAll_sound h
  obtain ⟨u, hheader⟩ := hdefs.exists_header st hst
  exact hheader.writable

/-- No name of a statement that can be written contains NUL: a word has no such character. -/
theorem Writable.not_mem_nul (h : st.Writable) : ∀ name ∈ st.names, '\x00' ∉ name := by
  intro name hname
  rcases List.mem_append.mp hname with hpath | hname
  · exact fun hnul => absurd (List.all_eq_true.mp (h.path name hpath).2 _ hnul) (by decide)
  · rcases List.mem_append.mp hname with hparameter | htable
    · obtain ⟨p, hp, rfl⟩ := List.mem_map.mp hparameter
      exact h.names p hp
    · obtain ⟨p, hp, hwithin⟩ := List.mem_flatMap.mp htable
      obtain ⟨k, hk, hname⟩ := List.mem_flatMap.mp hwithin
      exact (Kind.writable_within p.kind (h.kinds p hp) k hk).wellFormed.tables name hname

theorem Header.wellFormed (h : Header st t) : st.WellFormed where
  path_ne_nil := by simp [Statement.path]
  segments := h.writable.path
  parameterNames := List.forall_mem_map.mpr h.writable.names
  kinds := fun p hp k hk => (Kind.writable_within p.kind (h.writable.kinds p hp) k hk).wellFormed
  comments := h.trimmed
  decodes := fun name hname => Names.decodes_of_not_mem_nul (h.writable.not_mem_nul name hname)

/-! ## 4. Constructors -/

/-- A definition, made into a statement by the constructor that refuses an empty path. -/
def checkedDefinition (raise : Parser Statement) : Parser Statement := do
  let comments ← Filler.documentation
  Filler.skip
  let _ ← tagFolded "DEFINE"
  Filler.skip1
  let _ ← tagFolded "FUNCTION"
  Filler.skip1
  let _ ← tag "fn::"
  let (first, more) ← Names.path
  Filler.skip
  openParenthesis
  let parameters ← separated comma parameter
  closeParenthesis
  Filler.skip
  body
  match ofPath? (first :: more) parameters comments with
  | some st => pure st
  | none => raise

theorem definition_eq_checked {raise : Parser Statement} :
    definition = checkedDefinition raise := rfl

/-- No constructor ever refuses what a reader hands to it, whatever its error would lead to and
wherever the reader stands. -/
structure Unraised : Prop where
  array : ∀ raise inner,
    Kind.collection .array inner = Kind.checkedCollection raise Kind.ofArray inner
  set : ∀ raise inner, Kind.collection .set inner = Kind.checkedCollection raise Kind.ofSet inner
  either : ∀ raise start inner,
    Kind.eitherArguments start inner = Kind.checkedUnion raise start inner
  geometry : ∀ raise, Kind.geometryArguments = Kind.checkedGeometry raise
  statement : ∀ raise, definition = checkedDefinition raise

/-! ## 5. Accepted documents -/

/-- **Accepted documents hold well-formed statements**, of which there is one at least; and no
document whatever makes a constructor refuse. -/
theorem parseAll_wellFormed (filename source : Text) :
    (∀ sts, parseAll filename source = .ok sts → sts ≠ [] ∧ ∀ st ∈ sts, st.WellFormed) ∧
      Unraised := by
  constructor
  · intro sts h
    obtain ⟨hne, t, e, -, hdefs, -⟩ := parseAll_sound h
    refine ⟨hne, ?_⟩
    intro st hst
    obtain ⟨u, hh⟩ := hdefs.exists_header st hst
    exact hh.wellFormed
  · exact
      { array := fun _ _ => Kind.collection_eq_checked Kind.ofArray_ofNat
        set := fun _ _ => Kind.collection_eq_checked Kind.ofSet_ofNat
        either := fun _ _ _ => Kind.eitherArguments_eq_checked
        geometry := fun _ => Kind.geometryArguments_eq_checked
        statement := fun _ => definition_eq_checked }

/-- A document with a name in each style, a limit with zeros in front, a geometry in capitals and
a comment with blanks around it. -/
def variedDocument : Text :=
  "--  doc \nDEFINE FUNCTION fn::a_1::b($⟨x y⟩: either<record<\x60c\\\x60d\x60 | e> | array<geometry<POINT>, 007>>) \x7b\x7d;"

/-- What the document defines. -/
def variedStatement : Statement :=
  ⟨["a_1"], "b", [⟨⟨"x y"⟩, .either (.record [⟨"c\x60d"⟩, ⟨"e"⟩])
    (.array (.geometry .point []) (some 7)) []⟩], ["doc"]⟩

theorem variedDocument_wellFormed :
    parseAll [] variedDocument = .ok [variedStatement] ∧
      ([variedStatement] ≠ [] ∧ ∀ st ∈ [variedStatement], st.WellFormed) ∧ Unraised := by
  have h : parseAll [] variedDocument = .ok [variedStatement] :=
    ok_of_toOption (by decide +kernel)
  have hparsed := parseAll_wellFormed [] variedDocument
  exact ⟨h, hparsed.1 _ h, hparsed.2⟩

end Statement

end StoredFunctions
