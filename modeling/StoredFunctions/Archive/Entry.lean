/-
# Entries of archives

An archive is checked for its identifiers and for the structure of its nodes, but not for what
stands in the place of a name, a segment of a path, a table or a comment: there any value is kept
as it is.  A limit is any number that is not negative, or a truth value.  So what an archive holds
is an **entry**, which is looser than a statement.

* `StatementEntry.statement?` is the statement of an entry, if it is one;
* `Statement.entry` is the other way, and `statement?_entry` says that nothing is lost on it;
* `StatementEntry.signature` shows an entry.  It needs texts for names and segments, but takes any
  limit, and it does not look at comments; `signature_entry` says that a statement is shown as
  before.
-/
import StoredFunctions.Json.Basic
import StoredFunctions.Numbers.Shortest
import StoredFunctions.Statement.Basic

namespace StoredFunctions

/-! ## 1. Entries -/

namespace Archive

/-- A limit as an archive gives it. -/
inductive Limit where
  | number (n : Nat)
  | truth (b : Bool)
  | float (x : Binary64)
  deriving Repr

/-- A kind as an archive gives it. -/
inductive KindEntry where
  | primitive (p : Primitive)
  | geometry (first : Shape) (more : List Shape)
  | record (tables : List Json)
  | option (inner : KindEntry)
  | array (inner : KindEntry) (limit : Option Limit)
  | set (inner : KindEntry) (limit : Option Limit)
  | either (first second : KindEntry) (more : List KindEntry)
  deriving Repr

/-- A parameter as an archive gives it. -/
structure ParameterEntry where
  name : Json
  kind : KindEntry
  deriving Repr

/-- A statement as an archive gives it. -/
structure StatementEntry where
  /-- The segments of the path before the last one. -/
  scope : List Json
  /-- The last segment of the path. -/
  name : Json
  parameters : List ParameterEntry
  comments : List Json
  deriving Repr

/-- The segments of the path. -/
def StatementEntry.path (s : StatementEntry) : List Json := s.scope ++ [s.name]

/-- The entry with a path given by its segments, of which there has to be one. -/
def StatementEntry.ofPath? (path : List Json) (parameters : List ParameterEntry)
    (comments : List Json) : Option StatementEntry :=
  path.getLast?.map fun name => ⟨path.dropLast, name, parameters, comments⟩

end Archive

open Archive

/-! ## 2. Entries of statements -/

mutual

/-- The entry of a kind. -/
def Kind.entry : Kind → KindEntry
  | .primitive p => .primitive p
  | .geometry first more => .geometry first more
  | .record tables => .record (tables.map fun t => .string t.name)
  | .option inner => .option inner.entry
  | .array inner limit => .array inner.entry (limit.map Limit.number)
  | .set inner limit => .set inner.entry (limit.map Limit.number)
  | .either first second more => .either first.entry second.entry (entries more)

/-- The entries of kinds. -/
def Kind.entries : List Kind → List KindEntry
  | [] => []
  | k :: more => k.entry :: entries more

end

/-- The entry of a parameter. -/
def Parameter.entry (p : Parameter) : ParameterEntry := ⟨.string p.ident.name, p.kind.entry⟩

/-- The entry of a statement. -/
def Statement.entry (s : Statement) : StatementEntry :=
  ⟨s.scope.map .string, .string s.name, s.parameters.map Parameter.entry, s.comments.map .string⟩

/-! ## 3. Statements of entries -/

namespace Archive

/-- The number that a limit is, if it is a natural one. -/
def Limit.number? : Limit → Option Nat
  | number n => some n
  | truth _ | float _ => none

/-- The limit of a kind, if what an archive gives for it is one. -/
def limit? : Option Limit → Option (Option Nat)
  | none => some none
  | some l => l.number?.map some

mutual

/-- The kind of an entry, if it is one. -/
def KindEntry.kind? : KindEntry → Option Kind
  | primitive p => some (.primitive p)
  | geometry first more => some (.geometry first more)
  | record tables => (tables.mapM Json.text?).map fun names => .record (names.map Table.mk)
  | option inner => inner.kind?.map Kind.option
  | array inner limit => do pure (.array (← inner.kind?) (← limit? limit))
  | set inner limit => do pure (.set (← inner.kind?) (← limit? limit))
  | either first second more => do
    pure (.either (← first.kind?) (← second.kind?) (← kinds? more))

/-- The kinds of entries, if all of them are. -/
def KindEntry.kinds? : List KindEntry → Option (List Kind)
  | [] => some []
  | e :: more => do pure ((← e.kind?) :: (← kinds? more))

end

/-- The parameter of an entry, if it is one. -/
def ParameterEntry.parameter? (p : ParameterEntry) : Option Parameter := do
  pure ⟨⟨← p.name.text?⟩, ← p.kind.kind?⟩

/-- The statement of an entry, if it is one. -/
def StatementEntry.statement? (s : StatementEntry) : Option Statement := do
  pure ⟨← s.scope.mapM Json.text?, ← s.name.text?, ← s.parameters.mapM ParameterEntry.parameter?,
    ← s.comments.mapM Json.text?⟩

/-- The statements of entries, if all of them are. -/
def statements? (entries : List StatementEntry) : Option (List Statement) :=
  entries.mapM StatementEntry.statement?

/-! ## 4. Showing entries -/

/-- Why an entry cannot be shown. -/
inductive ShowError where
  /-- A number other than zero in place of a name; it has no characters to be looked at. -/
  | numberAsName
  /-- Another value that is no text in place of a name. -/
  | notAName
  /-- A value that is no text in the path. -/
  | notASegment
  deriving DecidableEq, Repr

/-- What a reader of an entry shows. -/
abbrev Shown := Except ShowError Text

/-- The spelling of a name. -/
def nameText : Json → Shown
  | .string t => .ok (Names.escape t)
  | .int n => .error (if n = 0 then .notAName else .numberAsName)
  | .bool b => .error (if b then .numberAsName else .notAName)
  | .float x => .error (if x.isZero then .notAName else .numberAsName)
  | .null | .array _ | .object _ | .torn _ => .error .notAName

/-- A segment of a path. -/
def segmentText : Json → Shown
  | .string t => .ok t
  | .null | .bool _ | .int _ | .float _ | .array _ | .object _ | .torn _ => .error .notASegment

/-- A limit inside a kind. -/
def Limit.text : Limit → Text
  | number n => Text.ofNat n
  | truth true => "True"
  | truth false => "False"
  | float x => x.text

/-- Whether an entry is the kind that accepts everything. -/
def KindEntry.isAny : KindEntry → Bool
  | primitive .any => true
  | _ => false

mutual

/-- The spelling of a kind. -/
def KindEntry.text : KindEntry → Shown
  | primitive p => .ok p.text
  | geometry first more => .ok (Kind.geometry first more).text
  | record [] => .ok "record"
  | record (t :: more) => do
    pure ("record<" ++ Text.join " | " (← (t :: more).mapM nameText) ++ ">")
  | option inner => do pure ("option<" ++ (← inner.text) ++ ">")
  | array inner limit => do
    pure (Kind.collectionText "array" inner.isAny (← inner.text) (limit.map Limit.text))
  | set inner limit => do
    pure (Kind.collectionText "set" inner.isAny (← inner.text) (limit.map Limit.text))
  | either first second more => do
    pure ("either<" ++
      Text.join " | " ((← first.text) :: (← second.text) :: (← texts more)) ++ ">")

/-- The spellings of kinds. -/
def KindEntry.texts : List KindEntry → Except ShowError (List Text)
  | [] => .ok []
  | e :: more => do pure ((← e.text) :: (← texts more))

end

/-- A parameter as a header shows it. -/
def ParameterEntry.text (p : ParameterEntry) : Shown := do
  pure ("$" ++ (← nameText p.name) ++ ":" ++ " " ++ (← p.kind.text))

/-- The header of an entry.  Of several faults the first one among the parameters counts, and then
the first one in the path. -/
def StatementEntry.signature (s : StatementEntry) : Shown := do
  let parameters ← s.parameters.mapM ParameterEntry.text
  let path ← s.path.mapM segmentText
  pure ("fn::" ++ Text.join "::" path ++ "(" ++ Text.join ", " parameters ++ ")")

end Archive

/-! ## 5. Statements through their entries -/

/-- Strings are read back as the texts that they were made of. -/
theorem Json.texts?_map_string (ts : List Text) : (ts.map string).mapM text? = some ts := by
  rw [List.mapM_map]
  exact (List.mapM_pure (f := id) (l := ts)).trans (by simp)

theorem Archive.limit?_map_number (l : Option Nat) : limit? (l.map Limit.number) = some l := by
  cases l <;> rfl

theorem Archive.texts?_tables (ts : List Table) :
    (ts.map fun t => Json.string t.name).mapM Json.text? = some (ts.map Table.name) := by
  rw [List.mapM_map]
  exact List.mapM_pure (f := Table.name)

theorem Archive.nameTexts_tables (ts : List Table) :
    (ts.map fun t => Json.string t.name).mapM nameText = .ok (ts.map Table.text) := by
  rw [List.mapM_map]
  exact List.mapM_pure (f := Table.text)

theorem Archive.text_comp_number : Limit.text ∘ Limit.number = Text.ofNat := rfl

namespace Kind

mutual

/-- **Nothing of a kind is lost in its entry.** -/
theorem kind?_entry : (k : Kind) → k.entry.kind? = some k
  | primitive p => rfl
  | geometry first more => rfl
  | record tables => by
    rw [entry, KindEntry.kind?, texts?_tables]
    simp [Function.comp_def]
  | option inner => by simp [entry, KindEntry.kind?, kind?_entry inner]
  | array inner limit => by
    simp [entry, KindEntry.kind?, kind?_entry inner, limit?_map_number]
  | set inner limit => by
    simp [entry, KindEntry.kind?, kind?_entry inner, limit?_map_number]
  | either first second more => by
    simp [entry, KindEntry.kind?, kind?_entry first, kind?_entry second, kinds?_entries more]

theorem kinds?_entries : (ks : List Kind) → KindEntry.kinds? (entries ks) = some ks
  | [] => rfl
  | k :: more => by simp [entries, KindEntry.kinds?, kind?_entry k, kinds?_entries more]

end

theorem isAny_entry : (k : Kind) → k.entry.isAny = k.isAny
  | primitive p => by cases p <;> rfl
  | geometry _ _ | record _ | option _ | array _ _ | set _ _ | either _ _ _ => rfl

mutual

/-- The entry of a kind is shown as the kind is. -/
theorem text_entry : (k : Kind) → k.entry.text = .ok k.text
  | primitive p => rfl
  | geometry first more => rfl
  | record [] => rfl
  | record (t :: more) => by
    have h := nameTexts_tables (t :: more)
    simp only [List.map_cons] at h
    simp only [entry, KindEntry.text, text, List.map_cons, h, Table.listText]
    rfl
  | option inner => by
    simp only [entry, KindEntry.text, text, text_entry inner]
    rfl
  | array inner limit => by
    simp only [entry, KindEntry.text, text, text_entry inner, isAny_entry, Option.map_map,
      text_comp_number]
    rfl
  | set inner limit => by
    simp only [entry, KindEntry.text, text, text_entry inner, isAny_entry, Option.map_map,
      text_comp_number]
    rfl
  | either first second more => by
    simp only [entry, KindEntry.text, text, text_entry first, text_entry second,
      texts_entries more]
    rfl

theorem texts_entries : (ks : List Kind) → KindEntry.texts (entries ks) = .ok (texts ks)
  | [] => rfl
  | k :: more => by
    simp only [entries, KindEntry.texts, texts, text_entry k, texts_entries more]
    rfl

end

end Kind

/-- Nothing of a parameter is lost in its entry. -/
theorem Parameter.parameter?_entry (p : Parameter) : p.entry.parameter? = some p := by
  simp [entry, ParameterEntry.parameter?, Json.text?, Kind.kind?_entry]

theorem Parameter.text_entry (p : Parameter) : p.entry.text = .ok p.text := by
  simp only [entry, ParameterEntry.text, text, Kind.text_entry, nameText, Identifier.text]
  rfl

namespace Statement

/-- **Nothing of a statement is lost in its entry.** -/
theorem statement?_entry (s : Statement) : s.entry.statement? = some s := by
  have h : (s.parameters.map Parameter.entry).mapM ParameterEntry.parameter? =
      some s.parameters := by
    rw [List.mapM_map, show ParameterEntry.parameter? ∘ Parameter.entry = some from
      funext Parameter.parameter?_entry]
    exact (List.mapM_pure (f := id)).trans (by simp)
  simp only [entry, StatementEntry.statement?, Json.texts?_map_string, Json.text?, h]
  rfl

/-- **The entry of a statement is shown as the statement is.** -/
theorem signature_entry (s : Statement) : s.entry.signature = .ok s.signature := by
  have hp : (s.parameters.map Parameter.entry).mapM ParameterEntry.text =
      .ok (s.parameters.map Parameter.text) := by
    rw [List.mapM_map, show ParameterEntry.text ∘ Parameter.entry = (.ok ·.text) from
      funext Parameter.text_entry]
    exact List.mapM_pure (f := Parameter.text)
  have hs : (s.path.map Json.string).mapM segmentText = .ok s.path := by
    rw [List.mapM_map]
    exact (List.mapM_pure (f := id)).trans (by rw [List.map_id]; rfl)
  have hpath : s.entry.path = s.path.map .string := by
    simp [entry, StatementEntry.path, path]
  have hps : s.entry.parameters = s.parameters.map Parameter.entry := rfl
  rw [StatementEntry.signature, hps, hp, hpath, hs, signature, qualifiedName]
  rfl

end Statement

end StoredFunctions
