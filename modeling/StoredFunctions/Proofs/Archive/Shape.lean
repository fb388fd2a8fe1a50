/-
# Values of the wrong shape

The errors of the reader of archives are of two sorts.  Most are refusals: what the text holds is
no archive.  The others, the faults of shape (`ReadError.IsShapeFault`), come from looking into a
value of another shape: for a member that is not there, for members or items where there are none,
for a number where there is none.

`read_settles_iff` says which texts lead to a fault of shape.  They are those that hold a breach
(`StatementBreach`, `ParameterBreach`, `KindBreach`), which is told apart from the reader: by
members that are missing and by values of the wrong type.  A breach counts only where the reader
gets to it.  So the identifiers of the nodes around it have to be right, and what stands in front
of it in a list has to be read.
-/
import StoredFunctions.Proofs.Archive.Dispatch

namespace StoredFunctions

open Json

namespace Archive

/-! ## 1. Faults of shape -/

/-- Whether an error comes from the shape of a value that was not looked at before. -/
def ReadError.IsShapeFault : ReadError → Prop
  | .missingMember _ | .notANode | .notIterable | .notANumber => True
  | .unreadable _ | .notAList | .notAStatement | .missingId | .wrongId | .unencodable
  | .unknownNode _ | .unknownKind _ | .badKind _ | .emptyPath => False

section

variable {α β : Type} {r : Read α} {f : α → Read β} {members : List (Text × Json)} {name : Text}
  {v : Json} {vs : List Json}

/-- Whether something was read, or refused. -/
def Settles (r : Read α) : Prop := (∃ a, r = .ok a) ∨ ∃ e, r = .error e ∧ ¬ e.IsShapeFault

/-- Whether the outcome is a fault of shape. -/
def Breaks (r : Read α) : Prop := ∃ e, r = .error e ∧ e.IsShapeFault

/-- Whether `f` reads a value. -/
def Reads (f : Json → Read α) (v : Json) : Prop := ∃ a, f v = .ok a

/-- Whether something in a list has the property `P`, and `f` reads everything in front of it. -/
def Meets (f : Json → Read α) (P : Json → Prop) (vs : List Json) : Prop :=
  ∃ front v back, vs = front ++ v :: back ∧ (∀ u ∈ front, Reads f u) ∧ P v

theorem settles_iff_not_breaks : Settles r ↔ ¬ Breaks r := by
  cases r with
  | ok a => simp [Settles, Breaks]
  | error e => simp [Settles, Breaks]

theorem not_breaks_ok {a : α} : ¬ Breaks (.ok a : Read α) := by simp [Breaks]

theorem breaks_error_iff {e : ReadError} : Breaks (.error e : Read α) ↔ e.IsShapeFault := by
  simp [Breaks]

theorem breaks_bind_iff : Breaks (r >>= f) ↔ Breaks r ∨ ∃ a, r = .ok a ∧ Breaks (f a) := by
  cases r with
  | ok a => simp [except_ok_bind, not_breaks_ok]
  | error e =>
    have herror : (Except.error e >>= f) = .error e := rfl
    simp [herror, breaks_error_iff]

theorem breaks_bind_pure_iff {g : α → β} :
    Breaks (do pure (g (← r)) : Read β) ↔ Breaks r := by
  rw [breaks_bind_iff]
  refine or_iff_left ?_
  rintro ⟨a, -, h⟩
  exact not_breaks_ok h

theorem meets_cons_iff {f : Json → Read α} {P : Json → Prop} :
    Meets f P (v :: vs) ↔ P v ∨ Reads f v ∧ Meets f P vs := by
  constructor
  · rintro ⟨front, u, back, heq, hfront, hu⟩
    cases front with
    | nil =>
      obtain ⟨rfl, -⟩ := List.cons.inj heq
      exact .inl hu
    | cons x front =>
      obtain ⟨rfl, rfl⟩ := List.cons.inj heq
      obtain ⟨hv, hfront⟩ := List.forall_mem_cons.mp hfront
      exact .inr ⟨hv, front, u, back, rfl, hfront, hu⟩
  · rintro (hv | ⟨hv, front, u, back, rfl, hfront, hu⟩)
    · exact ⟨[], v, vs, rfl, by simp, hv⟩
    · exact ⟨v :: front, u, back, rfl, List.forall_mem_cons.mpr ⟨hv, hfront⟩, hu⟩

/-- **A list breaks where one of its elements breaks**, if all elements in front of it are
read. -/
theorem breaks_mapM_iff {f : Json → Read α} :
    Breaks (vs.mapM f) ↔ Meets f (fun v => Breaks (f v)) vs := by
  induction vs with
  | nil => simp [Meets, pure, Except.pure, not_breaks_ok]
  | cons v vs ih =>
    rw [List.mapM_cons, meets_cons_iff, breaks_bind_iff]
    refine or_congr Iff.rfl ?_
    constructor
    · rintro ⟨a, ha, h⟩
      exact ⟨⟨a, ha⟩, ih.mp (breaks_bind_pure_iff.mp h)⟩
    · rintro ⟨⟨a, ha⟩, h⟩
      exact ⟨a, ha, breaks_bind_pure_iff.mpr (ih.mpr h)⟩

/-- A list is read if all of its elements are. -/
theorem exists_mapM_ok_iff {f : Json → Read α} :
    (∃ as, vs.mapM f = .ok as) ↔ ∀ v ∈ vs, Reads f v := by
  induction vs with
  | nil => simp [pure, Except.pure]
  | cons v vs ih =>
    simp only [List.mapM_cons, List.forall_mem_cons, ← ih, except_bind_ok_iff]
    constructor
    · rintro ⟨_, a, ha, as, has, -⟩
      exact ⟨⟨a, ha⟩, as, has⟩
    · rintro ⟨⟨a, ha⟩, as, has⟩
      exact ⟨a :: as, a, ha, as, has, rfl⟩

theorem breaks_verified_iff : Breaks (verified v) ↔ v.members? = none := by
  unfold verified
  split
  · rename_i hnone
    simp [hnone, breaks_error_iff, ReadError.IsShapeFault]
  · rename_i members hmembers
    rw [hmembers]
    repeat' split
    all_goals simp [Breaks, ReadError.IsShapeFault]

theorem breaks_member_iff : Breaks (member name members) ↔ find? name members = none := by
  rw [member]
  cases find? name members with
  | none => simp [breaks_error_iff, ReadError.IsShapeFault]
  | some w => simp [not_breaks_ok]

/-- Whether a value has items, as a list, a text and an object have. -/
def HasItems : Json → Prop
  | .array _ | .string _ | .object _ => True
  | .torn v => HasItems v
  | .null | .bool _ | .int _ | .float _ => False

theorem breaks_items_iff : {v : Json} → (Breaks (items v) ↔ ¬ HasItems v)
  | .torn v => breaks_items_iff (v := v)
  | .array _ | .string _ | .object _ | .null | .bool _ | .int _ | .float _ => by
    simp [items, HasItems, breaks_error_iff, not_breaks_ok, ReadError.IsShapeFault]

theorem exists_items_iff : {v : Json} → ((∃ us, items v = .ok us) ↔ HasItems v)
  | .torn v => exists_items_iff (v := v)
  | .array _ | .string _ | .object _ | .null | .bool _ | .int _ | .float _ => by
    simp [items, HasItems]

/-- Whether a value can be compared with numbers, or stands for no limit. -/
def IsNumeric : Json → Prop
  | .null | .bool _ | .int _ | .float _ => True
  | .array _ | .string _ | .object _ | .torn _ => False

theorem breaks_limit_iff : Breaks (limit v) ↔ ¬ IsNumeric v := by
  cases v with
  | int n => cases n <;> simp [limit, IsNumeric, breaks_error_iff, not_breaks_ok,
      ReadError.IsShapeFault]
  | float x =>
    rw [limit]
    split <;> simp [IsNumeric, breaks_error_iff, not_breaks_ok, ReadError.IsShapeFault]
  | _ => simp [limit, IsNumeric, breaks_error_iff, not_breaks_ok, ReadError.IsShapeFault]

theorem not_breaks_built {k : Except KindError Kind} : ¬ Breaks (built k) := by
  cases k <;> simp [built, breaks_error_iff, not_breaks_ok, ReadError.IsShapeFault]

theorem not_breaks_union {ks : List KindEntry} : ¬ Breaks (union ks) := by
  unfold union
  split <;> simp [breaks_error_iff, not_breaks_ok, ReadError.IsShapeFault]

end

/-! ## 2. Kinds -/

/-- The types that need a list. -/
def NodeType.NeedsItems (type : NodeType) : Prop := type = geometry ∨ type = record ∨ type = either

/-- The types that need a node. -/
def NodeType.NeedsKind (type : NodeType) : Prop := type = option ∨ type = array ∨ type = set

/-- The types with a limit. -/
def NodeType.HasLimit (type : NodeType) : Prop := type = array ∨ type = set

/-- `NodeOf v type members w`: the identifier of the node `v` is right, `members` are its members,
`type` is its type, and `w` is the value of the member that the type needs. -/
structure NodeOf (v : Json) (type : NodeType) (members : List (Text × Json)) (w : Json) : Prop where
  verified : Archive.verified v = .ok members
  typeOf : typeOf? members = some type
  needed : find? type.needs members = some w

/-- The values that are not read as a kind for their shape. -/
inductive KindBreach : Json → Prop
  /-- No node at all. -/
  | noNode {v : Json} : v.members? = none → KindBreach v
  /-- A node without the member that its type needs. -/
  | lacking {v : Json} {type : NodeType} {members : List (Text × Json)} :
      verified v = .ok members → typeOf? members = some type → find? type.needs members = none →
        KindBreach v
  /-- Something without items where a list is needed. -/
  | noItems {v w : Json} {type : NodeType} {members : List (Text × Json)} :
      NodeOf v type members w → type.NeedsItems → ¬ HasItems w → KindBreach v
  /-- A breach in the node that is needed. -/
  | inner {v w : Json} {type : NodeType} {members : List (Text × Json)} :
      NodeOf v type members w → type.NeedsKind → KindBreach w → KindBreach v
  /-- A limit that is no number, if the kind of the elements is read. -/
  | limit {v w : Json} {type : NodeType} {members : List (Text × Json)} :
      NodeOf v type members w → type.HasLimit → Reads kindAt w →
        ¬ IsNumeric (memberOr "limit" .null members) → KindBreach v
  /-- A breach in a member of a union, if the members in front of it are read. -/
  | unionMember {v w u : Json} {front back : List Json} {members : List (Text × Json)} :
      NodeOf v .either members w → items w = .ok (front ++ u :: back) →
        (∀ x ∈ front, Reads kindAt x) → KindBreach u → KindBreach v

section

variable {members : List (Text × Json)} {type : NodeType} {v w : Json}

theorem breaks_collection_iff {inner : Json → Read KindEntry} {limitNode : Json}
    {former : KindEntry → Option Limit → KindEntry} :
    Breaks (do
      let element ← inner w
      pure (former element (← limit limitNode))) ↔
      Breaks (inner w) ∨ Reads inner w ∧ ¬ IsNumeric limitNode := by
  rw [breaks_bind_iff]
  refine or_congr Iff.rfl ?_
  simp only [breaks_bind_pure_iff, breaks_limit_iff, Reads, exists_and_right]

/-- The ways in which what is made of a needed value can break. -/
theorem breaks_make_iff {inner : Json → Read KindEntry} : Breaks (type.make inner members w) ↔
    type.NeedsItems ∧ ¬ HasItems w ∨
      type.NeedsKind ∧ Breaks (inner w) ∨
      type.HasLimit ∧ Reads inner w ∧ ¬ IsNumeric (memberOr "limit" .null members) ∨
      type = .either ∧ ∃ us, items w = .ok us ∧ Meets inner (fun u => Breaks (inner u)) us := by
  cases type with
  | primitive => simp [NodeType.make, not_breaks_built, NodeType.NeedsItems, NodeType.NeedsKind,
      NodeType.HasLimit]
  | geometry => simp [NodeType.make, breaks_bind_iff, breaks_items_iff, not_breaks_built,
      NodeType.NeedsItems, NodeType.NeedsKind, NodeType.HasLimit]
  | record =>
    rw [NodeType.make, breaks_bind_pure_iff, breaks_items_iff]
    simp [NodeType.NeedsItems, NodeType.NeedsKind, NodeType.HasLimit]
  | option =>
    rw [NodeType.make, breaks_bind_pure_iff]
    simp [NodeType.NeedsItems, NodeType.NeedsKind, NodeType.HasLimit]
  | array | set =>
    rw [NodeType.make, breaks_collection_iff]
    simp [NodeType.NeedsItems, NodeType.NeedsKind, NodeType.HasLimit]
  | either => simp [NodeType.make, breaks_bind_iff, breaks_items_iff, breaks_mapM_iff,
      not_breaks_union, NodeType.NeedsItems, NodeType.NeedsKind, NodeType.HasLimit]

theorem NodeOf.kindAt_eq (h : NodeOf v type members w) :
    kindAt v = type.make kindAt members w := by
  rw [Archive.kindAt_eq, h.verified, except_ok_bind, contents, h.typeOf]
  simp only [member, h.needed, except_ok_bind]

/-- The kind of a value breaks for want of a node, for want of the needed member, or in what is
made of that. -/
theorem breaks_kindAt_cases (h : Breaks (kindAt v)) :
    v.members? = none ∨
      (∃ type members, verified v = .ok members ∧ typeOf? members = some type ∧
        find? type.needs members = none) ∨
      ∃ type members w, NodeOf v type members w ∧ Breaks (type.make kindAt members w) := by
  rw [kindAt_eq, breaks_bind_iff] at h
  rcases h with h | ⟨members, hv, h⟩
  · exact .inl (breaks_verified_iff.mp h)
  · rw [contents] at h
    split at h
    · rename_i type htype
      rcases breaks_bind_iff.mp h with h | ⟨w, hw, h⟩
      · exact .inr (.inl ⟨type, members, hv, htype, breaks_member_iff.mp h⟩)
      · exact .inr (.inr ⟨type, members, w, ⟨hv, htype, find?_of_member hw⟩, h⟩)
    · exact absurd (breaks_error_iff.mp h) id

/-- **Where a kind breaks there is a breach.**  The induction is on depth, since the items of the
needed value are no parts of a member list. -/
theorem kindBreach_of_breaks {n : Nat} : ∀ {v : Json}, v.depth ≤ n → Breaks (kindAt v) →
    KindBreach v := by
  induction n with
  | zero =>
    intro v hn _
    exact .noNode (members?_of_depth_eq_zero v (Nat.le_zero.mp hn))
  | succ n ih =>
    intro v hn h
    rcases breaks_kindAt_cases h with h | ⟨type, members, hv, ht, h⟩ | ⟨type, members, w, hw, h⟩
    · exact .noNode h
    · exact .lacking hv ht h
    · have hdepth : w.depth ≤ n := by
        obtain rfl := eq_of_verified hw.verified
        have hle := depth_le_of_find? hw.needed
        rw [depth] at hn
        omega
      rcases breaks_make_iff.mp h with
        ⟨htype, h⟩ | ⟨htype, h⟩ | ⟨htype, hread, h⟩ | ⟨rfl, us, hitems, hmeets⟩
      · exact .noItems hw htype h
      · exact .inner hw htype (ih hdepth h)
      · exact .limit hw htype hread h
      · obtain ⟨front, u, back, rfl, hfront, h⟩ := hmeets
        have hle := depth_le_of_items (v := u) w hitems (by simp)
        exact .unionMember hw hitems hfront (ih (Nat.le_trans hle hdepth) h)

/-- **A kind breaks at a breach, and nowhere else.** -/
theorem breaks_kindAt_iff : Breaks (kindAt v) ↔ KindBreach v := by
  refine ⟨kindBreach_of_breaks (Nat.le_refl _), fun h => ?_⟩
  induction h with
  | noNode h =>
    rw [kindAt_eq, breaks_bind_iff]
    exact .inl (breaks_verified_iff.mpr h)
  | lacking hv ht h =>
    rw [kindAt_eq, hv, except_ok_bind, contents, ht]
    exact breaks_bind_iff.mpr (.inl (breaks_member_iff.mpr h))
  | noItems hw htype h =>
    rw [hw.kindAt_eq, breaks_make_iff]
    exact .inl ⟨htype, h⟩
  | inner hw htype _ ih =>
    rw [hw.kindAt_eq, breaks_make_iff]
    exact .inr (.inl ⟨htype, ih⟩)
  | limit hw htype hread h =>
    rw [hw.kindAt_eq, breaks_make_iff]
    exact .inr (.inr (.inl ⟨htype, hread, h⟩))
  | unionMember hw hitems hfront _ ih =>
    rw [hw.kindAt_eq, breaks_make_iff]
    exact .inr (.inr (.inr ⟨rfl, _, hitems, _, _, _, rfl, hfront, ih⟩))

end

/-! ## 3. Statements -/

/-- The values that are not read as a parameter for their shape. -/
inductive ParameterBreach : Json → Prop
  | noNode {v : Json} : v.members? = none → ParameterBreach v
  | lacking {v : Json} {members : List (Text × Json)} :
      verified v = .ok members → find? "name" members = none ∨ find? "kind" members = none →
        ParameterBreach v
  | kind {v w : Json} {members : List (Text × Json)} :
      verified v = .ok members → find? "kind" members = some w → KindBreach w → ParameterBreach v

/-- `FunctionOf v members parameters`: the identifier of the node `v` is right, `members` are its
members, its type is that of statements, and `parameters` stands for the list of parameters. -/
structure FunctionOf (v : Json) (members : List (Text × Json)) (parameters : Json) : Prop where
  verified : Archive.verified v = .ok members
  type : memberOr "type" .null members = .string "FunctionStatement"
  parameters : memberOr "parameters" (.array []) members = parameters

/-- The values that are not read as a statement for their shape. -/
inductive StatementBreach : Json → Prop
  /-- Something without items for the parameters. -/
  | noParameters {v w : Json} {members : List (Text × Json)} :
      FunctionOf v members w → ¬ HasItems w → StatementBreach v
  /-- A breach in a parameter, if the parameters in front of it are read. -/
  | parameter {v w : Json} {us : List Json} {members : List (Text × Json)} :
      FunctionOf v members w → items w = .ok us → Meets readParameter ParameterBreach us →
        StatementBreach v
  /-- No path, or something without items for it, behind parameters that are read. -/
  | noPath {v w : Json} {us : List Json} {members : List (Text × Json)} :
      FunctionOf v members w → items w = .ok us → (∀ u ∈ us, Reads readParameter u) →
        (∀ path, find? "path" members = some path → ¬ HasItems path) → StatementBreach v
  /-- Something without items for the comments, behind parameters that are read. -/
  | noComments {v w : Json} {us : List Json} {members : List (Text × Json)} :
      FunctionOf v members w → items w = .ok us → (∀ u ∈ us, Reads readParameter u) →
        ¬ HasItems (memberOr "comments" (.array []) members) → StatementBreach v

section

variable {members : List (Text × Json)} {v w : Json} {us : List Json}

/-- What is read of a parameter once its identifier is verified. -/
def parameterContents (members : List (Text × Json)) : Read ParameterEntry := do
  let name ← member "name" members
  let kind ← member "kind" members
  pure ⟨name, ← kindAt kind⟩

theorem breaks_parameterContents_iff : Breaks (parameterContents members) ↔
    find? "name" members = none ∨ find? "kind" members = none ∨
      ∃ w, find? "kind" members = some w ∧ KindBreach w := by
  rw [parameterContents, breaks_bind_iff, breaks_member_iff]
  cases hname : find? "name" members with
  | none => simp
  | some name =>
    simp only [member, hname, reduceCtorEq, false_or, Except.ok.injEq, exists_eq_left']
    cases hkind : find? "kind" members with
    | none => simp [breaks_bind_iff, breaks_error_iff, ReadError.IsShapeFault]
    | some w => simp only [except_ok_bind, breaks_bind_pure_iff, breaks_kindAt_iff, reduceCtorEq,
        false_or, Option.some.injEq, exists_eq_left']

/-- A parameter breaks at a breach, and nowhere else. -/
theorem breaks_readParameter_iff : Breaks (readParameter v) ↔ ParameterBreach v := by
  have hread : readParameter v = verified v >>= parameterContents := rfl
  simp only [hread, breaks_bind_iff, breaks_verified_iff, breaks_parameterContents_iff]
  constructor
  · rintro (h | ⟨members, hv, h | h | ⟨w, hw, h⟩⟩)
    · exact .noNode h
    · exact .lacking hv (.inl h)
    · exact .lacking hv (.inr h)
    · exact .kind hv hw h
  · rintro (h | ⟨hv, h | h⟩ | ⟨hv, hw, h⟩)
    · exact .inl h
    · exact .inr ⟨_, hv, .inl h⟩
    · exact .inr ⟨_, hv, .inr (.inl h)⟩
    · exact .inr ⟨_, hv, .inr (.inr ⟨_, hw, h⟩)⟩

/-- What is read of a statement behind its parameters. -/
def header (members : List (Text × Json)) (parameters : List ParameterEntry) :
    Read StatementEntry := do
  let path ← items (← member "path" members)
  let comments ← items (memberOr "comments" (.array []) members)
  match StatementEntry.ofPath? path parameters comments with
  | some s => pure s
  | none => .error .emptyPath

/-- What is read of a statement behind its type. -/
def functionContents (members : List (Text × Json)) (parameters : Json) : Read StatementEntry := do
  header members (← (← items parameters).mapM readParameter)

theorem FunctionOf.readStatement_eq (h : FunctionOf v members w) :
    readStatement v = functionContents members w := by
  obtain rfl := eq_of_verified h.verified
  rw [readStatement, h.verified]
  simp only [members?, except_ok_bind, readFunction, h.type, h.parameters, isString_self,
    Bool.not_true, Bool.false_eq_true, if_false]
  rfl

/-- Nothing breaks in front of the type of a statement. -/
theorem exists_functionOf (h : Breaks (readStatement v)) : ∃ members w, FunctionOf v members w := by
  unfold readStatement at h
  split at h
  · exact absurd (breaks_error_iff.mp h) id
  · rename_i hmembers
    rcases breaks_bind_iff.mp h with h | ⟨members, hv, h⟩
    · exact absurd (breaks_verified_iff.mp h) (by simp [hmembers])
    · refine ⟨members, _, hv, ?_, rfl⟩
      by_cases htype : (memberOr "type" .null members).isString "FunctionStatement" = true
      · exact isString_iff.mp htype
      · rw [readFunction, if_pos (by simpa using htype)] at h
        exact absurd (breaks_error_iff.mp h) id

/-- Behind the parameters a statement breaks for its path or for its comments. -/
theorem breaks_header_iff {parameters : List ParameterEntry} : Breaks (header members parameters) ↔
    (∀ path, find? "path" members = some path → ¬ HasItems path) ∨
      ¬ HasItems (memberOr "comments" (.array []) members) := by
  have hlast : ∀ segments comments, ¬ Breaks (match StatementEntry.ofPath? segments parameters
      comments with
    | some s => pure s
    | none => .error ReadError.emptyPath) := by
    intro segments comments
    split
    · exact not_breaks_ok
    · exact fun h => breaks_error_iff.mp h
  rw [header, breaks_bind_iff, breaks_member_iff]
  cases hpath : find? "path" members with
  | none => simp
  | some path =>
    simp only [member, hpath, reduceCtorEq, false_or, Except.ok.injEq,
      exists_eq_left']
    rw [breaks_bind_iff, breaks_items_iff]
    by_cases hitems : HasItems path
    · obtain ⟨segments, hsegments⟩ := exists_items_iff.mpr hitems
      simp [hitems, hsegments, breaks_bind_iff, breaks_items_iff, hlast]
    · simp [hitems]

/-- The ways in which what is read of a statement can break. -/
theorem breaks_functionContents_iff : Breaks (functionContents members w) ↔ ¬ HasItems w ∨
    ∃ us, items w = .ok us ∧ (Meets readParameter ParameterBreach us ∨
      (∀ u ∈ us, Reads readParameter u) ∧
        ((∀ path, find? "path" members = some path → ¬ HasItems path) ∨
          ¬ HasItems (memberOr "comments" (.array []) members))) := by
  simp only [functionContents, breaks_bind_iff, breaks_items_iff, breaks_mapM_iff,
    breaks_readParameter_iff, breaks_header_iff, ← exists_mapM_ok_iff, exists_and_right]

/-- **A statement breaks at a breach, and nowhere else.** -/
theorem breaks_readStatement_iff : Breaks (readStatement v) ↔ StatementBreach v := by
  constructor
  · intro h
    obtain ⟨members, w, hf⟩ := exists_functionOf h
    rw [hf.readStatement_eq] at h
    rcases breaks_functionContents_iff.mp h with h | ⟨us, hw, h | ⟨hus, h | h⟩⟩
    · exact .noParameters hf h
    · exact .parameter hf hw h
    · exact .noPath hf hw hus h
    · exact .noComments hf hw hus h
  · rintro (⟨hf, h⟩ | ⟨hf, hw, h⟩ | ⟨hf, hw, hus, h⟩ | ⟨hf, hw, hus, h⟩)
    all_goals rw [hf.readStatement_eq, breaks_functionContents_iff]
    · exact .inl h
    · exact .inr ⟨_, hw, .inl h⟩
    · exact .inr ⟨_, hw, .inr ⟨hus, .inl h⟩⟩
    · exact .inr ⟨_, hw, .inr ⟨hus, .inr h⟩⟩

end

/-! ## 4. Archives -/

/-- **A text is read or refused unless it leads to a breach**: in the list that it holds there is
a statement with a breach, and all statements in front of that one are read. -/
theorem read_settles_iff (t : Text) :
    Settles (read t) ↔ ∀ nodes, Json.parse t = .ok (.array nodes) →
      ¬ Meets readStatement StatementBreach nodes := by
  have hbreaks : Breaks (read t) ↔
      ∃ nodes, Json.parse t = .ok (.array nodes) ∧ Meets readStatement StatementBreach nodes := by
    rw [read]
    cases Json.parse t with
    | error e => simp [breaks_error_iff, ReadError.IsShapeFault]
    | ok v =>
      cases v with
      | array nodes => simp [readValue, breaks_mapM_iff, breaks_readStatement_iff]
      | _ => simp [readValue, breaks_error_iff, ReadError.IsShapeFault]
  rw [settles_iff_not_breaks, hbreaks]
  simp

/-- A statement with a text in the place of its parameter, and with the right identifier. -/
def strayMembers : List (Text × Json) :=
  [("type", .string "FunctionStatement"), ("path", ofTexts ["a"]), ("comments", ofTexts []),
    ("parameters", ofTexts ["x"])]

/-- Its archive is neither read nor refused: the reader looks for members of the text. -/
theorem read_stray :
    read ((Json.array [Archive.sealed strayMembers]).indented true 0) = .error .notANode ∧
      ¬ Settles (read ((Json.array [Archive.sealed strayMembers]).indented true 0)) := by
  have hid : idName ∉ strayMembers.map Prod.fst := by simp [strayMembers, idName]
  have hwhole : haveTorn strayMembers = false := by
    simp [strayMembers, haveTorn, isTorn, isTorn_ofTexts]
  have hplain : (Json.array [Archive.sealed strayMembers]).Plain := by
    refine ⟨plain_sealed ⟨?_, ?_⟩, trivial⟩
    · simp [strayMembers, idName]
    · exact ⟨trivial, plain_ofTexts, plain_ofTexts, plain_ofTexts, trivial⟩
  have hf : FunctionOf (Archive.sealed strayMembers) _ (ofTexts ["x"]) :=
    { verified := verified_sealed hid hwhole
      type := by simp [strayMembers, memberOr, find?_head]
      parameters := by simp (disch := decide) [strayMembers, memberOr, find?_head] }
  have hstatement : readStatement (Archive.sealed strayMembers) = .error .notANode := by
    rw [hf.readStatement_eq]
    rfl
  have hread : read ((Json.array [Archive.sealed strayMembers]).indented true 0) =
      .error .notANode := by
    simp only [read, parse_indented hplain, readValue, List.mapM_cons, hstatement]
    rfl
  rw [settles_iff_not_breaks, hread, breaks_error_iff]
  exact ⟨rfl, fun h => h trivial⟩

end Archive

end StoredFunctions
