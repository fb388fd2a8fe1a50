/-
# Nodes of kinds by their types

`readKind` asks for one type after the other.  Told by its type (`NodeType`) every node of a kind
is read in one way (`readKind_succ`): its identifier is verified, its type is looked up, and the
value of the one member that the type needs is made into a kind.

The depth does nothing but keep the recursion going.  One that suffices for the value gives what
every greater one gives (`readKind_depth`), so that a kind can be spoken of without a depth
(`kindAt`, `kindAt_eq`).
-/
import StoredFunctions.Proofs.Archive.Node
import StoredFunctions.Proofs.Outcome

namespace StoredFunctions

/-! ## 1. Looking members up -/

theorem Text.of_ne {a b : String} (h : a.toList ≠ b.toList) : Text.of a ≠ Text.of b := by
  rwa [of_eq, of_eq]

namespace Json

variable {a b : String} {v : Json} {ms : List (Text × Json)}

@[simp] theorem isString_self {t : Text} : (string t).isString t = true := by
  simp [isString]

@[simp] theorem isString_of_ne (h : a.toList ≠ b.toList) :
    (string (Text.of a)).isString (Text.of b) = false := by
  simp [isString, Text.of_ne h]

@[simp] theorem find?_of_ne (h : a.toList ≠ b.toList) :
    find? (Text.of b) ((Text.of a, v) :: ms) = find? (Text.of b) ms :=
  find?_tail (Text.of_ne h)

end Json

namespace Archive

open Json

variable {members : List (Text × Json)} {name : Text} {v w : Json} {n m : Nat}

/-! ## 2. Types -/

/-- The types of kind nodes. -/
inductive NodeType where
  | primitive | geometry | record | option | array | set | either
  deriving DecidableEq, Repr

namespace NodeType

/-- All types, in the order in which the reader asks for them. -/
def all : List NodeType := [primitive, geometry, record, option, array, set, either]

/-- The word for a type. -/
def text : NodeType → Text
  | primitive => "Primitive"
  | geometry => "Geometry"
  | record => "Record"
  | option => "Option"
  | array => "Array"
  | set => "Set"
  | either => "Either"

/-- The member that a node of the type needs. -/
def needs : NodeType → Text
  | primitive => "value"
  | geometry => "subtypes"
  | record => "tables"
  | option | array | set => "inner"
  | either => "kinds"

/-- The kind that a node of the type is, made from the value of the member that it needs, where
`inner` reads the kinds within. -/
def make (inner : Json → Read KindEntry) (members : List (Text × Json)) (w : Json) :
    NodeType → Read KindEntry
  | primitive => built (keyword w)
  | geometry => do built (Kind.ofShapes ((← items w).map shape))
  | record => do pure (.record (← items w))
  | option => do pure (.option (← inner w))
  | array => do
    let element ← inner w
    pure (.array element (← limit (memberOr "limit" .null members)))
  | set => do
    let element ← inner w
    pure (.set element (← limit (memberOr "limit" .null members)))
  | either => do union (← (← items w).mapM inner)

end NodeType

/-- The type of a node with these members, if it is one of a kind. -/
def typeOf? (members : List (Text × Json)) : Option NodeType :=
  NodeType.all.find? fun type => (memberOr "type" .null members).isString type.text

theorem NodeType.mem_all (type : NodeType) : type ∈ all := by
  cases type <;> decide

theorem isString_iff {t : Text} : v.isString t = true ↔ v = .string t := by
  cases v <;> simp [isString]

theorem typeOf?_eq_some {type : NodeType} (h : typeOf? members = some type) :
    memberOr "type" .null members = .string type.text := by
  rw [typeOf?] at h
  have hfound := List.find?_some h
  exact isString_iff.mp hfound

theorem typeOf?_of_find? {type : NodeType} (h : find? "type" members = some (.string type.text)) :
    typeOf? members = some type := by
  rw [typeOf?, memberOr, h, Option.getD_some]
  cases type <;> simp (disch := decide) [NodeType.all, NodeType.text]

/-! ## 3. One reader for all types -/

/-- What is read of a node once its identifier is verified, where `inner` reads the kinds
within. -/
def contents (inner : Json → Read KindEntry) (members : List (Text × Json)) : Read KindEntry :=
  match typeOf? members with
  | some type => do type.make inner members (← member type.needs members)
  | none => .error (.unknownKind (Value.ofJson (memberOr "type" .null members)).display)

/-- **Every node of a kind is read in one way.** -/
theorem readKind_succ (n : Nat) (v : Json) :
    readKind (n + 1) v = verified v >>= contents (readKind n) := by
  rw [readKind]
  congr 1
  funext members
  rw [contents]
  cases h : typeOf? members with
  | none =>
    have hnone (type : NodeType) : (memberOr "type" .null members).isString type.text = false := by
      simpa using List.find?_eq_none.mp h type type.mem_all
    have hprimitive := hnone .primitive
    have hgeometry := hnone .geometry
    have hrecord := hnone .record
    have hoption := hnone .option
    have harray := hnone .array
    have hset := hnone .set
    have heither := hnone .either
    simp only [NodeType.text] at hprimitive hgeometry hrecord hoption harray hset heither
    simp only [hprimitive, hgeometry, hrecord, hoption, harray, hset, heither, Bool.false_eq_true,
      if_false]
  | some type =>
    rw [typeOf?_eq_some h]
    cases type <;> simp (disch := decide) only [NodeType.text, NodeType.needs, NodeType.make,
      isString_of_ne, isString_self, Bool.false_eq_true, if_false, if_true]

/-! ## 4. Depth -/

theorem depth_le_of_mem {vs : List Json} (h : v ∈ vs) : v.depth ≤ depthOfItems vs := by
  induction vs with
  | nil => exact absurd h (by simp)
  | cons u vs ih =>
    rw [depthOfItems]
    rcases List.mem_cons.mp h with rfl | h
    · omega
    · have := ih h
      omega

theorem depth_le_of_find? (h : find? name members = some w) :
    w.depth ≤ depthOfMembers members := by
  induction members with
  | nil => exact absurd h (by simp [find?])
  | cons m members ih =>
    obtain ⟨k, u⟩ := m
    rw [depthOfMembers]
    by_cases hk : k = name
    · subst hk
      obtain rfl : u = w := by simpa [find?_head] using h
      omega
    · have := ih (by rwa [find?_tail hk] at h)
      omega

theorem find?_of_member (h : member name members = .ok w) : find? name members = some w := by
  unfold member at h
  split at h
  · rename_i u hu
    rw [hu, Except.ok.inj h]
  · exact absurd h (by simp)

/-- The items of a value are no deeper than the value. -/
theorem depth_le_of_items {vs : List Json} : (w : Json) → items w = .ok vs → v ∈ vs →
    v.depth ≤ w.depth
  | .array us, h, hv => by
    obtain rfl := Except.ok.inj h
    rw [depth]
    have := depth_le_of_mem hv
    omega
  | .string t, h, hv => by
    obtain rfl := Except.ok.inj h
    obtain ⟨x, -, rfl⟩ := List.mem_map.mp hv
    simp [depth]
  | .object members, h, hv => by
    obtain rfl := Except.ok.inj h
    obtain ⟨x, -, rfl⟩ := List.mem_map.mp hv
    simp [depth]
  | .torn w, h, hv => depth_le_of_items w h hv
  | .null, h, _ | .bool _, h, _ | .int _, h, _ | .float _, h, _ => absurd h (by simp [items])

/-- A node is made from values that are no deeper than that of the member that it needs. -/
theorem NodeType.make_congr {f g : Json → Read KindEntry} (type : NodeType)
    (h : ∀ u, u.depth ≤ w.depth → f u = g u) :
    type.make f members w = type.make g members w := by
  cases type with
  | primitive | geometry | record => rfl
  | option | array | set => simp only [make, h w (Nat.le_refl _)]
  | either =>
    simp only [make]
    cases hitems : items w with
    | error e => rfl
    | ok vs =>
      rw [except_ok_bind, except_ok_bind,
        mapM_congr fun u hu => h u (depth_le_of_items w hitems hu)]

theorem contents_congr {f g : Json → Read KindEntry}
    (h : ∀ u, u.depth ≤ depthOfMembers members → f u = g u) :
    contents f members = contents g members := by
  unfold contents
  split
  · rename_i type _
    cases hw : member type.needs members with
    | error e => rfl
    | ok w =>
      have hdepth := depth_le_of_find? (find?_of_member hw)
      exact type.make_congr fun u hu => h u (by omega)
  · rfl

/-- Only an object is verified: no identifier is made for a torn one. -/
theorem eq_of_verified (h : verified v = .ok members) : v = .object members := by
  unfold verified at h
  split at h
  · exact absurd h (by simp)
  rename_i all hall
  split at h
  · exact absurd h (by simp)
  split at h
  · exact absurd h (by simp)
  rename_i htorn
  split at h
  · obtain rfl := Except.ok.inj h
    cases v with
    | object members => rw [Option.some.inj hall]
    | torn v => exact absurd rfl htorn
    | _ => exact absurd hall (by simp [members?])
  · exact absurd h (by simp)

/-- Only what is read of the members of a node decides what is read of the node. -/
theorem verified_bind_congr {α : Type} {f g : List (Text × Json) → Read α}
    (h : ∀ members, v = .object members → f members = g members) :
    verified v >>= f = verified v >>= g := by
  cases hv : verified v with
  | error e => rfl
  | ok members => exact h members (eq_of_verified hv)

theorem members?_of_depth_eq_zero : (v : Json) → v.depth = 0 → v.members? = none
  | .object _, h => absurd h (by simp [depth])
  | .torn v, h => members?_of_depth_eq_zero v h
  | .array _, _ | .null, _ | .bool _, _ | .int _, _ | .float _, _ | .string _, _ => rfl

theorem readKind_of_depth_eq_zero (h : v.depth = 0) : readKind n v = .error .notANode := by
  cases n with
  | zero => rfl
  | succ n =>
    have hverified : verified v = .error .notANode := by
      rw [verified, members?_of_depth_eq_zero v h]
    rw [readKind, hverified]
    rfl

/-- **More depth than that of the value changes nothing.** -/
theorem readKind_depth : ∀ {n m : Nat} {v : Json}, v.depth ≤ n → v.depth ≤ m →
    readKind n v = readKind m v
  | 0, _, v, hn, _ => by
    have hv : v.depth = 0 := by omega
    rw [readKind_of_depth_eq_zero hv, readKind_of_depth_eq_zero hv]
  | _, 0, v, _, hm => by
    have hv : v.depth = 0 := by omega
    rw [readKind_of_depth_eq_zero hv, readKind_of_depth_eq_zero hv]
  | n + 1, m + 1, v, hn, hm => by
    rw [readKind_succ, readKind_succ]
    refine verified_bind_congr ?_
    rintro members rfl
    rw [depth] at hn hm
    exact contents_congr fun u hu => readKind_depth (by omega) (by omega)

/-- The kind of a node. -/
def kindAt (v : Json) : Read KindEntry := readKind v.depth v

/-- **The kind of a node is made from the kinds of the nodes within.** -/
theorem kindAt_eq (v : Json) : kindAt v = verified v >>= contents kindAt := by
  have hdepth : kindAt v = readKind (v.depth + 1) v := readKind_depth (Nat.le_refl _) (by omega)
  rw [hdepth, readKind_succ]
  refine verified_bind_congr ?_
  rintro members rfl
  refine contents_congr fun u hu => readKind_depth ?_ (Nat.le_refl _)
  rw [depth]
  omega

end Archive

end StoredFunctions
