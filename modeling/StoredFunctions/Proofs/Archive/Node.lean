/-
# Nodes and their identifiers

A node is sealed with an identifier that is made from the rest of it.  Made again from the whole
node it is the same, since the preimage leaves identifiers out at every depth
(`preimage_append_id`); so a sealed node is verified, and its members are those it was sealed with
and the identifier behind them (`verified_sealed`), unless a member is torn.

Nothing is torn in what the nodes of statements are sealed with (`Statement.haveTorn_members`), and
the nodes are plain values, if the bounds in them are short enough to be read
(`Statement.plain_node`).
-/
import StoredFunctions.Archive.Reader
import StoredFunctions.Archive.Writer
import StoredFunctions.Proofs.Json.Layout
import StoredFunctions.Proofs.Kind.Canonical

namespace StoredFunctions

variable {name n : Text} {v : Json} {ms more : List (Text × Json)}

/-! ## 1. Members -/

namespace Json

theorem find?_head : find? name ((name, v) :: ms) = some v := by
  simp [find?]

theorem find?_tail (h : n ≠ name) : find? name ((n, v) :: ms) = find? name ms := by
  simp [find?, h]

theorem find?_append (h : name ∉ ms.map Prod.fst) : find? name (ms ++ more) = find? name more := by
  induction ms with
  | nil => rfl
  | cons m ms ih =>
    rw [List.map_cons, List.mem_cons, not_or] at h
    rw [List.cons_append, find?_tail (Ne.symm h.1), ih h.2]

theorem withoutMembers_append :
    withoutMembers name (ms ++ more) = withoutMembers name ms ++ withoutMembers name more := by
  induction ms with
  | nil => rfl
  | cons m ms ih =>
    rw [List.cons_append, withoutMembers, withoutMembers, ih]
    split
    · rfl
    · rfl

theorem plainMembers_append (h : PlainMembers ms) (hmore : PlainMembers more) :
    PlainMembers (ms ++ more) := by
  induction ms with
  | nil => exact hmore
  | cons m ms ih =>
    rw [PlainMembers] at h
    exact ⟨h.1, ih h.2⟩

theorem haveTorn_append : haveTorn (ms ++ more) = (haveTorn ms || haveTorn more) := by
  induction ms with
  | nil => rfl
  | cons m ms ih =>
    rw [List.cons_append, haveTorn, haveTorn, ih, Bool.or_assoc]

theorem areTorn_map {α : Type} {f : α → Json} {as : List α} (h : ∀ a ∈ as, (f a).isTorn = false) :
    areTorn (as.map f) = false := by
  induction as with
  | nil => rfl
  | cons a as ih =>
    obtain ⟨ha, has⟩ := List.forall_mem_cons.mp h
    rw [List.map_cons, areTorn, ha, ih has]
    rfl

theorem isTorn_ofTexts (ts : List Text) : (ofTexts ts).isTorn = false :=
  areTorn_map fun _ _ => rfl

mutual

/-- Leaving members out tears nothing. -/
theorem isTorn_without (name : Text) :
    (v : Json) → v.isTorn = false → (v.without name).isTorn = false
  | .array items, h => areTorn_withoutItems name items h
  | .object members, h => haveTorn_withoutMembers name members h
  | .null, _ | .bool _, _ | .int _, _ | .float _, _ | .string _, _ => rfl

theorem areTorn_withoutItems (name : Text) :
    (vs : List Json) → areTorn vs = false → areTorn (withoutItems name vs) = false
  | [], _ => rfl
  | v :: more, h => by
    rw [areTorn, Bool.or_eq_false_iff] at h
    rw [withoutItems, areTorn, isTorn_without name v h.1, areTorn_withoutItems name more h.2]
    rfl

theorem haveTorn_withoutMembers (name : Text) :
    (ms : List (Text × Json)) → haveTorn ms = false → haveTorn (withoutMembers name ms) = false
  | [], _ => rfl
  | (n, v) :: more, h => by
    rw [haveTorn, Bool.or_eq_false_iff] at h
    rw [withoutMembers]
    split
    · exact haveTorn_withoutMembers name more h.2
    · rw [haveTorn, isTorn_without name v h.1, haveTorn_withoutMembers name more h.2]
      rfl

end

theorem plainItems_iff {vs : List Json} : PlainItems vs ↔ ∀ v ∈ vs, v.Plain := by
  induction vs with
  | nil => simp [PlainItems]
  | cons v vs ih => rw [PlainItems, ih, List.forall_mem_cons]

theorem plain_ofTexts {ts : List Text} : (ofTexts ts).Plain := by
  rw [ofTexts, Plain, plainItems_iff, List.forall_mem_map]
  exact fun _ _ => trivial

end Json

/-! ## 2. Sealed nodes -/

namespace Archive

open Json

/-- What a node is sealed with: plain members with different names, and no identifier. -/
structure Content (ms : List (Text × Json)) : Prop where
  nodup : (idName :: ms.map Prod.fst).Nodup
  plain : PlainMembers ms

/-- **An identifier does not count for its own preimage.** -/
theorem preimage_append_id :
    preimage (.object (ms ++ [(idName, v)])) = preimage (.object ms) := by
  have hid : withoutMembers idName [(idName, v)] = [] := by
    rw [withoutMembers, if_pos rfl, withoutMembers]
  rw [preimage, preimage, without, without, withoutMembers_append, hid, List.append_nil]

theorem plain_sealed (h : Content ms) : (Archive.sealed ms).Plain := by
  obtain ⟨hid, hms⟩ := List.nodup_cons.mp h.nodup
  rw [Archive.sealed, Plain, List.map_append]
  refine ⟨?_, plainMembers_append h.plain ⟨trivial, trivial⟩⟩
  rw [List.nodup_append]
  refine ⟨hms, by simp, ?_⟩
  rintro a ha b hb rfl
  obtain rfl : a = idName := by simpa using hb
  exact hid ha

theorem isTorn_sealed (h : haveTorn ms = false) : (Archive.sealed ms).isTorn = false := by
  rw [Archive.sealed, isTorn, haveTorn_append, h]
  rfl

/-- **A sealed node is verified.** -/
theorem verified_sealed (h : idName ∉ ms.map Prod.fst) (hwhole : haveTorn ms = false) :
    verified (Archive.sealed ms) =
      .ok (ms ++ [(idName, .string (identifier (preimage (.object ms))))]) := by
  have htorn := isTorn_without idName _ (isTorn_sealed hwhole)
  rw [Archive.sealed] at htorn ⊢
  rw [verified, members?]
  simp only [memberOr, find?_append h, find?_head, Option.getD_some, htorn, preimage_append_id,
    isString, beq_self_eq_true, if_true, Bool.false_eq_true, if_false]

end Archive

/-! ## 3. The nodes of statements -/

namespace Kind

mutual

/-- Whether all bounds of a kind are short enough to be read. -/
def Bounded : Kind → Prop
  | primitive _ => True
  | geometry _ _ => True
  | record _ => True
  | option inner => inner.Bounded
  | array inner limit => inner.Bounded ∧ IsBound limit
  | set inner limit => inner.Bounded ∧ IsBound limit
  | either first second more => first.Bounded ∧ second.Bounded ∧ AllBounded more

/-- Whether all bounds of all kinds are short enough to be read. -/
def AllBounded : List Kind → Prop
  | [] => True
  | k :: more => k.Bounded ∧ AllBounded more

end

end Kind

/-- Whether all bounds of a statement are short enough to be read. -/
def Statement.Bounded (s : Statement) : Prop := ∀ p ∈ s.parameters, p.kind.Bounded

namespace Archive

theorem isTorn_limitNode (limit : Option Nat) : (limitNode limit).isTorn = false := by
  cases limit <;> rfl

theorem plain_limitNode {limit : Option Nat} (h : Kind.IsBound limit) :
    (limitNode limit).Plain := by
  cases limit with
  | none => trivial
  | some n => exact h n rfl

theorem content_pair {a b : Text} {v w : Json} (hv : v.Plain) (hw : w.Plain)
    (h : [idName, a, b].Nodup) : Content [(a, v), (b, w)] :=
  ⟨h, hv, hw, trivial⟩

theorem content_collection {type : Text} {inner : Json} {limit : Option Nat}
    (hinner : inner.Plain) (h : Kind.IsBound limit) :
    Content [("type", .string type), ("inner", inner), ("limit", limitNode limit)] := by
  have hnames : [idName, Text.of "type", Text.of "inner", Text.of "limit"].Nodup := by
    simp [idName]
  exact ⟨hnames, trivial, hinner, plain_limitNode h, trivial⟩

end Archive

namespace Kind

open Archive

mutual

/-- **Nothing is torn in the node of a kind**, whatever its bounds are. -/
theorem isTorn_node : (k : Kind) → k.node.isTorn = false
  | primitive _ => by rw [node, isTorn_sealed rfl]
  | geometry first more => by
    rw [node, isTorn_sealed]
    simp [Json.haveTorn, Json.isTorn, Json.isTorn_ofTexts]
  | record tables => by
    rw [node, isTorn_sealed]
    simp [Json.haveTorn, Json.isTorn, Json.isTorn_ofTexts]
  | option inner => by
    rw [node, isTorn_sealed]
    simp [Json.haveTorn, Json.isTorn, isTorn_node inner]
  | array inner limit => by
    rw [node, isTorn_sealed]
    simp [Json.haveTorn, Json.isTorn, isTorn_node inner, isTorn_limitNode]
  | set inner limit => by
    rw [node, isTorn_sealed]
    simp [Json.haveTorn, Json.isTorn, isTorn_node inner, isTorn_limitNode]
  | either first second more => by
    rw [node, isTorn_sealed]
    simp [Json.haveTorn, Json.isTorn, Json.areTorn, isTorn_node first, isTorn_node second,
      areTorn_nodes more]

theorem areTorn_nodes : (ks : List Kind) → Json.areTorn (nodes ks) = false
  | [] => rfl
  | k :: more => by
    rw [nodes, Json.areTorn, isTorn_node k, areTorn_nodes more]
    rfl

end

mutual

theorem plain_node : (k : Kind) → k.Bounded → k.node.Plain
  | primitive p, _ => plain_sealed (content_pair trivial trivial (by simp [idName]))
  | geometry first more, _ =>
    plain_sealed (content_pair trivial Json.plain_ofTexts (by simp [idName]))
  | record tables, _ => plain_sealed (content_pair trivial Json.plain_ofTexts (by simp [idName]))
  | option inner, h => by
    rw [Bounded] at h
    exact plain_sealed (content_pair trivial (plain_node inner h) (by simp [idName]))
  | array inner limit, h => by
    rw [Bounded] at h
    exact plain_sealed (content_collection (plain_node inner h.1) h.2)
  | set inner limit, h => by
    rw [Bounded] at h
    exact plain_sealed (content_collection (plain_node inner h.1) h.2)
  | either first second more, h => by
    rw [Bounded] at h
    have hitems : (Json.array (first.node :: second.node :: nodes more)).Plain :=
      ⟨plain_node first h.1, plain_node second h.2.1, plain_nodes more h.2.2⟩
    exact plain_sealed (content_pair trivial hitems (by simp [idName]))

theorem plain_nodes : (ks : List Kind) → AllBounded ks → Json.PlainItems (nodes ks)
  | [], _ => trivial
  | k :: more, h => by
    rw [AllBounded] at h
    exact ⟨plain_node k h.1, plain_nodes more h.2⟩

end

end Kind

theorem Parameter.isTorn_node (p : Parameter) : p.node.isTorn = false := by
  rw [node, Archive.isTorn_sealed]
  simp [Json.haveTorn, Json.isTorn, p.kind.isTorn_node]

theorem Statement.haveTorn_members (s : Statement) :
    Json.haveTorn [("type", .string "FunctionStatement"), ("path", Json.ofTexts s.path),
      ("comments", Json.ofTexts s.comments),
      ("parameters", .array (s.parameters.map Parameter.node))] = false := by
  have hparameters := Json.areTorn_map fun p (_ : p ∈ s.parameters) => p.isTorn_node
  simp [Json.haveTorn, Json.isTorn, Json.isTorn_ofTexts, hparameters]

theorem Parameter.plain_node {p : Parameter} (h : p.kind.Bounded) : p.node.Plain :=
  Archive.plain_sealed
    (Archive.content_pair trivial (p.kind.plain_node h) (by simp [Archive.idName]))

theorem Statement.plain_node {s : Statement} (h : s.Bounded) : s.node.Plain := by
  have hparameters : (Json.array (s.parameters.map Parameter.node)).Plain := by
    rw [Json.Plain, Json.plainItems_iff, List.forall_mem_map]
    exact fun p hp => Parameter.plain_node (h p hp)
  have hnames : [Archive.idName, Text.of "type", Text.of "path", Text.of "comments",
      Text.of "parameters"].Nodup := by
    simp [Archive.idName]
  exact Archive.plain_sealed
    ⟨hnames, trivial, Json.plain_ofTexts, Json.plain_ofTexts, hparameters, trivial⟩

/-- **The value of an archive is plain**, so that it can be read back from its text. -/
theorem Archive.plain_value {statements : List Statement} (h : ∀ s ∈ statements, s.Bounded) :
    (Archive.value statements).Plain := by
  rw [Archive.value, Json.Plain, Json.plainItems_iff, List.forall_mem_map]
  exact fun s hs => Statement.plain_node (h s hs)

end StoredFunctions
