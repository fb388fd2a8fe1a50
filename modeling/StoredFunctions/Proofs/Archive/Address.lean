/-
# Addresses by content

The identifier of a node is a digest of the node's preimage, and the preimage holds all of the
node: two nodes have one preimage only if they are nodes of one thing (`Item.addressed`).  The way
from the preimage back to what the node stands for has three parts:

* the compact layout spells one plain value (`preimage_eq_iff`), where taking identifiers out and
  sorting members leave a value plain;
* without identifiers and with sorted members, a node is the **content** of what it stands for,
  a value that is said here on its own (`Item.sorted_without_node`);
* things with one content are equal, by an induction on two kinds at once (`Item.content_inj`).

Nothing is assumed of the digest: two different things with one identifier are two messages whose
digests begin alike (`Collide`).
-/
import StoredFunctions.Proofs.Archive.Node
import StoredFunctions.Proofs.Json.Compact

namespace StoredFunctions

variable {name n : Text} {v w : Json} {ms : List (Text × Json)} {a b : String}

/-! ## 1. Plain values rearranged -/

namespace Json

theorem plainMembers_iff : PlainMembers ms ↔ ∀ m ∈ ms, m.2.Plain := by
  induction ms with
  | nil => simp [PlainMembers]
  | cons m ms ih =>
    obtain ⟨n, v⟩ := m
    rw [PlainMembers, ih, List.forall_mem_cons]

theorem names_withoutMembers :
    ((withoutMembers name ms).map Prod.fst).Sublist (ms.map Prod.fst) := by
  induction ms with
  | nil => exact List.Sublist.refl _
  | cons m ms ih =>
    obtain ⟨n, v⟩ := m
    rw [withoutMembers, List.map_cons]
    split
    · exact ih.cons n
    · exact ih.cons_cons n

theorem insertSorted_perm : (insertSorted n v ms).Perm ((n, v) :: ms) := by
  induction ms with
  | nil => exact List.Perm.refl _
  | cons m ms ih =>
    obtain ⟨n', v'⟩ := m
    rw [insertSorted]
    split
    · exact List.Perm.refl _
    · exact (ih.cons _).trans (List.Perm.swap _ _ _)

theorem names_sortedMembers : ((sortedMembers ms).map Prod.fst).Perm (ms.map Prod.fst) := by
  induction ms with
  | nil => exact List.Perm.refl _
  | cons m ms ih =>
    obtain ⟨n, v⟩ := m
    exact (insertSorted_perm.map Prod.fst).trans (ih.cons n)

mutual

theorem plain_without (name : Text) : (v : Json) → v.Plain → (v.without name).Plain
  | .null, _ => trivial
  | .bool _, _ => trivial
  | .int _, h => h
  | .float _, h => h
  | .string _, _ => trivial
  | .array items, h => plainItems_without name items h
  | .object members, h =>
    ⟨h.1.sublist names_withoutMembers, plainMembers_without name members h.2⟩
  | .torn _, h => h

theorem plainItems_without (name : Text) :
    (vs : List Json) → PlainItems vs → PlainItems (withoutItems name vs)
  | [], _ => trivial
  | v :: more, h => ⟨plain_without name v h.1, plainItems_without name more h.2⟩

theorem plainMembers_without (name : Text) :
    (ms : List (Text × Json)) → PlainMembers ms → PlainMembers (withoutMembers name ms)
  | [], _ => trivial
  | (n, v) :: more, h => by
    rw [withoutMembers]
    split
    · exact plainMembers_without name more h.2
    · exact ⟨plain_without name v h.1, plainMembers_without name more h.2⟩

end

mutual

theorem plain_sorted : (v : Json) → v.Plain → v.sorted.Plain
  | .null, _ => trivial
  | .bool _, _ => trivial
  | .int _, h => h
  | .float _, h => h
  | .string _, _ => trivial
  | .array items, h => plainItems_sorted items h
  | .object members, h =>
    ⟨names_sortedMembers.nodup_iff.mpr h.1, plainMembers_sorted members h.2⟩
  | .torn _, h => h

theorem plainItems_sorted : (vs : List Json) → PlainItems vs → PlainItems (sortedItems vs)
  | [], _ => trivial
  | v :: more, h => ⟨plain_sorted v h.1, plainItems_sorted more h.2⟩

theorem plainMembers_sorted :
    (ms : List (Text × Json)) → PlainMembers ms → PlainMembers (sortedMembers ms)
  | [], _ => trivial
  | (n, v) :: more, h => by
    have hmore := plainMembers_iff.mp (plainMembers_sorted more h.2)
    rw [sortedMembers, plainMembers_iff]
    intro m hm
    rcases List.mem_cons.mp (insertSorted_perm.mem_iff.mp hm) with rfl | hm
    · exact plain_sorted v h.1
    · exact hmore m hm

end

/-! ## 2. Members out of the way and in order -/

theorem withoutMembers_of_ne (h : a.toList ≠ b.toList) :
    withoutMembers (Text.of b) ((Text.of a, v) :: ms) =
      (Text.of a, v.without (Text.of b)) :: withoutMembers (Text.of b) ms := by
  rw [withoutMembers, if_neg]
  rwa [Text.of_eq, Text.of_eq]

theorem insertSorted_nil : insertSorted n v [] = [(n, v)] := rfl

theorem insertSorted_front (h : Text.le a.toList b.toList = true) :
    insertSorted (Text.of a) v ((Text.of b, w) :: ms) =
      (Text.of a, v) :: (Text.of b, w) :: ms := by
  rw [insertSorted, if_pos]
  rwa [Text.of_eq, Text.of_eq]

theorem insertSorted_behind (h : Text.le a.toList b.toList = false) :
    insertSorted (Text.of a) v ((Text.of b, w) :: ms) =
      (Text.of b, w) :: insertSorted (Text.of a) v ms := by
  rw [insertSorted, if_neg]
  rw [Text.of_eq, Text.of_eq, h]
  exact Bool.false_ne_true

theorem sortedItems_withoutItems (vs : List Json) :
    sortedItems (withoutItems name vs) = vs.map fun v => (v.without name).sorted := by
  induction vs with
  | nil => rfl
  | cons v vs ih => rw [withoutItems, sortedItems, ih, List.map_cons]

theorem sorted_without_ofTexts (name : Text) (ts : List Text) :
    ((ofTexts ts).without name).sorted = ofTexts ts := by
  rw [ofTexts, without, sorted, sortedItems_withoutItems, List.map_map]
  exact congrArg array (List.map_congr_left fun t _ => by rw [Function.comp, without, sorted])

theorem ofTexts_inj {ts us : List Text} : ofTexts ts = ofTexts us ↔ ts = us := by
  rw [ofTexts, ofTexts, Json.array.injEq]
  exact List.map_inj_right fun _ _ h => Json.string.inj h

end Json

/-! ## 3. Contents -/

open Archive Json

theorem Archive.limitNode_inj {l m : Option Nat} : limitNode l = limitNode m ↔ l = m := by
  cases l with
  | none => cases m <;> simp [limitNode]
  | some l =>
    cases m with
    | none => simp [limitNode]
    | some m => rw [limitNode, limitNode, Json.int.injEq, Int.ofNat.injEq, Option.some_inj]

theorem Archive.sorted_without_limitNode (name : Text) (l : Option Nat) :
    ((limitNode l).without name).sorted = limitNode l := by
  cases l with
  | none => rfl
  | some n => rfl

mutual

/-- What the node of a kind says: its members in order, without identifiers. -/
def Kind.content : Kind → Json
  | .primitive p => .object [("type", .string "Primitive"), ("value", .string p.text)]
  | .geometry first more =>
    .object
      [("subtypes", Json.ofTexts ((first :: more).map Shape.text)), ("type", .string "Geometry")]
  | .record tables =>
    .object [("tables", Json.ofTexts (tables.map Table.name)), ("type", .string "Record")]
  | .option inner => .object [("inner", inner.content), ("type", .string "Option")]
  | .array inner limit =>
    .object [("inner", inner.content), ("limit", limitNode limit), ("type", .string "Array")]
  | .set inner limit =>
    .object [("inner", inner.content), ("limit", limitNode limit), ("type", .string "Set")]
  | .either first second more =>
    .object
      [("kinds", .array (first.content :: second.content :: contents more)),
       ("type", .string "Either")]

/-- What the nodes of kinds say. -/
def Kind.contents : List Kind → List Json
  | [] => []
  | k :: more => k.content :: contents more

end

/-- What the node of a parameter says. -/
def Parameter.content (p : Parameter) : Json :=
  .object [("kind", p.kind.content), ("name", .string p.ident.name)]

/-- What the node of a statement says. -/
def Statement.content (s : Statement) : Json :=
  .object
    [("comments", Json.ofTexts s.comments),
     ("parameters", .array (s.parameters.map Parameter.content)),
     ("path", Json.ofTexts s.path), ("type", .string "FunctionStatement")]

namespace Archive

/-- Whatever a node is sealed with, its identifier goes first. -/
theorem sorted_without_sealed :
    ((Archive.sealed ms).without idName).sorted =
      .object (sortedMembers (withoutMembers idName ms)) := by
  rw [Archive.sealed, without, withoutMembers_append, sorted, withoutMembers, if_pos rfl,
    withoutMembers, List.append_nil]

theorem sorted_without_pair (ha : a.toList ≠ "id".toList) (hb : b.toList ≠ "id".toList) :
    ((Archive.sealed [(Text.of a, v), (Text.of b, w)]).without idName).sorted =
      .object (insertSorted (Text.of a) (v.without idName).sorted
        [(Text.of b, (w.without idName).sorted)]) := by
  rw [sorted_without_sealed, idName, withoutMembers_of_ne ha, withoutMembers_of_ne hb]
  rw [withoutMembers, sortedMembers, sortedMembers, sortedMembers, insertSorted_nil]

/-- A type goes behind what comes before it in the alphabet. -/
theorem sorted_without_typed {type : Text} (hb : b.toList ≠ "id".toList)
    (h : Text.le "type".toList b.toList = false) :
    ((Archive.sealed [("type", .string type), (Text.of b, w)]).without idName).sorted =
      .object [(Text.of b, (w.without idName).sorted), ("type", .string type)] := by
  rw [sorted_without_pair (by decide) hb, insertSorted_behind h, insertSorted_nil, without,
    sorted]

theorem sorted_without_collection {type : Text} {limit : Option Nat} :
    ((Archive.sealed [("type", .string type), ("inner", v), ("limit", limitNode limit)]).without
      idName).sorted = .object [("inner", (v.without idName).sorted), ("limit", limitNode limit),
        ("type", .string type)] := by
  have hlimit := sorted_without_limitNode idName limit
  rw [sorted_without_sealed, idName] at *
  rw [withoutMembers_of_ne (by decide), withoutMembers_of_ne (by decide),
    withoutMembers_of_ne (by decide)]
  simp only [withoutMembers, sortedMembers, hlimit]
  rw [insertSorted_nil, insertSorted_front (by decide), insertSorted_behind (by decide),
    insertSorted_behind (by decide), insertSorted_nil, without, sorted]

end Archive

namespace Kind

mutual

/-- **Without identifiers and with sorted members, the node of a kind is its content.** -/
theorem sorted_without_node : (k : Kind) → (k.node.without idName).sorted = k.content
  | primitive p => by
    rw [node, sorted_without_pair (by decide) (by decide), insertSorted_front (by decide), content]
    simp only [without, sorted]
  | geometry first more => by
    rw [node, sorted_without_typed (by decide) (by decide), sorted_without_ofTexts, content]
  | record tables => by
    rw [node, sorted_without_typed (by decide) (by decide), sorted_without_ofTexts, content]
  | option inner => by
    rw [node, sorted_without_typed (by decide) (by decide), sorted_without_node inner, content]
  | array inner limit => by
    rw [node, sorted_without_collection, sorted_without_node inner, content]
  | set inner limit => by
    rw [node, sorted_without_collection, sorted_without_node inner, content]
  | either first second more => by
    rw [node, sorted_without_typed (by decide) (by decide), without, sorted,
      sortedItems_withoutItems, List.map_cons, List.map_cons, sorted_without_node first,
      sorted_without_node second, sorted_without_nodes more, content]

theorem sorted_without_nodes :
    (ks : List Kind) → (nodes ks).map (fun v => (v.without idName).sorted) = contents ks
  | [] => rfl
  | k :: more => by
    rw [nodes, List.map_cons, sorted_without_node k, sorted_without_nodes more, contents]

end

end Kind

theorem Parameter.sorted_without_node (p : Parameter) :
    (p.node.without idName).sorted = p.content := by
  rw [node, sorted_without_pair (by decide) (by decide), insertSorted_behind (by decide),
    insertSorted_nil, p.kind.sorted_without_node, content, without, sorted]

theorem Statement.sorted_without_node (s : Statement) :
    (s.node.without idName).sorted = s.content := by
  have hparameters : ((s.parameters.map Parameter.node).map fun v =>
      (v.without idName).sorted) = s.parameters.map Parameter.content := by
    rw [List.map_map]
    exact List.map_congr_left fun p _ => p.sorted_without_node
  have hpath := sorted_without_ofTexts idName s.path
  have hcomments := sorted_without_ofTexts idName s.comments
  rw [node, sorted_without_sealed, content, ← hparameters]
  rw [idName] at *
  repeat rw [withoutMembers_of_ne (by decide)]
  simp (disch := decide) only [withoutMembers, sortedMembers, hpath, hcomments, insertSorted_nil,
    insertSorted_front, insertSorted_behind]
  simp only [without, sorted, sortedItems_withoutItems]

/-! ## 4. Contents determine -/

theorem Primitive.text_inj {p q : Primitive} : p.text = q.text ↔ p = q := by
  refine ⟨fun h => ?_, fun h => congrArg Primitive.text h⟩
  have hp := Kind.Primitive.ofText?_eq_some_iff.mpr h
  rw [Kind.Primitive.ofText?_eq_some_iff.mpr rfl] at hp
  exact Option.some.inj hp

theorem Shape.text_inj {x y : Shape} : x.text = y.text ↔ x = y := by
  refine ⟨fun h => ?_, fun h => congrArg Shape.text h⟩
  have hx := Kind.Shape.ofText?_eq_some_iff.mpr h
  rw [Kind.Shape.ofText?_eq_some_iff.mpr rfl] at hx
  exact Option.some.inj hx

theorem Table.names_inj {as bs : List Table} : as.map Table.name = bs.map Table.name ↔ as = bs :=
  List.map_inj_right fun a b h => by
    cases a
    cases b
    exact congrArg Table.mk h

namespace Kind

mutual

/-- **Kinds with one content are equal.** -/
theorem content_inj : (k l : Kind) → k.content = l.content → k = l
  | primitive p, l, h => by
    cases l with
    | primitive q =>
      simp only [content, Json.object.injEq, List.cons.injEq, Prod.mk.injEq, true_and, and_true,
        Json.string.injEq, Primitive.text_inj] at h
      rw [h]
    -- Two forms of kinds differ in the word for the type or in the names of members.
    | _ => simp [content] at h
  | geometry first more, l, h => by
    cases l with
    | geometry first' more' =>
      simp only [content, Json.object.injEq, List.cons.injEq, Prod.mk.injEq, true_and, and_true,
        ofTexts_inj, List.map_cons, Shape.text_inj] at h
      rw [h.1, (List.map_inj_right fun _ _ => Shape.text_inj.mp).mp h.2]
    | _ => simp [content] at h
  | record tables, l, h => by
    cases l with
    | record tables' =>
      simp only [content, Json.object.injEq, List.cons.injEq, Prod.mk.injEq, true_and, and_true,
        ofTexts_inj, Table.names_inj] at h
      rw [h]
    | _ => simp [content] at h
  | option inner, l, h => by
    cases l with
    | option inner' =>
      simp only [content, Json.object.injEq, List.cons.injEq, Prod.mk.injEq, true_and,
        and_true] at h
      rw [content_inj inner inner' h]
    | _ => simp [content] at h
  | array inner limit, l, h => by
    cases l with
    | array inner' limit' =>
      simp only [content, Json.object.injEq, List.cons.injEq, Prod.mk.injEq, true_and, and_true,
        limitNode_inj] at h
      rw [content_inj inner inner' h.1, h.2]
    | _ => simp [content] at h
  | set inner limit, l, h => by
    cases l with
    | set inner' limit' =>
      simp only [content, Json.object.injEq, List.cons.injEq, Prod.mk.injEq, true_and, and_true,
        limitNode_inj] at h
      rw [content_inj inner inner' h.1, h.2]
    | _ => simp [content] at h
  | either first second more, l, h => by
    cases l with
    | either first' second' more' =>
      simp only [content, Json.object.injEq, List.cons.injEq, Prod.mk.injEq, true_and, and_true,
        Json.array.injEq] at h
      rw [content_inj first first' h.1, content_inj second second' h.2.1,
        contents_inj more more' h.2.2]
    | _ => simp [content] at h

theorem contents_inj : (ks ls : List Kind) → contents ks = contents ls → ks = ls
  | [], ls, h => by
    cases ls with
    | nil => rfl
    | cons l ls => simp [contents] at h
  | k :: ks, ls, h => by
    cases ls with
    | nil => simp [contents] at h
    | cons l ls =>
      simp only [contents, List.cons.injEq] at h
      rw [content_inj k l h.1, contents_inj ks ls h.2]

end

end Kind

theorem Parameter.content_inj {p q : Parameter} (h : p.content = q.content) : p = q := by
  obtain ⟨⟨name⟩, kind⟩ := p
  obtain ⟨⟨name'⟩, kind'⟩ := q
  simp only [content, Json.object.injEq, List.cons.injEq, Prod.mk.injEq, true_and, and_true,
    Json.string.injEq] at h
  rw [Kind.content_inj kind kind' h.1, h.2]

theorem Statement.content_inj {s t : Statement} (h : s.content = t.content) : s = t := by
  obtain ⟨scope, name, parameters, comments⟩ := s
  obtain ⟨scope', name', parameters', comments'⟩ := t
  simp only [content, path, Json.object.injEq, List.cons.injEq, Prod.mk.injEq, true_and, and_true,
    Json.array.injEq, ofTexts_inj] at h
  obtain ⟨hcomments, hparameters, hpath⟩ := h
  obtain ⟨hscope, hname⟩ := List.append_inj' hpath rfl
  rw [hcomments, hscope, List.singleton_inj.mp hname,
    (List.map_inj_right fun _ _ => Parameter.content_inj).mp hparameters]

/-! ## 5. Things with a node -/

namespace Archive

/-- What has a node of its own in an archive. -/
inductive Item where
  | statement (s : Statement)
  | parameter (p : Parameter)
  | kind (k : Kind)

namespace Item

/-- The node of an item. -/
def node : Item → Json
  | statement s => s.node
  | parameter p => p.node
  | kind k => k.node

/-- Whether all bounds in an item are short enough to be read. -/
def Bounded : Item → Prop
  | statement s => s.Bounded
  | parameter p => p.kind.Bounded
  | kind k => k.Bounded

/-- What the node of an item says. -/
def content : Item → Json
  | statement s => s.content
  | parameter p => p.content
  | kind k => k.content

/-- The identifier in the node of an item. -/
def id? (a : Item) : Option Json :=
  match a.node with
  | .object members => Json.find? idName members
  | _ => none

variable {a b : Item}

theorem plain_node (h : a.Bounded) : a.node.Plain := by
  cases a with
  | statement s => exact Statement.plain_node h
  | parameter p => exact Parameter.plain_node h
  | kind k => exact k.plain_node h

theorem sorted_without_node (a : Item) : (a.node.without idName).sorted = a.content := by
  cases a with
  | statement s => exact s.sorted_without_node
  | parameter p => exact p.sorted_without_node
  | kind k => exact k.sorted_without_node

theorem content_inj : a.content = b.content ↔ a = b := by
  refine ⟨fun h => ?_, fun h => congrArg content h⟩
  cases a with
  | statement s =>
    cases b with
    | statement t => exact congrArg statement (Statement.content_inj h)
    | parameter p => simp [content, Statement.content, Parameter.content] at h
    | kind k => cases k <;> simp [content, Statement.content, Kind.content] at h
  | parameter p =>
    cases b with
    | statement s => simp [content, Statement.content, Parameter.content] at h
    | parameter q => exact congrArg parameter (Parameter.content_inj h)
    | kind k => cases k <;> simp [content, Parameter.content, Kind.content] at h
  | kind k =>
    cases b with
    | statement s => cases k <;> simp [content, Statement.content, Kind.content] at h
    | parameter p => cases k <;> simp [content, Parameter.content, Kind.content] at h
    | kind l => exact congrArg kind (Kind.content_inj k l h)

/-- Every item is sealed. -/
theorem exists_sealed (a : Item) :
    ∃ ms, a.node = Archive.sealed ms ∧ idName ∉ ms.map Prod.fst := by
  cases a with
  | statement s => exact ⟨_, rfl, by simp [idName]⟩
  | parameter p => exact ⟨_, rfl, by simp [idName]⟩
  | kind k =>
    cases k
    all_goals exact ⟨_, by rw [node, Kind.node], by simp [idName]⟩

theorem id?_eq (a : Item) : a.id? = some (.string (identifier (preimage a.node))) := by
  obtain ⟨ms, hnode, hid⟩ := exists_sealed a
  have hpreimage : preimage a.node = preimage (.object ms) := by
    rw [hnode]
    exact preimage_append_id
  rw [id?, hpreimage, hnode, Archive.sealed]
  simp only [find?_append hid, find?_head]

end Item

/-! ## 6. Preimages and digests -/

/-- **A preimage holds all of a plain node but its identifiers and the order of its members.** -/
theorem preimage_eq_iff (hv : v.Plain) (hw : w.Plain) : preimage v = preimage w ↔
    (v.without idName).sorted = (w.without idName).sorted := by
  have hv' := plain_sorted _ (plain_without idName v hv)
  have hw' := plain_sorted _ (plain_without idName w hw)
  exact ⟨compact_inj hv' hw', fun h => congrArg (compact false) h⟩

/-- The digest of a message in hexadecimal digits. -/
def hexDigest (message : List UInt8) : Text :=
  (Sha256.digest message).flatMap fun b => Text.hex 2 b.toNat

/-- Two different messages whose digests begin with the same sixteen digits. -/
def Collide (m n : List UInt8) : Prop :=
  m ≠ n ∧ (hexDigest m).take 16 = (hexDigest n).take 16

theorem length_hex (b : UInt8) : (Text.hex 2 b.toNat).length = 2 := by
  have hlength : (Nat.toDigits 16 b.toNat).length ≤ 2 := by
    rw [Nat.length_toDigits_le_iff (by decide) (by decide)]
    exact UInt8.toNat_lt b
  rw [Text.hex, Text.zeroFilled, List.length_append, List.length_replicate]
  omega

/-- An identifier is the first sixteen digits of the digest. -/
theorem identifier_eq (t : Text) : identifier t = (hexDigest (Utf8.encode t)).take 16 := by
  have htake : ∀ (l : List UInt8) (k : Nat), (l.take k).flatMap (fun b => Text.hex 2 b.toNat) =
      (l.flatMap fun b => Text.hex 2 b.toNat).take (2 * k) := by
    intro l
    induction l with
    | nil => simp
    | cons b l ih =>
      intro k
      cases k with
      | zero => rfl
      | succ k =>
        have hwidth : 2 * (k + 1) = (Text.hex 2 b.toNat).length + 2 * k := by
          rw [length_hex]
          omega
        rw [List.take_succ_cons, List.flatMap_cons, List.flatMap_cons, ih, hwidth,
          List.take_length_add_append]
  exact htake _ 8

namespace Item

variable {a b : Item}

/-- **Archives are addressed by content.**  Items, of one type or of two, have one preimage only if
they are equal; so taking out the identifiers, at every depth, loses nothing of them; and each
identifier is the first sixteen digits of the digest of the preimage, so that items share one only
if they are equal or their preimages collide. -/
theorem addressed (ha : a.Bounded) (hb : b.Bounded) :
    (preimage a.node = preimage b.node ↔ a = b) ∧
    (a.node.without idName = b.node.without idName ↔ a = b) ∧
    a.id? = some (.string ((hexDigest (Utf8.encode (preimage a.node))).take 16)) ∧
    (a.id? = b.id? ↔ a = b ∨
      Collide (Utf8.encode (preimage a.node)) (Utf8.encode (preimage b.node))) := by
  have hpreimage : preimage a.node = preimage b.node ↔ a = b := by
    rw [preimage_eq_iff (plain_node ha) (plain_node hb), sorted_without_node, sorted_without_node,
      content_inj]
  have hwithout : a.node.without idName = b.node.without idName ↔ a = b := by
    refine ⟨fun h => ?_, fun h => by rw [h]⟩
    rw [← content_inj, ← sorted_without_node, h, sorted_without_node]
  refine ⟨hpreimage, hwithout, by rw [id?_eq, identifier_eq], ?_⟩
  rw [id?_eq, id?_eq, Option.some_inj, Json.string.injEq, identifier_eq, identifier_eq]
  constructor
  · intro h
    by_cases hab : a = b
    · exact .inl hab
    · exact .inr ⟨fun he => hab (hpreimage.mp (Utf8.encode_inj.mp he)), h⟩
  · rintro (rfl | ⟨-, h⟩)
    · rfl
    · exact h

/-- An array of records with a bound of as many digits as can be read, and a table whose name looks
like a member of a node. -/
def longArray : Item :=
  .kind (.array (.record [⟨"\",\"id\":\"\x00é"⟩]) (some (Nat.pow 10 4299)))

/-- The set that differs from it in nothing else. -/
def longSet : Item :=
  .kind (.set (.record [⟨"\",\"id\":\"\x00é"⟩]) (some (Nat.pow 10 4299)))

/-- They have different addresses, unless their preimages collide. -/
theorem addressed_long : longArray.Bounded ∧ longSet.Bounded ∧
    (preimage longArray.node = preimage longSet.node ↔ longArray = longSet) ∧
    (longArray.node.without idName = longSet.node.without idName ↔ longArray = longSet) ∧
    longArray.id? =
      some (.string ((hexDigest (Utf8.encode (preimage longArray.node))).take 16)) ∧
    (longArray.id? = longSet.id? ↔ longArray = longSet ∨
      Collide (Utf8.encode (preimage longArray.node))
        (Utf8.encode (preimage longSet.node))) := by
  have hdigits : (Text.ofNat (Nat.pow 10 4299)).length ≤ digitLimit := by decide +kernel
  have hbound : Kind.IsBound (some (Nat.pow 10 4299)) := by
    intro n hn
    rwa [← Option.mem_some.mp hn]
  have harray : longArray.Bounded := ⟨trivial, hbound⟩
  have hset : longSet.Bounded := ⟨trivial, hbound⟩
  exact ⟨harray, hset, addressed harray hset⟩

end Item

end Archive

end StoredFunctions
