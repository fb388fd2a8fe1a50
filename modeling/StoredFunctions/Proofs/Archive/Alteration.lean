/-
# Altered identifiers

No identifier counts for the identifier of another node: the preimage leaves out those of the
nodes inside as well.  So when nothing but identifiers of an archive was altered, every node has
the preimage that it had, and a node whose identifier was altered is noticed only where the reader
comes to that very node.

It comes to all of them (`read_altered`): the archive is read as before if every node still has
its identifier, and refused for a missing or a wrong one if not.  An outcome that is decided in
this way `Vets` its nodes.  That is preserved by whatever is read one after the other, so the
induction follows the kinds, and nothing is assumed of the digest.
-/
import StoredFunctions.Proofs.Archive.Dispatch

namespace StoredFunctions

open Json

namespace Archive

variable {α β : Type} {ms ns : List (Text × Json)} {vs ws : List Json} {v w : Json} {name : Text}

/-! ## 1. The identifiers of a value -/

mutual

/-- What the nodes of a value have for identifiers, that of a node before those of the nodes
inside of it. -/
def ids : Json → List (Option Json)
  | .array items => idsOfItems items
  | .object members => find? idName members :: idsOfMembers members
  | .torn v => ids v
  | .null | .bool _ | .int _ | .float _ | .string _ => []

/-- The identifiers in the items of a list. -/
def idsOfItems : List Json → List (Option Json)
  | [] => []
  | v :: more => ids v ++ idsOfItems more

/-- The identifiers in the members of a node, its own one apart. -/
def idsOfMembers : List (Text × Json) → List (Option Json)
  | [] => []
  | (name, v) :: more => if name = idName then idsOfMembers more else ids v ++ idsOfMembers more

end

mutual

/-- A value has as many nodes as before when identifiers are left out. -/
theorem length_ids_without : (v : Json) → (ids (v.without idName)).length = (ids v).length
  | .array items => length_idsOfItems_without items
  | .object members => by
    rw [without, ids, ids, List.length_cons, List.length_cons, length_idsOfMembers_without members]
  | .torn v => length_ids_without v
  | .null | .bool _ | .int _ | .float _ | .string _ => rfl

theorem length_idsOfItems_without : (vs : List Json) →
    (idsOfItems (withoutItems idName vs)).length = (idsOfItems vs).length
  | [] => rfl
  | v :: more => by
    rw [withoutItems, idsOfItems, idsOfItems, List.length_append, List.length_append,
      length_ids_without v, length_idsOfItems_without more]

theorem length_idsOfMembers_without : (ms : List (Text × Json)) →
    (idsOfMembers (withoutMembers idName ms)).length = (idsOfMembers ms).length
  | [] => rfl
  | (name, v) :: more => by
    have ih := length_idsOfMembers_without more
    by_cases hname : name = idName
    · rw [withoutMembers, if_pos hname, ih, idsOfMembers, if_pos hname]
    · rw [withoutMembers, if_neg hname, idsOfMembers, if_neg hname, idsOfMembers, if_neg hname,
        List.length_append, List.length_append, length_ids_without v, ih]

end

/-- Identifiers in a list are compared value by value. -/
theorem ids_append_inj {x y : List (Option Json)} (h : v.without idName = w.without idName) :
    ids v ++ x = ids w ++ y ↔ ids v = ids w ∧ x = y := by
  have hlength : (ids v).length = (ids w).length := by
    rw [← length_ids_without v, h, length_ids_without w]
  exact ⟨fun heq => List.append_inj heq hlength, fun ⟨hv, hx⟩ => by rw [hv, hx]⟩

mutual

/-- A value without nodes is not altered by leaving out identifiers. -/
theorem without_of_ids : (v : Json) → ids v = [] → v.without idName = v
  | .array items, h => congrArg Json.array (withoutItems_of_ids items h)
  | .object members, h => absurd h (by simp [ids])
  | .torn v, h => congrArg Json.torn (without_of_ids v h)
  | .null, _ | .bool _, _ | .int _, _ | .float _, _ | .string _, _ => rfl

theorem withoutItems_of_ids : (vs : List Json) → idsOfItems vs = [] → withoutItems idName vs = vs
  | [], _ => rfl
  | v :: more, h => by
    rw [idsOfItems, List.append_eq_nil_iff] at h
    rw [withoutItems, without_of_ids v h.1, withoutItems_of_ids more h.2]

end

/-- Values without nodes that are the same but for identifiers are the same. -/
theorem eq_of_without_eq (h : v.without idName = w.without idName) (hw : ids w = []) : v = w := by
  have hv : ids v = [] := by
    rw [← List.length_eq_zero_iff, ← length_ids_without v, h, length_ids_without w, hw]
    rfl
  rw [← without_of_ids v hv, h, without_of_ids w hw]

theorem ids_ofTexts (ts : List Text) : ids (ofTexts ts) = [] := by
  rw [ofTexts, ids]
  induction ts with
  | nil => rfl
  | cons t ts ih => rw [List.map_cons, idsOfItems, ih, ids, List.append_nil]

theorem ids_limitNode (limit : Option Nat) : ids (limitNode limit) = [] := by
  cases limit <;> rfl

/-! ## 2. Members beside the identifier -/

/-- The members of a node beside its identifier. -/
def others (ms : List (Text × Json)) : List (Text × Json) := ms.filter fun m => m.1 ≠ idName

theorem others_cons_id : others ((idName, v) :: ms) = others ms :=
  List.filter_cons_of_neg (by simp)

theorem others_cons (h : name ≠ idName) : others ((name, v) :: ms) = (name, v) :: others ms :=
  List.filter_cons_of_pos (by simpa using h)

/-- Members are taken one after the other, and each is an identifier or another one. -/
@[elab_as_elim] theorem members_induction {motive : List (Text × Json) → Prop} (nil : motive [])
    (identifier : ∀ v ms, motive ms → motive ((idName, v) :: ms))
    (another : ∀ name v ms, name ≠ idName → motive ms → motive ((name, v) :: ms)) (ms) :
    motive ms := by
  induction ms with
  | nil => exact nil
  | cons m ms ih =>
    obtain ⟨name, v⟩ := m
    by_cases hname : name = idName
    · exact hname ▸ identifier v ms ih
    · exact another name v ms hname ih

theorem find?_others (h : name ≠ idName) : find? name (others ms) = find? name ms := by
  induction ms using members_induction with
  | nil => rfl
  | identifier v ms ih => rw [others_cons_id, find?_tail h.symm, ih]
  | another k v ms hk ih =>
    rw [others_cons hk]
    by_cases hname : k = name
    · rw [hname, find?_head, find?_head]
    · rw [find?_tail hname, find?_tail hname, ih]

theorem idsOfMembers_others (ms : List (Text × Json)) :
    idsOfMembers (others ms) = idsOfMembers ms := by
  induction ms using members_induction with
  | nil => rfl
  | identifier v ms ih => rw [others_cons_id, ih, idsOfMembers, if_pos rfl]
  | another k v ms hk ih =>
    rw [others_cons hk, idsOfMembers, if_neg hk, ih, idsOfMembers, if_neg hk]

theorem withoutMembers_eq_map (ms : List (Text × Json)) :
    withoutMembers idName ms = (others ms).map fun m => (m.1, m.2.without idName) := by
  induction ms using members_induction with
  | nil => rfl
  | identifier v ms ih => rw [others_cons_id, withoutMembers, if_pos rfl, ih]
  | another k v ms hk ih => rw [others_cons hk, withoutMembers, if_neg hk, ih, List.map_cons]

theorem others_of_not_mem (h : idName ∉ ms.map Prod.fst) : others ms = ms := by
  refine List.filter_eq_self.mpr fun m hm => ?_
  simpa using fun hname => h (List.mem_map.mpr ⟨m, hm, hname⟩)

theorem others_append_id (h : idName ∉ ms.map Prod.fst) :
    others (ms ++ [(idName, v)]) = ms := by
  have hid : others [(idName, v)] = [] := others_cons_id
  rw [others, List.filter_append, ← others, ← others, others_of_not_mem h, hid, List.append_nil]

/-- Members with the same names in the same order, and with values that are the same but for
identifiers. -/
def Agree (ns ms : List (Text × Json)) : Prop :=
  ns.map (fun m => (m.1, m.2.without idName)) = ms.map fun m => (m.1, m.2.without idName)

theorem agree_nil_iff : Agree ns [] ↔ ns = [] := by simp [Agree]

theorem agree_cons_iff : Agree ns ((name, w) :: ms) ↔
    ∃ v more, ns = (name, v) :: more ∧ v.without idName = w.without idName ∧ Agree more ms := by
  constructor
  · intro h
    obtain ⟨⟨k, v⟩, more, rfl, hm, hmore⟩ := List.map_eq_cons_iff.mp h
    obtain ⟨rfl, hv⟩ := Prod.mk.inj hm
    exact ⟨v, more, rfl, hv, hmore⟩
  · rintro ⟨v, more, rfl, hv, hmore⟩
    rw [Agree, List.map_cons, List.map_cons, hv, hmore]

/-- A member without nodes in it is not altered. -/
theorem Agree.leaf (h : Agree ns ((name, w) :: ms)) (hw : ids w = []) :
    ∃ more, ns = (name, w) :: more ∧ Agree more ms := by
  obtain ⟨v, more, rfl, hv, hmore⟩ := agree_cons_iff.mp h
  obtain rfl := eq_of_without_eq hv hw
  exact ⟨more, rfl, hmore⟩

/-! ## 3. Outcomes that vet -/

/-- `Vets right r a`: the outcome `r` is `a` if everything is right, and an error about an
identifier if not. -/
structure Vets (right : Prop) (r : Read α) (a : α) : Prop where
  ok : right → r = .ok a
  refused : ¬ right → r = .error .missingId ∨ r = .error .wrongId

namespace Vets

variable {P Q : Prop} {r : Read α} {a : α} {b : β} {f : α → Read β}

theorem of_ok (hr : r = .ok a) (h : P) : Vets P r a :=
  ⟨fun _ => hr, fun hP => absurd h hP⟩

theorem congr (h : Vets P r a) (hPQ : P ↔ Q) : Vets Q r a :=
  ⟨fun hQ => h.ok (hPQ.mpr hQ), fun hQ => h.refused fun hP => hQ (hPQ.mp hP)⟩

/-- **What vets one after the other vets together.** -/
theorem bind (h : Vets P r a) (hf : Vets Q (f a) b) : Vets (P ∧ Q) (r >>= f) b where
  ok := by
    rintro ⟨hP, hQ⟩
    rw [h.ok hP, except_ok_bind, hf.ok hQ]
  refused := by
    intro hPQ
    by_cases hP : P
    · rw [h.ok hP, except_ok_bind]
      exact hf.refused fun hQ => hPQ ⟨hP, hQ⟩
    · rcases h.refused hP with hr | hr
      · exact .inl (by rw [hr]; rfl)
      · exact .inr (by rw [hr]; rfl)

theorem bind_ok (h : Vets P r a) (hf : f a = .ok b) : Vets P (r >>= f) b :=
  (h.bind (of_ok hf trivial)).congr (and_iff_left trivial)

/-- A list vets all identifiers in it if its elements do. -/
theorem mapM {f : Json → Read β} {node : α → Json} {entry : α → β} :
    ∀ {as : List α} {vs : List Json}, (∀ a ∈ as, ∀ v, v.without idName = (node a).without idName →
      Vets (ids v = ids (node a)) (f v) (entry a)) →
    withoutItems idName vs = withoutItems idName (as.map node) →
    Vets (idsOfItems vs = idsOfItems (as.map node)) (vs.mapM f) (as.map entry)
  | [], [], _, _ => of_ok rfl rfl
  | [], v :: vs, _, h => absurd h (by simp [withoutItems])
  | a :: as, [], _, h => absurd h (by simp [withoutItems])
  | a :: as, v :: vs, hf, h => by
    obtain ⟨ha, has⟩ := List.forall_mem_cons.mp hf
    obtain ⟨hv, hvs⟩ := List.cons.inj h
    rw [List.mapM_cons, List.map_cons, List.map_cons]
    refine ((ha v hv).bind (b := entry a :: as.map entry) ?_).congr (ids_append_inj hv).symm
    exact (mapM has hvs).bind_ok rfl

end Vets

/-! ## 4. Altered nodes -/

theorem without_sealed (hid : idName ∉ ms.map Prod.fst) :
    (Archive.sealed ms).without idName =
      .object (ms.map fun m => (m.1, m.2.without idName)) := by
  rw [Archive.sealed, without, withoutMembers_eq_map, others_append_id hid]

theorem ids_sealed (hid : idName ∉ ms.map Prod.fst) : ids (Archive.sealed ms) =
    some (.string (identifier (preimage (.object ms)))) :: idsOfMembers ms := by
  rw [Archive.sealed, ids, find?_append hid, find?_head, ← idsOfMembers_others,
    others_append_id hid]

/-- A value that is a sealed node but for identifiers is a node, with members that agree. -/
theorem exists_agree (hid : idName ∉ ms.map Prod.fst)
    (h : v.without idName = (Archive.sealed ms).without idName) :
    ∃ ns, v = .object ns ∧ Agree (others ns) ms := by
  rw [without_sealed hid] at h
  cases v with
  | object ns =>
    rw [without, withoutMembers_eq_map] at h
    exact ⟨ns, rfl, Json.object.inj h⟩
  | _ => exact absurd h (by simp [without])

/-- Members that agree have the same preimage, so that a node is vetted against the identifier that
it was sealed with. -/
theorem vets_verified (hid : idName ∉ ms.map Prod.fst) (hwhole : haveTorn ms = false)
    (h : Agree (others ns) ms) :
    Vets (find? idName ns = some (.string (identifier (preimage (.object ms)))))
      (verified (.object ns)) ns := by
  have hcontent : (Json.object ns).without idName = (Json.object ms).without idName := by
    rw [without, without, withoutMembers_eq_map, withoutMembers_eq_map, others_of_not_mem hid, h]
  have hpreimage : preimage (.object ns) = preimage (.object ms) := by
    rw [preimage, hcontent, preimage]
  have htorn : ((Json.object ns).without idName).isTorn = false := by
    rw [hcontent]
    exact isTorn_without idName _ hwhole
  rw [verified, members?]
  simp only [htorn, hpreimage, memberOr, Bool.false_eq_true, if_false]
  cases find? idName ns with
  | none => exact ⟨fun hright => absurd hright (by simp), fun _ => .inl rfl⟩
  | some w =>
    cases w with
    | null => exact ⟨fun hright => absurd hright (by simp), fun _ => .inl rfl⟩
    | string t =>
      by_cases ht : t = identifier (preimage (.object ms))
      · exact .of_ok (if_pos (isString_iff.mpr (congrArg _ ht))) (by rw [ht])
      · exact ⟨fun hright => absurd hright (by simpa using ht), fun _ => .inr (if_neg (by
          simpa [isString] using ht))⟩
    | _ => exact ⟨fun hright => absurd hright (by simp), fun _ => .inr rfl⟩

/-- **A node vets its identifier and those inside of it**, if what is read of its members vets
these. -/
theorem vets_node {f : List (Text × Json) → Read α} {a : α} (hid : idName ∉ ms.map Prod.fst)
    (hwhole : haveTorn ms = false) (h : v.without idName = (Archive.sealed ms).without idName)
    (hf : ∀ ns, Agree (others ns) ms →
      Vets (idsOfMembers (others ns) = idsOfMembers ms) (f ns) a) :
    Vets (ids v = ids (Archive.sealed ms)) (verified v >>= f) a := by
  obtain ⟨ns, rfl, hagree⟩ := exists_agree hid h
  refine ((vets_verified hid hwhole hagree).bind (hf ns hagree)).congr ?_
  rw [ids_sealed hid, ids, List.cons.injEq, idsOfMembers_others]

/-! ## 5. What is written into a node -/

theorem items_ofTexts (ts : List Text) : items (ofTexts ts) = .ok (ts.map .string) := rfl

theorem items_array (vs : List Json) : items (.array vs) = .ok vs := rfl

theorem limit_limitNode (l : Option Nat) : limit (limitNode l) = .ok (l.map Limit.number) := by
  cases l with
  | none => rfl
  | some n => rfl

theorem ofShapes_texts (first : Shape) (more : List Shape) :
    Kind.ofShapes ((((first :: more).map Shape.text).map Json.string).map shape) =
      .ok (.geometry first more) := by
  have hshape : ∀ s : Shape, shape (.string s.text) = (some s, s.text.quoted) := by
    intro s
    rw [shape, Kind.Shape.ofText?_eq_some_iff.mpr rfl]
  unfold Kind.ofShapes
  rw [List.map_map, List.map_map, List.mapM_map, mapM_of_ok (g := id), List.map_id]
  · rfl
  · intro s
    simp [hshape]

theorem without_array {us : List Json} (h : v.without idName = (Json.array us).without idName) :
    ∃ vs, v = .array vs ∧ withoutItems idName vs = withoutItems idName us := by
  cases v with
  | array vs => exact ⟨vs, rfl, Json.array.inj h⟩
  | _ => exact absurd h (by simp [without])

/-- What a kind node has behind the member that its type needs: a limit, or nothing. -/
def LimitPart (limit : List (Text × Json)) : Prop :=
  limit = [] ∨ ∃ l, limit = [(Text.of "limit", limitNode l)]

theorem limitPart_nil : LimitPart [] := .inl rfl

theorem limitPart_limitNode (l : Option Nat) : LimitPart [("limit", limitNode l)] := .inr ⟨l, rfl⟩

theorem LimitPart.idsOfMembers_eq (h : LimitPart ms) : idsOfMembers ms = [] := by
  rcases h with rfl | ⟨l, rfl⟩
  · rfl
  · simp [idsOfMembers, ids_limitNode]

theorem LimitPart.haveTorn_eq (h : LimitPart ms) : haveTorn ms = false := by
  rcases h with rfl | ⟨l, rfl⟩
  · rfl
  · simp [haveTorn, isTorn_limitNode]

theorem LimitPart.eq_of_agree (h : LimitPart ms) (hns : Agree ns ms) : ns = ms := by
  rcases h with rfl | ⟨l, rfl⟩
  · exact agree_nil_iff.mp hns
  · obtain ⟨more, rfl, hnil⟩ := hns.leaf (ids_limitNode l)
    rw [agree_nil_iff.mp hnil]

theorem memberOr_limitNode {d : Json} (l : Option Nat) :
    memberOr "limit" d [("limit", limitNode l)] = limitNode l := by
  rw [memberOr, find?_head, Option.getD_some]

/-! ## 6. Kinds -/

/-- The names of the members of a kind node are different from one another. -/
theorem NodeType.needs_ne (type : NodeType) :
    type.needs ≠ idName ∧ type.needs ≠ "type" ∧ type.needs ≠ "limit" := by
  cases type <;> simp [idName, needs]

/-- **A kind vets the identifiers in it** if the value that its type needs is made into the kind in
such a way. -/
theorem vets_kindNode (type : NodeType) {limit : List (Text × Json)} {e : KindEntry}
    (hlimit : LimitPart limit) (hw : w.isTorn = false)
    (h : v.without idName =
      (Archive.sealed (("type", .string type.text) :: (type.needs, w) :: limit)).without idName)
    (hmake : ∀ u ns, u.without idName = w.without idName →
      memberOr "limit" .null ns = memberOr "limit" .null limit →
        Vets (ids u = ids w) (type.make kindAt ns u) e) :
    Vets (ids v = ids (Archive.sealed (("type", .string type.text) :: (type.needs, w) :: limit)))
      (kindAt v) e := by
  obtain ⟨hneedsId, hneedsType, hneedsLimit⟩ := type.needs_ne
  have htypeId : Text.of "type" ≠ idName := by simp [idName]
  have hlimitId : Text.of "limit" ≠ idName := by simp [idName]
  have hid : idName ∉ ((Text.of "type", Json.string type.text) :: (type.needs, w) :: limit).map
      Prod.fst := by
    rcases hlimit with rfl | ⟨l, rfl⟩ <;>
      simp [htypeId.symm, hneedsId.symm, hlimitId.symm]
  have hwhole : haveTorn ((Text.of "type", Json.string type.text) :: (type.needs, w) :: limit) =
      false := by
    simp [haveTorn, isTorn, hw, hlimit.haveTorn_eq]
  rw [kindAt_eq]
  refine vets_node hid hwhole h ?_
  intro ns hns
  obtain ⟨_, hothers, hneeded⟩ := hns.leaf rfl
  obtain ⟨u, more, rfl, hu, hmore⟩ := agree_cons_iff.mp hneeded
  obtain rfl := hlimit.eq_of_agree hmore
  have htype : typeOf? ns = some type :=
    typeOf?_of_find? (by rw [← find?_others htypeId, hothers, find?_head])
  have hmember : member type.needs ns = .ok u := by
    rw [member, ← find?_others hneedsId, hothers, find?_tail hneedsType.symm, find?_head]
  have hbehind : memberOr "limit" .null ns = memberOr "limit" .null more := by
    rw [memberOr, ← find?_others hlimitId, hothers, find?_tail (by simp), find?_tail hneedsLimit,
      memberOr]
  rw [contents, htype, hothers]
  simp only [hmember, except_ok_bind]
  refine (hmake u ns hu hbehind).congr ?_
  simp [idsOfMembers, ids, hlimit.idsOfMembers_eq, hneedsId]

/-- A value without nodes has nothing to be vetted. -/
theorem vets_leaf {type : NodeType} {u : Json} {e : KindEntry} (hw : ids w = [])
    (hmake : type.make kindAt ns w = .ok e) (h : u.without idName = w.without idName) :
    Vets (ids u = ids w) (type.make kindAt ns u) e := by
  obtain rfl := eq_of_without_eq h hw
  exact .of_ok hmake rfl

theorem vets_collection {former : KindEntry → Option Limit → KindEntry} {u : Json} {P : Prop}
    {e : KindEntry} {l : Option Nat} (h : Vets P (kindAt u) e)
    (hlimit : memberOr "limit" .null ns = memberOr "limit" .null [("limit", limitNode l)]) :
    Vets P (do
      let element ← kindAt u
      pure (former element (← limit (memberOr "limit" .null ns))))
      (former e (l.map Limit.number)) := by
  refine h.bind_ok ?_
  rw [hlimit, memberOr_limitNode, limit_limitNode]
  rfl

theorem nodes_eq_map (ks : List Kind) : Kind.nodes ks = ks.map Kind.node := by
  induction ks with
  | nil => rfl
  | cons k ks ih => rw [Kind.nodes, ih, List.map_cons]

theorem entries_eq_map (ks : List Kind) : Kind.entries ks = ks.map Kind.entry := by
  induction ks with
  | nil => rfl
  | cons k ks ih => rw [Kind.entries, ih, List.map_cons]

mutual

/-- **The kind of a node vets all identifiers in it.** -/
theorem vets_kind : (k : Kind) → ∀ v, v.without idName = k.node.without idName →
    Vets (ids v = ids k.node) (kindAt v) k.entry
  | .primitive p, v, h => vets_kindNode .primitive limitPart_nil rfl h fun u ns hu _ => by
    have hword : Primitive.ofText? p.text = some p := Kind.Primitive.ofText?_eq_some_iff.mpr rfl
    refine vets_leaf rfl ?_ hu
    simp [NodeType.make, keyword, Kind.ofKeyword, hword, built]
  | .geometry first more, v, h =>
    vets_kindNode .geometry limitPart_nil (isTorn_ofTexts _) h fun u ns hu _ => by
      refine vets_leaf (ids_ofTexts _) ?_ hu
      simp only [NodeType.make, items_ofTexts, except_ok_bind, ofShapes_texts, built]
  | .record tables, v, h =>
    vets_kindNode .record limitPart_nil (isTorn_ofTexts _) h fun u ns hu _ => by
      refine vets_leaf (ids_ofTexts _) ?_ hu
      simp only [NodeType.make, items_ofTexts, except_ok_bind, List.map_map]
      rfl
  | .option inner, v, h => vets_kindNode .option limitPart_nil inner.isTorn_node h fun u ns hu _ =>
    (vets_kind inner u hu).bind_ok rfl
  | .array inner limit, v, h =>
    vets_kindNode .array (limitPart_limitNode limit) inner.isTorn_node h fun u ns hu hlimit =>
      vets_collection (vets_kind inner u hu) hlimit
  | .set inner limit, v, h =>
    vets_kindNode .set (limitPart_limitNode limit) inner.isTorn_node h fun u ns hu hlimit =>
      vets_collection (vets_kind inner u hu) hlimit
  | .either first second more, v, h =>
    vets_kindNode .either limitPart_nil (Kind.areTorn_nodes (first :: second :: more)) h
        fun u ns hu _ => by
      have hmembers := List.forall_mem_cons.mpr
        ⟨vets_kind first, List.forall_mem_cons.mpr ⟨vets_kind second, vets_kinds more⟩⟩
      rw [nodes_eq_map, ← List.map_cons, ← List.map_cons] at hu ⊢
      obtain ⟨us, rfl, hus⟩ := without_array hu
      simp only [NodeType.make, items_array, except_ok_bind, ids]
      refine (Vets.mapM hmembers hus).bind_ok ?_
      rw [Kind.entry, entries_eq_map]
      rfl

theorem vets_kinds : (ks : List Kind) → ∀ k ∈ ks, ∀ v, v.without idName = k.node.without idName →
    Vets (ids v = ids k.node) (kindAt v) k.entry
  | [] => by simp
  | k :: more => List.forall_mem_cons.mpr ⟨vets_kind k, vets_kinds more⟩

end

/-! ## 7. Statements -/

theorem vets_parameter (p : Parameter) (h : v.without idName = p.node.without idName) :
    Vets (ids v = ids p.node) (readParameter v) p.entry := by
  have hwhole : haveTorn [("name", .string p.ident.name), ("kind", p.kind.node)] = false := by
    simp [haveTorn, isTorn, p.kind.isTorn_node]
  refine vets_node (by simp [idName]) hwhole h ?_
  intro ns hns
  obtain ⟨_, hothers, hafterName⟩ := hns.leaf rfl
  obtain ⟨u, _, rfl, hu, hnil⟩ := agree_cons_iff.mp hafterName
  obtain rfl := agree_nil_iff.mp hnil
  have hname : member "name" ns = .ok (.string p.ident.name) := by
    rw [member, ← find?_others (by simp [idName]), hothers, find?_head]
  have hkind : member "kind" ns = .ok u := by
    rw [member, ← find?_others (by simp [idName]), hothers, find?_tail (by simp), find?_head]
  simp only [hname, hkind, except_ok_bind]
  refine ((vets_kind p.kind u hu).bind_ok (b := p.entry) ?_).congr ?_
  · rfl
  · simp [hothers, idsOfMembers, ids, idName]

theorem ofPath?_path (s : Statement) (parameters : List ParameterEntry) (comments : List Json) :
    StatementEntry.ofPath? (s.path.map .string) parameters comments =
      some ⟨s.scope.map .string, .string s.name, parameters, comments⟩ := by
  simp [StatementEntry.ofPath?, Statement.path]

theorem vets_statement (s : Statement) (h : v.without idName = s.node.without idName) :
    Vets (ids v = ids s.node) (readStatement v) s.entry := by
  have hid : idName ∉ [(Text.of "type", Json.string "FunctionStatement"),
      (Text.of "path", ofTexts s.path), (Text.of "comments", ofTexts s.comments),
      (Text.of "parameters", .array (s.parameters.map Parameter.node))].map Prod.fst := by
    simp [idName]
  obtain ⟨all, rfl, -⟩ := exists_agree hid h
  rw [readStatement, members?]
  refine vets_node hid s.haveTorn_members h ?_
  intro ns hns
  obtain ⟨_, hothers, hafterType⟩ := hns.leaf rfl
  obtain ⟨_, rfl, hafterPath⟩ := hafterType.leaf (ids_ofTexts s.path)
  obtain ⟨_, rfl, hafterComments⟩ := hafterPath.leaf (ids_ofTexts s.comments)
  obtain ⟨w, _, rfl, hw, hnil⟩ := agree_cons_iff.mp hafterComments
  obtain rfl := agree_nil_iff.mp hnil
  obtain ⟨vs, rfl, hvs⟩ := without_array hw
  have hfind (name : Text) (hname : name ≠ idName) : find? name (others ns) = find? name ns :=
    find?_others hname
  rw [hothers] at hfind
  have htype : memberOr "type" .null ns = .string "FunctionStatement" := by
    rw [memberOr, ← hfind _ (by simp [idName]), find?_head, Option.getD_some]
  have hpath : member "path" ns = .ok (ofTexts s.path) := by
    rw [member, ← hfind _ (by simp [idName])]
    simp (disch := decide) [find?_head]
  have hcomments : memberOr "comments" (.array []) ns = ofTexts s.comments := by
    rw [memberOr, ← hfind _ (by simp [idName])]
    simp (disch := decide) [find?_head]
  have hparameters : memberOr "parameters" (.array []) ns = .array vs := by
    rw [memberOr, ← hfind _ (by simp [idName])]
    simp (disch := decide) [find?_head]
  simp only [readFunction, htype, hpath, hcomments, hparameters, isString_self, Bool.not_true,
    Bool.false_eq_true, if_false, items_array, items_ofTexts, except_ok_bind, ofPath?_path]
  have hall := Vets.mapM (fun p _ _ => vets_parameter p) hvs
  refine (hall.bind_ok (b := s.entry) ?_).congr ?_
  · rfl
  · simp [hothers, idsOfMembers, ids, ids_ofTexts, idName]

theorem vets_value {statements : List Statement}
    (h : v.without idName = (value statements).without idName) :
    Vets (ids v = ids (value statements)) (readValue v) (statements.map Statement.entry) := by
  obtain ⟨vs, rfl, hvs⟩ := without_array h
  exact Vets.mapM (fun s _ _ => vets_statement s) hvs

/-! ## 8. Archives -/

/-- **Every identifier is checked.**  Of a text whose value is that of an archive but for
identifiers, the entries of the archive are read if every node has the identifier that it was
given, and otherwise the text is refused for a missing or a wrong identifier. -/
theorem read_altered {statements : List Statement} {t : Text} (hparse : Json.parse t = .ok v)
    (h : v.without idName = (value statements).without idName) :
    (ids v = ids (value statements) → read t = .ok (statements.map Statement.entry)) ∧
      (ids v ≠ ids (value statements) →
        read t = .error .missingId ∨ read t = .error .wrongId) := by
  rw [read, hparse]
  exact ⟨(vets_value h).ok, (vets_value h).refused⟩

/-- A statement with a kind inside of its parameter's kind. -/
def layered : List Statement := [⟨[], "a", [⟨⟨"x"⟩, .option (.primitive .int)⟩], []⟩]

/-- Its archive, with a number for the identifier of the innermost kind.  All nodes around that
kind are sealed. -/
def layeredAltered : Json :=
  .array [Archive.sealed
    [("type", .string "FunctionStatement"), ("path", ofTexts ["a"]), ("comments", ofTexts []),
      ("parameters", .array [Archive.sealed
        [("name", .string "x"), ("kind", Archive.sealed
          [("type", .string "Option"), ("inner", .object
            [("type", .string "Primitive"), ("value", .string "int"), (idName, .int 0)])])]])]]

theorem read_altered_innermost :
    Json.parse (layeredAltered.indented true 0) = .ok layeredAltered ∧
      layeredAltered.without idName = (value layered).without idName ∧
      ids layeredAltered ≠ ids (value layered) ∧
      (read (layeredAltered.indented true 0) = .error .missingId ∨
        read (layeredAltered.indented true 0) = .error .wrongId) := by
  have hzero : (Text.ofNat 0).length ≤ digitLimit := by decide
  have hplain : layeredAltered.Plain := by
    simp [layeredAltered, Archive.sealed, Plain, PlainItems, PlainMembers, ofTexts, idName, hzero]
  have hwithout : layeredAltered.without idName = (value layered).without idName := by
    simp [layeredAltered, layered, value, Statement.node, Parameter.node, Kind.node,
      Archive.sealed, without, withoutItems, withoutMembers, idName, Statement.path, Primitive.text]
  have hids : ids layeredAltered ≠ ids (value layered) := by
    obtain ⟨a, b, c, haltered⟩ : ∃ a b c, ids layeredAltered = [a, b, c, some (.int 0)] := by
      simp [layeredAltered, ids_sealed, ids, idsOfItems, idsOfMembers, idName, find?_head,
        ids_ofTexts]
    obtain ⟨x, y, z, t, hvalue⟩ : ∃ x y z t, ids (value layered) = [x, y, z, some (.string t)] := by
      simp [layered, value, Statement.node, Parameter.node, Kind.node, ids_sealed, ids, idsOfItems,
        idsOfMembers, idName, ids_ofTexts]
    rw [haltered, hvalue]
    simp
  have hparse : Json.parse (layeredAltered.indented true 0) = .ok layeredAltered :=
    parse_indented hplain
  exact ⟨hparse, hwithout, hids, (read_altered hparse hwithout).2 hids⟩

end Archive

end StoredFunctions
