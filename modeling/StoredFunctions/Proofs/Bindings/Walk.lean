/-
# The walk through the tree of a list

The walk through the tree of namespaces tells everything about the list of statements that the tree
was built from: which namespaces there are, in which order, and which statements stand in each
(`walk_arranges`).

The order is that of a pre-order walk, and it can be read off the list.  A namespace comes before
those below it, and of two namespaces that part ways, the one comes first whose way a statement
was the first to take (`Precedes`, `Earlier`).  Paths in this order are different.

Two inductions carry this.  Over the tree: if the names directly below each namespace are in some
order, the paths of the walk are in the order that this makes (`pairwise_walk`).  Over the list: the
statement that is added last takes a way that an earlier one took, or opens one behind all others
(`pairwise_names`), and it adds one to the size of each namespace on its way (`size_insert`).
-/
import StoredFunctions.Proofs.Bindings.Namespace

namespace StoredFunctions.Namespace

variable {s : Statement} {name : Text} {path way q : List Text} {t u : Namespace}
  {modules : List (Text × Namespace)} {statements : List Statement}

/-! ## 1. The order of a walk -/

/-- The order of paths in a walk, where `R path` orders the names directly below `path`. -/
inductive Precedes (R : List Text → Text → Text → Prop) : List Text → List Text → Prop
  /-- A namespace comes before those below it. -/
  | below (path : List Text) (name : Text) (way : List Text) :
    Precedes R path (path ++ name :: way)
  /-- Where two ways part, all that is on the one comes before all that is on the other. -/
  | beside (path : List Text) {a b : Text} (v w : List Text) : R path a b →
    Precedes R (path ++ a :: v) (path ++ b :: w)

variable {R : List Text → Text → Text → Prop}

theorem Precedes.ne {v w : List Text} (hR : ∀ path name, ¬ R path name name)
    (h : Precedes R v w) : v ≠ w := by
  cases h with
  | below path name way => simp
  | beside path v w hab =>
    intro heq
    obtain ⟨rfl, -⟩ := List.cons.inj (List.append_cancel_left heq)
    exact hR _ _ hab

mutual

/-- A walk stays below the path where it starts. -/
theorem exists_way_of_mem_walk :
    ∀ {t : Namespace} {path : List Text}, (q, u) ∈ walk path t → ∃ way, q = path ++ way
  | .node functions modules, path, h => by
    rw [walk, List.mem_cons] at h
    rcases h with h | h
    · exact ⟨[], by rw [(Prod.mk.inj h).1, List.append_nil]⟩
    · obtain ⟨name, -, way, rfl⟩ := exists_way_of_mem_walkModules h
      exact ⟨name :: way, rfl⟩

theorem exists_way_of_mem_walkModules :
    ∀ {modules : List (Text × Namespace)} {path : List Text}, (q, u) ∈ walkModules path modules →
      ∃ name ∈ modules.map Prod.fst, ∃ way, q = path ++ name :: way
  | [], path, h => absurd h (by simp [walkModules])
  | (k, below) :: more, path, h => by
    rw [walkModules, List.mem_append] at h
    rcases h with h | h
    · obtain ⟨way, rfl⟩ := exists_way_of_mem_walk h
      exact ⟨k, by simp, way, by simp⟩
    · obtain ⟨name, hname, way, rfl⟩ := exists_way_of_mem_walkModules h
      exact ⟨name, by simp [hname], way, rfl⟩

end

mutual

/-- **The paths of a walk are in order** if the names below each namespace are. -/
theorem pairwise_walk : ∀ {t : Namespace} {path : List Text},
    (∀ x ∈ walk path t, x.2.names.Pairwise (R x.1)) →
      ((walk path t).map Prod.fst).Pairwise (Precedes R)
  | .node functions modules, path, h => by
    rw [walk, List.forall_mem_cons] at h
    rw [walk, List.map_cons, List.pairwise_cons]
    refine ⟨List.forall_mem_map.mpr ?_, pairwise_walkModules h.1 h.2⟩
    rintro ⟨q, u⟩ hmem
    obtain ⟨name, -, way, rfl⟩ := exists_way_of_mem_walkModules hmem
    exact .below path name way

theorem pairwise_walkModules : ∀ {modules : List (Text × Namespace)} {path : List Text},
    (modules.map Prod.fst).Pairwise (R path) →
      (∀ x ∈ walkModules path modules, x.2.names.Pairwise (R x.1)) →
        ((walkModules path modules).map Prod.fst).Pairwise (Precedes R)
  | [], path, _, _ => .nil
  | (k, below) :: more, path, hnames, h => by
    rw [List.map_cons, List.pairwise_cons] at hnames
    rw [walkModules, List.forall_mem_append] at h
    rw [walkModules, List.map_append, List.pairwise_append]
    refine ⟨pairwise_walk h.1, pairwise_walkModules hnames.2 h.2, ?_⟩
    refine List.forall_mem_map.mpr fun x hx => List.forall_mem_map.mpr fun y hy => ?_
    obtain ⟨v, hv⟩ := exists_way_of_mem_walk hx
    obtain ⟨name, hname, w, hw⟩ := exists_way_of_mem_walkModules hy
    rw [hv, hw, List.append_assoc, List.singleton_append]
    exact .beside path v w (hnames.1 name hname)

end

theorem mem_walk_self : (path, t) ∈ walk path t := by
  obtain ⟨functions, modules⟩ := t
  exact List.mem_cons_self

theorem mem_walkModules_of_mem {m : Text × Namespace} (h : m ∈ modules) :
    (path ++ [m.1], m.2) ∈ walkModules path modules := by
  induction modules with
  | nil => exact absurd h (by simp)
  | cons k modules ih =>
    rw [walkModules, List.mem_append]
    rcases List.mem_cons.mp h with rfl | h
    · exact .inl mem_walk_self
    · exact .inr (ih h)

mutual

/-- The walk goes on to whatever is directly below a namespace that it meets. -/
theorem mem_walk_child {m : Text × Namespace} : ∀ {t : Namespace} {path : List Text},
    (q, u) ∈ walk path t → m ∈ u.modules → (q ++ [m.1], m.2) ∈ walk path t
  | .node functions modules, path, h, hm => by
    rw [walk, List.mem_cons] at h ⊢
    rcases h with h | h
    · obtain ⟨rfl, rfl⟩ := Prod.mk.inj h
      exact .inr (mem_walkModules_of_mem hm)
    · exact .inr (mem_walkModules_child h hm)

theorem mem_walkModules_child {m : Text × Namespace} :
    ∀ {modules : List (Text × Namespace)} {path : List Text},
      (q, u) ∈ walkModules path modules → m ∈ u.modules →
        (q ++ [m.1], m.2) ∈ walkModules path modules
  | [], path, h, _ => absurd h (by simp [walkModules])
  | (k, below) :: more, path, h, hm => by
    rw [walkModules, List.mem_append] at h ⊢
    rcases h with h | h
    · exact .inl (mem_walk_child h hm)
    · exact .inr (mem_walkModules_child h hm)

end

/-! ## 2. Sizes -/

theorem sizeOfModules_alter {change : Namespace → Namespace}
    (h : ∀ t, (change t).size = t.size + 1) :
    sizeOfModules (alter name change modules) = sizeOfModules modules + 1 := by
  induction modules with
  | nil => simp only [alter, sizeOfModules, h, empty, size, List.length_nil]
  | cons m modules ih =>
    obtain ⟨k, below⟩ := m
    rw [alter]
    split
    · rw [sizeOfModules, sizeOfModules, h]
      omega
    · rw [sizeOfModules, sizeOfModules, ih]
      omega

/-- **Putting a statement into a tree adds one to its size.** -/
theorem size_insert : (insert s way t).size = t.size + 1 := by
  induction way generalizing t with
  | nil =>
    obtain ⟨functions, modules⟩ := t
    rw [insert, size, size, List.length_append, List.length_singleton]
    omega
  | cons name way ih =>
    obtain ⟨functions, modules⟩ := t
    rw [insert, size, size, sizeOfModules_alter fun t => ih]
    omega

/-- **The size of a namespace** is the number of statements whose scope leads there. -/
theorem size_contents : (contents path (ofStatements statements)).size =
    statements.countP fun s => path <+: s.scope := by
  induction statements using List.reverseRecOn with
  | nil =>
    rw [contents_ofStatements_nil]
    rfl
  | append_singleton statements s ih =>
    rw [ofStatements_concat, contents_insert, List.countP_append, List.countP_singleton, ← ih]
    by_cases hs : path <+: s.scope
    · rw [if_pos hs, size_insert, if_pos (decide_eq_true hs)]
    · rw [if_neg hs, if_neg (by simpa using hs), Nat.add_zero]

/-! ## 3. First appearances -/

theorem next?_eq_some_iff : next? path way = some name ↔ path ++ [name] <+: way := by
  rw [next?]
  by_cases hpath : path <+: way
  · obtain ⟨rest, rfl⟩ := hpath
    rw [if_pos (List.prefix_append path rest), List.prefix_append_right_inj,
      List.getElem?_append_right (Nat.le_refl _), Nat.sub_self]
    cases rest with
    | nil => simp
    | cons n rest => simp [eq_comm]
  · rw [if_neg hpath]
    constructor
    · intro h
      exact absurd h (by simp)
    · intro h
      exact absurd ((List.prefix_append path [name]).trans h) hpath

theorem mem_names_iff : name ∈ (contents path (ofStatements statements)).names ↔
    ∃ s ∈ statements, path ++ [name] <+: s.scope := by
  rw [names_ofStatements, segments, Text.mem_distinct, List.mem_filterMap]
  simp only [next?_eq_some_iff]

/-- The position of the first statement whose scope leads to a path or through it. -/
def firstThrough (statements : List Statement) (path : List Text) : Nat :=
  statements.findIdx fun s => path <+: s.scope

/-- Whether a statement was earlier to go on from `path` to the one name than to the other. -/
def Earlier (statements : List Statement) (path : List Text) (a b : Text) : Prop :=
  firstThrough statements (path ++ [a]) < firstThrough statements (path ++ [b])

theorem firstThrough_lt_length (h : ∃ s ∈ statements, path <+: s.scope) :
    firstThrough statements path < statements.length := by
  obtain ⟨s, hs, hpath⟩ := h
  exact List.findIdx_lt_length_of_exists ⟨s, hs, decide_eq_true hpath⟩

/-- Where a statement led before, the ones behind it change nothing. -/
theorem firstThrough_concat (h : ∃ s ∈ statements, path <+: s.scope) :
    firstThrough (statements ++ [s]) path = firstThrough statements path := by
  rw [firstThrough, List.findIdx_append]
  exact if_pos (firstThrough_lt_length h)

/-- A way that no statement took before is first taken by the last one. -/
theorem firstThrough_concat_of_new (h : ¬ ∃ s ∈ statements, path <+: s.scope)
    (hs : path <+: s.scope) : firstThrough (statements ++ [s]) path = statements.length := by
  have hnone : statements.findIdx (fun s => decide (path <+: s.scope)) = statements.length := by
    rw [List.findIdx_eq_length]
    exact fun s' hs' => decide_eq_false fun hpath => h ⟨s', hs', hpath⟩
  rw [firstThrough, List.findIdx_append, hnone, if_neg (Nat.lt_irrefl _), List.findIdx_singleton,
    if_pos (decide_eq_true hs), Nat.zero_add]

/-- **The namespaces below come in the order of the statements** that led there first. -/
theorem pairwise_names :
    (contents path (ofStatements statements)).names.Pairwise (Earlier statements path) := by
  induction statements using List.reverseRecOn with
  | nil =>
    cases path with
    | nil => exact .nil
    | cons name path => exact .nil
  | append_singleton statements s ih =>
    have hold : (contents path (ofStatements statements)).names.Pairwise
        (Earlier (statements ++ [s]) path) := by
      refine ih.imp_of_mem fun {a b} ha hb hab => ?_
      rw [Earlier, firstThrough_concat (mem_names_iff.mp ha),
        firstThrough_concat (mem_names_iff.mp hb)]
      exact hab
    rw [ofStatements_concat, names_insert]
    cases hnext : next? path s.scope with
    | none => exact hold
    | some name =>
      dsimp only
      split
      · exact hold
      · rename_i hnew
        rw [mem_names_iff] at hnew
        refine List.pairwise_append.mpr ⟨hold, List.pairwise_singleton _ _, ?_⟩
        intro a ha b hb
        obtain rfl : b = name := List.mem_singleton.mp hb
        rw [Earlier, firstThrough_concat (mem_names_iff.mp ha),
          firstThrough_concat_of_new hnew (next?_eq_some_iff.mp hnext)]
        exact firstThrough_lt_length (mem_names_iff.mp ha)

/-! ## 4. What the walk tells of the list -/

/-- What a walk tells of the statements of a list. -/
structure Arranges (statements : List Statement) (visits : List (List Text × Namespace)) :
    Prop where
  /-- No path is met twice. -/
  nodup : (visits.map Prod.fst).Nodup
  /-- The paths are the empty one and all that scopes lead to or through. -/
  paths : ∀ path, path ∈ visits.map Prod.fst ↔ path = [] ∨ ∃ s ∈ statements, path <+: s.scope
  /-- The functions at a path are the statements with this scope, in their order. -/
  functions : ∀ x ∈ visits, x.2.functions = statements.filter fun s => s.scope = x.1
  /-- The names below a path are those that scopes go on with. -/
  names : ∀ x ∈ visits, ∀ name, name ∈ x.2.names ↔ ∃ s ∈ statements, x.1 ++ [name] <+: s.scope
  /-- They come in the order of the statements that were the first to go on with them. -/
  earlier : ∀ x ∈ visits, x.2.names.Pairwise (Earlier statements x.1)
  /-- What is below a namespace is met at its own path. -/
  children : ∀ x ∈ visits, ∀ m ∈ x.2.modules, (x.1 ++ [m.1], m.2) ∈ visits
  /-- The paths come in pre-order. -/
  preorder : (visits.map Prod.fst).Pairwise (Precedes (Earlier statements))
  /-- The size at a path is the number of statements whose scope leads to or through it. -/
  size : ∀ x ∈ visits, x.2.size = statements.countP fun s => x.1 <+: s.scope

/-- The walk through the tree of a list meets at each path what the tree has there. -/
theorem eq_contents_of_mem_walk {x : List Text × Namespace}
    (h : x ∈ walk [] (ofStatements statements)) :
    x.2 = contents x.1 (ofStatements statements) := by
  obtain ⟨way, hway, hat⟩ := (mem_walk_iff proper_ofStatements).mp h
  rw [List.nil_append] at hway
  rw [contents, hway, hat, Option.getD_some]

/-- **The tree of a list loses nothing, has nothing twice and keeps the order.**  The walk through
it tells for each path which statements stand there, and its size is that of the list. -/
theorem walk_arranges (statements : List Statement) :
    Arranges statements (walk [] (ofStatements statements)) ∧
      (ofStatements statements).size = statements.length := by
  have hearlier : ∀ x ∈ walk [] (ofStatements statements),
      x.2.names.Pairwise (Earlier statements x.1) := by
    intro x hx
    rw [eq_contents_of_mem_walk hx]
    exact pairwise_names
  have hpreorder := pairwise_walk hearlier
  refine ⟨?_, ?_⟩
  · exact
      { nodup := hpreorder.imp fun h => h.ne fun _ _ => Nat.lt_irrefl _
        paths := by
          intro path
          rw [← at?_ofStatements_isSome_iff, Option.isSome_iff_exists, List.mem_map]
          constructor
          · rintro ⟨x, hx, rfl⟩
            obtain ⟨way, hway, hat⟩ := (mem_walk_iff proper_ofStatements).mp hx
            exact ⟨x.2, by rw [hway]; exact hat⟩
          · rintro ⟨u, hu⟩
            exact ⟨(path, u), (mem_walk_iff proper_ofStatements).mpr ⟨path, rfl, hu⟩, rfl⟩
        functions := by
          intro x hx
          rw [eq_contents_of_mem_walk hx, functions_ofStatements]
          simp only [eq_comm]
        names := by
          intro x hx name
          rw [eq_contents_of_mem_walk hx, mem_names_iff]
        earlier := hearlier
        children := fun x hx m hm => mem_walk_child hx hm
        preorder := hpreorder
        size := by
          intro x hx
          rw [eq_contents_of_mem_walk hx, size_contents] }
  · have hsize : (contents [] (ofStatements statements)).size = _ := size_contents
    rw [contents, at?_nil, Option.getD_some] at hsize
    rw [hsize, List.countP_eq_length]
    exact fun s _ => decide_eq_true s.scope.nil_prefix

end StoredFunctions.Namespace
