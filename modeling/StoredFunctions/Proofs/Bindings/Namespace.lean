/-
# Namespaces and the statements in them

The tree of namespaces is built by putting one statement after the other into it.  This file says
what has come of that in terms of the list alone: where the tree has a namespace, which functions
stand directly in it, and which names the namespaces below it have.

* `at?_insert`: putting a statement into the tree changes the namespaces on its way and no other;
* `at?_ofStatements_isSome_iff`, `functions_ofStatements`, `names_ofStatements`: the tree of a list
  has a namespace for every start of a statement's scope, its functions are the statements with
  that scope, in order, and the namespaces below come in the order of their first statement;
* `mem_walk_iff`: the walk through a tree meets each namespace at its path, provided that no two
  namespaces side by side share a name, which is so for the tree of a list
  (`proper_ofStatements`).
-/
import Mathlib.Data.List.Induction
import StoredFunctions.Bindings.Namespace

namespace StoredFunctions

/-! ## 1. Lists without copies -/

namespace Text

variable {t u : Text} {l : List Text}

theorem mem_distinct : t ∈ distinct l ↔ t ∈ l := by
  induction l with
  | nil => simp [distinct]
  | cons u l ih =>
    by_cases h : t = u
    · simp [distinct, h]
    · simp [distinct, h, ih]

/-- A text behind the others counts unless it is among them. -/
theorem distinct_concat :
    distinct (l ++ [t]) = if t ∈ l then distinct l else distinct l ++ [t] := by
  induction l with
  | nil => simp [distinct]
  | cons u l ih =>
    rw [List.cons_append, distinct, distinct, ih]
    by_cases hl : t ∈ l
    · simp [hl]
    · by_cases hu : t = u
      · subst hu
        simp [hl]
      · simp [hl, hu]

end Text

namespace Namespace

variable {s : Statement} {n name : Text} {path way : List Text} {t : Namespace}
  {modules : List (Text × Namespace)} {statements : List Statement}

/-! ## 2. The namespace at a path -/

/-- The namespace at a path, seen from the one that the path starts in. -/
def at? : List Text → Namespace → Option Namespace
  | [], t => some t
  | name :: path, t => (t.modules.lookup name).bind (at? path)

@[simp] theorem at?_nil : at? [] t = some t := rfl

/-- The names of the namespaces directly below, in order. -/
def names (t : Namespace) : List Text := t.modules.map Prod.fst

theorem lookup_alter {change : Namespace → Namespace} :
    (alter name change modules).lookup n =
      if n = name then some (change ((modules.lookup name).getD empty)) else modules.lookup n := by
  induction modules with
  | nil =>
    by_cases h : n = name
    · simp [alter, h]
    · simp [alter, List.lookup_cons, h, beq_eq_false_iff_ne.mpr h]
  | cons m modules ih =>
    obtain ⟨k, below⟩ := m
    by_cases hk : k = name
    · subst hk
      by_cases h : n = k
      · simp [alter, h]
      · simp [alter, List.lookup_cons, h, beq_eq_false_iff_ne.mpr h]
    · have hk' : (name == k) = false := beq_eq_false_iff_ne.mpr fun h => hk h.symm
      by_cases h : n = k
      · subst h
        simp [alter, hk]
      · have h' : (n == k) = false := beq_eq_false_iff_ne.mpr h
        simp [alter, hk, List.lookup_cons, hk', h', ih]

theorem map_fst_alter {change : Namespace → Namespace} :
    (alter name change modules).map Prod.fst =
      if name ∈ modules.map Prod.fst then modules.map Prod.fst
      else modules.map Prod.fst ++ [name] := by
  induction modules with
  | nil => simp [alter]
  | cons m modules ih =>
    obtain ⟨k, below⟩ := m
    by_cases hk : k = name
    · simp [alter, hk]
    · have hk' : ¬ name = k := fun h => hk h.symm
      by_cases h : name ∈ modules.map Prod.fst
      · rw [if_pos h] at ih
        simp [alter, hk, ih, List.mem_cons_of_mem k h]
      · rw [if_neg h] at ih
        have hcons : name ∉ ((k, below) :: modules).map Prod.fst := by
          rw [List.map_cons, List.mem_cons]
          rintro (h' | h')
          · exact hk' h'
          · exact h h'
        rw [if_neg hcons, alter, if_neg hk, List.map_cons, ih, List.map_cons, List.cons_append]

theorem at?_empty (h : path ≠ []) : at? path empty = none := by
  obtain ⟨name, path, rfl⟩ := List.exists_cons_of_ne_nil h
  rfl

/-- **Putting a statement into a tree** changes the namespaces on its way, each as if the statement
were put into it by what is left of the way, and no other namespace. -/
theorem at?_insert :
    at? path (insert s way t) =
      if path <+: way then some (insert s (way.drop path.length) ((at? path t).getD empty))
      else at? path t := by
  induction path generalizing way t with
  | nil => simp
  | cons name path ih =>
    obtain ⟨functions, modules⟩ := t
    cases way with
    | nil => simp [insert, at?, Namespace.modules]
    | cons next way =>
      simp only [insert, at?, Namespace.modules, lookup_alter, List.cons_prefix_cons,
        List.length_cons, List.drop_succ_cons]
      by_cases hn : name = next
      · subst hn
        simp only [if_true, Option.bind_some, ih, true_and]
        cases hm : modules.lookup name with
        | some below => rfl
        | none =>
          by_cases hp : path = []
          · simp [hp]
          · simp [at?_empty hp]
      · simp [hn]

/-! ## 3. What stands in the namespace at a path -/

/-- The contents of the namespace at a path, which are none if there is no such namespace. -/
def contents (path : List Text) (t : Namespace) : Namespace := (at? path t).getD empty

/-- The segment of a way behind `path`, if the way leads there and further. -/
def next? (path way : List Text) : Option Text :=
  if path <+: way then way[path.length]? else none

theorem contents_insert :
    contents path (insert s way t) =
      if path <+: way then insert s (way.drop path.length) (contents path t)
      else contents path t := by
  rw [contents, at?_insert]
  split
  · rfl
  · rfl

theorem functions_insert :
    (contents path (insert s way t)).functions =
      (contents path t).functions ++ if path = way then [s] else [] := by
  rw [contents_insert]
  obtain ⟨functions, modules⟩ := contents path t
  by_cases hp : path <+: way
  · obtain ⟨rest, rfl⟩ := hp
    cases rest with
    | nil => simp [insert, Namespace.functions]
    | cons name rest => simp [insert, Namespace.functions]
  · have hne : path ≠ way := fun h => hp (h ▸ List.prefix_rfl)
    simp [hp, hne]

theorem names_insert :
    (contents path (insert s way t)).names =
      match next? path way with
      | some name =>
        if name ∈ (contents path t).names then (contents path t).names
        else (contents path t).names ++ [name]
      | none => (contents path t).names := by
  rw [contents_insert, next?]
  obtain ⟨functions, modules⟩ := contents path t
  by_cases hp : path <+: way
  · obtain ⟨rest, rfl⟩ := hp
    cases rest with
    | nil => simp [insert, names, Namespace.modules]
    | cons name rest =>
      have hnext : (path ++ name :: rest)[path.length]? = some name := by simp
      have hleft : (path ++ name :: rest).drop path.length = name :: rest := List.drop_left
      rw [if_pos (List.prefix_append _ _), if_pos (List.prefix_append _ _), hnext, hleft]
      exact map_fst_alter
  · simp [hp]

/-! ## 4. The tree of a list of statements -/

/-- The distinct segments that the scopes of statements have directly behind `path`, in the order
of their first appearance. -/
def segments (path : List Text) (statements : List Statement) : List Text :=
  Text.distinct (statements.filterMap fun s => next? path s.scope)

theorem ofStatements_concat :
    ofStatements (statements ++ [s]) = insert s s.scope (ofStatements statements) := by
  simp [ofStatements]

theorem contents_ofStatements_nil : contents path (ofStatements []) = empty := by
  cases path with
  | nil => rfl
  | cons name path => rfl

/-- **Where the tree has a namespace**: at its top, and wherever the scope of a statement leads. -/
theorem at?_ofStatements_isSome_iff :
    (at? path (ofStatements statements)).isSome ↔
      path = [] ∨ ∃ s ∈ statements, path <+: s.scope := by
  induction statements using List.reverseRecOn with
  | nil =>
    cases path with
    | nil => simp
    | cons name path => simp [ofStatements, at?_empty]
  | append_singleton statements s ih =>
    rw [ofStatements_concat, at?_insert]
    by_cases hs : path <+: s.scope
    · simp only [hs, if_true, Option.isSome_some, true_iff]
      exact .inr ⟨s, by simp, hs⟩
    · simp [hs, ih, or_and_right, exists_or]

/-- **The functions in a namespace** are the statements with its path for a scope, in order. -/
theorem functions_ofStatements :
    (contents path (ofStatements statements)).functions =
      statements.filter fun s => path = s.scope := by
  induction statements using List.reverseRecOn with
  | nil =>
    rw [contents_ofStatements_nil]
    rfl
  | append_singleton statements s ih =>
    rw [ofStatements_concat, functions_insert, ih, List.filter_append]
    by_cases hs : path = s.scope
    · simp [hs]
    · simp [hs]

/-- **The names of the namespaces below** are the segments behind its path, each once and in the
order of the statements. -/
theorem names_ofStatements :
    (contents path (ofStatements statements)).names = segments path statements := by
  induction statements using List.reverseRecOn with
  | nil =>
    rw [contents_ofStatements_nil]
    rfl
  | append_singleton statements s ih =>
    rw [ofStatements_concat, names_insert, ih, segments, segments, List.filterMap_append]
    cases hs : next? path s.scope with
    | none => simp [hs]
    | some name => simp [hs, Text.distinct_concat, Text.mem_distinct]

/-! ## 5. The walk -/

mutual

/-- Whether no two namespaces side by side share a name, in the tree and everywhere below. -/
def Proper : Namespace → Prop
  | node _ modules => (modules.map Prod.fst).Nodup ∧ AllProper modules

/-- Whether that is so in each of some namespaces. -/
def AllProper : List (Text × Namespace) → Prop
  | [] => True
  | (_, below) :: more => below.Proper ∧ AllProper more

end

theorem proper_empty : Proper empty := ⟨.nil, trivial⟩

theorem AllProper.alter {change : Namespace → Namespace} (h : AllProper modules)
    (hchange : ∀ t, Proper t → Proper (change t)) : AllProper (alter name change modules) := by
  induction modules with
  | nil => exact ⟨hchange _ proper_empty, trivial⟩
  | cons m modules ih =>
    obtain ⟨k, below⟩ := m
    obtain ⟨hbelow, hmore⟩ := h
    unfold Namespace.alter
    split
    · exact ⟨hchange _ hbelow, hmore⟩
    · exact ⟨hbelow, ih hmore⟩

theorem Proper.insert (h : Proper t) : Proper (insert s way t) := by
  induction way generalizing t with
  | nil =>
    obtain ⟨functions, modules⟩ := t
    exact h
  | cons name way ih =>
    obtain ⟨functions, modules⟩ := t
    refine ⟨?_, h.2.alter fun t ht => ih ht⟩
    rw [map_fst_alter]
    split
    · exact h.1
    · rename_i hnew
      refine List.nodup_append.mpr ⟨h.1, by simp, ?_⟩
      rintro a ha b hb rfl
      obtain rfl : a = name := by simpa using hb
      exact hnew ha

theorem proper_ofStatements : Proper (ofStatements statements) := by
  induction statements using List.reverseRecOn with
  | nil => exact proper_empty
  | append_singleton statements s ih =>
    rw [ofStatements_concat]
    exact ih.insert

mutual

/-- **The walk meets each namespace at its path**, and nothing else. -/
theorem mem_walk_iff {p q : List Text} {u : Namespace} :
    ∀ {t : Namespace}, t.Proper →
      ((q, u) ∈ walk p t ↔ ∃ way, q = p ++ way ∧ at? way t = some u)
  | .node functions modules, h => by
    rw [walk, List.mem_cons, mem_walkModules_iff h.1 h.2, Prod.mk.injEq]
    constructor
    · rintro (⟨rfl, rfl⟩ | ⟨name, way, rfl, hway⟩)
      · exact ⟨[], by simp, rfl⟩
      · exact ⟨name :: way, rfl, hway⟩
    · rintro ⟨way, rfl, hway⟩
      cases way with
      | nil => exact .inl ⟨by simp, (Option.some.inj hway).symm⟩
      | cons name way => exact .inr ⟨name, way, rfl, hway⟩

theorem mem_walkModules_iff {p q : List Text} {u : Namespace} :
    ∀ {modules : List (Text × Namespace)}, (modules.map Prod.fst).Nodup → AllProper modules →
      ((q, u) ∈ walkModules p modules ↔
        ∃ name way, q = p ++ name :: way ∧ (modules.lookup name).bind (at? way) = some u)
  | [], _, _ => by simp [walkModules]
  | (k, below) :: more, hnodup, h => by
    obtain ⟨hnew, hnodup⟩ := List.nodup_cons.mp hnodup
    rw [walkModules, List.mem_append, mem_walk_iff h.1, mem_walkModules_iff hnodup h.2]
    constructor
    · rintro (⟨way, rfl, hway⟩ | ⟨name, way, rfl, hway⟩)
      · exact ⟨k, way, by simp, by simpa using hway⟩
      · refine ⟨name, way, rfl, ?_⟩
        -- a name found among the later ones differs from the first, which has no copy
        have hne : name ≠ k := by
          rintro rfl
          have hnone : more.lookup name = none := by
            rw [List.lookup_eq_none_iff]
            intro m hm
            exact bne_iff_ne.mpr fun heq => hnew (List.mem_map.mpr ⟨m, hm, heq.symm⟩)
          rw [hnone] at hway
          exact absurd hway (by simp)
        rwa [List.lookup_cons, beq_eq_false_iff_ne.mpr hne]
    · rintro ⟨name, way, rfl, hway⟩
      by_cases hk : name = k
      · subst hk
        exact .inl ⟨way, by simp, by simpa using hway⟩
      · rw [List.lookup_cons, beq_eq_false_iff_ne.mpr hk] at hway
        exact .inr ⟨name, way, rfl, hway⟩

end

end Namespace

end StoredFunctions
