/-
# Which statements have a module

A module is rendered namespace by namespace, and the names of each are checked on the way.  Here
that is told without the tree, as a condition on the list of statements (`Bindable`): the name of
the function that defines everything can be used; in each namespace that a statement stands in or
below, the names of wrappers and classes fit; and so do the names of each wrapper's arguments.

`render_ok_iff_bindable`: a list of statements has a module just when it is bindable, and otherwise
an error.  The sources and the origin do not matter.

The way there is `Outline.scopes_fit_iff`: the scopes of an outline fit if they do in each namespace
that a walk through the tree meets.  What such a namespace contains is read off the list.
-/
import StoredFunctions.Proofs.Bindings.Namespace
import StoredFunctions.Proofs.Bindings.Outline

namespace StoredFunctions.Bindings

variable {rule : NamingRule} {reserved path : List Text} {statements : List Statement}

/-! ## 1. Namespace by namespace -/

/-- Whether the names fit that a namespace writes, those of `reserved` included: in the scope of
its wrappers and classes, and in each of its wrappers. -/
structure Fits (rule : NamingRule) (reserved : List Text) (t : Namespace) : Prop where
  scope : Fit (reserved ++ t.functions.map (fun s => rule.apply s.name) ++ t.names)
  arguments : ∀ s ∈ t.functions, Fit (connectionName :: s.parameterNames.map argumentName)

namespace Outline

mutual

/-- **The scopes of an outline fit if each namespace does** that the walk meets. -/
theorem scopes_fit_iff (within : Option Text) :
    ∀ (path : List Text) {reserved : List Text} {t : Namespace},
      (∀ s ∈ (ofNamespace rule t).scopes within reserved, Fit s.names) ↔
        Fits rule reserved t ∧ ∀ x ∈ Namespace.walkModules path t.modules, Fits rule [] x.2
  | path, reserved, .node functions modules => by
    rw [forall_scopes_iff, classes_fit_iff path]
    constructor
    · rintro ⟨hscope, harguments, hbelow⟩
      exact ⟨⟨hscope, harguments⟩, hbelow⟩
    · rintro ⟨⟨hscope, harguments⟩, hbelow⟩
      exact ⟨hscope, harguments, hbelow⟩

theorem classes_fit_iff :
    ∀ (path : List Text) {modules : List (Text × Namespace)},
      (∀ s ∈ scopesOfClasses (ofModules rule modules), Fit s.names) ↔
        ∀ x ∈ Namespace.walkModules path modules, Fits rule [] x.2
  | path, [] => by simp [ofModules, scopesOfClasses, Namespace.walkModules]
  | path, (name, .node functions modules) :: more => by
    rw [ofModules, scopesOfClasses, Namespace.walkModules, Namespace.walk]
    simp only [List.forall_mem_append, List.forall_mem_cons]
    rw [scopes_fit_iff (some name) (path ++ [name]), classes_fit_iff path]
    rfl

end

/-- The same for the tree of a list, where the walk meets the namespace at each path. -/
theorem ofStatements_fit_iff :
    (∀ s ∈ (ofStatements rule statements).scopes none reserved, Fit s.names) ↔
      Fits rule reserved (Namespace.ofStatements statements) ∧
      ∀ path t, path ≠ [] → Namespace.at? path (Namespace.ofStatements statements) = some t →
        Fits rule [] t := by
  obtain ⟨hnodup, hproper⟩ : (Namespace.ofStatements statements).names.Nodup ∧
      Namespace.AllProper (Namespace.ofStatements statements).modules := by
    have h : Namespace.Proper (Namespace.ofStatements statements) := Namespace.proper_ofStatements
    cases ht : Namespace.ofStatements statements
    rw [ht] at h
    exact h
  rw [ofStatements, scopes_fit_iff none []]
  refine and_congr Iff.rfl ⟨fun h path t hne ht => ?_, fun h x hx => ?_⟩
  · obtain ⟨name, way, rfl⟩ := List.exists_cons_of_ne_nil hne
    exact h (name :: way, t)
      ((Namespace.mem_walkModules_iff hnodup hproper).mpr ⟨name, way, rfl, ht⟩)
  · obtain ⟨name, way, -, ht⟩ := (Namespace.mem_walkModules_iff hnodup hproper).mp hx
    exact h (name :: way) x.2 (by simp) ht

end Outline

/-! ## 2. The condition on the list -/

/-- The names that the namespace at `path` writes: for each function directly in it that of its
wrapper, and for each namespace directly below that of its class. -/
def namesIn (rule : NamingRule) (statements : List Statement) (path : List Text) : List Text :=
  (statements.filter fun s => path = s.scope).map (fun s => rule.apply s.name) ++
    Namespace.segments path statements

/-- Whether all names of the module for a list of statements fit. -/
structure Bindable (rule : NamingRule) (statements : List Statement) : Prop where
  /-- The function that defines everything has a name that can be used. -/
  define : isUsable (rule.apply defineBase) = true
  /-- In every namespace the names can be used, and they differ. -/
  scopes : ∀ s ∈ statements, ∀ path, path <+: s.scope → Fit (namesIn rule statements path)
  /-- Those at the top differ from those of the helpers. -/
  top : ∀ n ∈ namesIn rule statements [], n ≠ sourcesName ∧ n ≠ rule.apply defineBase
  /-- The names of the arguments of a wrapper can be used, and they differ. -/
  arguments : ∀ s ∈ statements, Fit (s.parameterNames.map argumentName)
  /-- None of them is that of the connection. -/
  connection : ∀ s ∈ statements, connectionName ∉ s.parameterNames.map argumentName

/-- Names beside those of the helpers. -/
theorem fit_helpers_append_iff {names : List Text} :
    Fit (Outline.helpers rule ++ names) ↔
      Fit (Outline.helpers rule) ∧ Fit names ∧
        ∀ n ∈ names, n ≠ sourcesName ∧ n ≠ rule.apply defineBase := by
  rw [Outline.helpers, List.cons_append, List.singleton_append]
  simp only [fit_cons_iff, List.mem_cons, List.not_mem_nil, or_false, not_or]
  constructor
  · rintro ⟨hsources, ⟨hne, hnot⟩, hdefine, hnot', hfit⟩
    refine ⟨⟨hsources, hne, hdefine, not_false, fit_nil⟩, hfit, fun n hn => ⟨?_, ?_⟩⟩
    · rintro rfl
      exact hnot hn
    · rintro rfl
      exact hnot' hn
  · rintro ⟨⟨hsources, hne, hdefine, -, -⟩, hfit, hother⟩
    exact ⟨hsources, ⟨hne, fun h => (hother _ h).1 rfl⟩, hdefine, fun h => (hother _ h).2 rfl, hfit⟩

/-- The namespace at a path, in terms of the list. -/
theorem fits_iff {t : Namespace}
    (h : Namespace.at? path (Namespace.ofStatements statements) = some t) :
    Fits rule reserved t ↔
      Fit (reserved ++ namesIn rule statements path) ∧
      ∀ s ∈ statements, path = s.scope →
        Fit (connectionName :: s.parameterNames.map argumentName) := by
  have ht : Namespace.contents path (Namespace.ofStatements statements) = t := by
    rw [Namespace.contents, h]
    rfl
  have hfunctions : t.functions = statements.filter fun s => path = s.scope :=
    ht ▸ Namespace.functions_ofStatements
  have hnames : t.names = Namespace.segments path statements :=
    ht ▸ Namespace.names_ofStatements
  have hmem : ∀ s, s ∈ t.functions ↔ s ∈ statements ∧ path = s.scope := by
    intro s
    rw [hfunctions, List.mem_filter, decide_eq_true_iff]
  constructor
  · rintro ⟨hscope, harguments⟩
    rw [hfunctions, hnames, List.append_assoc] at hscope
    exact ⟨hscope, fun s hs hpath => harguments s ((hmem s).mpr ⟨hs, hpath⟩)⟩
  · rintro ⟨hscope, harguments⟩
    refine ⟨?_, fun s hs => harguments s ((hmem s).mp hs).1 ((hmem s).mp hs).2⟩
    rw [hfunctions, hnames, List.append_assoc]
    exact hscope

theorem exists_at? {s : Statement} (hs : s ∈ statements) (hpath : path <+: s.scope) :
    ∃ t, Namespace.at? path (Namespace.ofStatements statements) = some t :=
  Option.isSome_iff_exists.mp (Namespace.at?_ofStatements_isSome_iff.mpr (.inr ⟨s, hs, hpath⟩))

theorem Bindable.fit_arguments {s : Statement} (h : Bindable rule statements)
    (hs : s ∈ statements) : Fit (connectionName :: s.parameterNames.map argumentName) :=
  fit_cons_iff.mpr ⟨fit_connection.2 _ (by simp), h.connection s hs, h.arguments s hs⟩

theorem Bindable.usable_name {s : Statement} (h : Bindable rule statements)
    (hs : s ∈ statements) : isUsable (rule.apply s.name) = true := by
  refine (h.scopes s hs s.scope List.prefix_rfl).2 _ ?_
  rw [namesIn, List.mem_append]
  exact .inl (List.mem_map.mpr ⟨s, List.mem_filter.mpr ⟨hs, decide_eq_true rfl⟩, rfl⟩)

/-- **The scopes of the module fit if the list is bindable.** -/
theorem scopes_fit_iff_bindable :
    (∀ s ∈ (Outline.ofStatements rule statements).scopes none (Outline.helpers rule), Fit s.names) ↔
      Bindable rule statements := by
  rw [Outline.ofStatements_fit_iff, fits_iff Namespace.at?_nil]
  constructor
  · rintro ⟨⟨htop, hroot⟩, hbelow⟩
    obtain ⟨hhelpers, hfit, hother⟩ := fit_helpers_append_iff.mp htop
    -- a statement's own namespace gives its arguments, and each one above gives its names
    have hat : ∀ s ∈ statements, ∀ path, path <+: s.scope →
        Fit (namesIn rule statements path) ∧
          (path = s.scope → Fit (connectionName :: s.parameterNames.map argumentName)) := by
      intro s hs path hpath
      by_cases hne : path = []
      · subst hne
        exact ⟨hfit, hroot s hs⟩
      · obtain ⟨t, ht⟩ := exists_at? hs hpath
        obtain ⟨hscope, harguments⟩ := (fits_iff ht).mp (hbelow path t hne ht)
        exact ⟨hscope, harguments s hs⟩
    have harguments : ∀ s ∈ statements,
        Fit (connectionName :: s.parameterNames.map argumentName) := fun s hs =>
      (hat s hs s.scope List.prefix_rfl).2 rfl
    exact ⟨Outline.fit_helpers_iff.mp hhelpers, fun s hs path hpath => (hat s hs path hpath).1,
      hother, fun s hs => (fit_cons_iff.mp (harguments s hs)).2.2,
      fun s hs => (fit_cons_iff.mp (harguments s hs)).2.1⟩
  · intro h
    refine ⟨⟨?_, fun s hs _ => h.fit_arguments hs⟩, fun path t hne ht => ?_⟩
    · refine fit_helpers_append_iff.mpr ⟨Outline.fit_helpers_iff.mpr h.define, ?_, h.top⟩
      cases statements with
      | nil => exact fit_nil
      | cons s statements => exact h.scopes s (by simp) [] List.nil_prefix
    · have hsome := Namespace.at?_ofStatements_isSome_iff.mp (Option.isSome_iff_exists.mpr ⟨t, ht⟩)
      obtain ⟨s, hs, hpath⟩ := hsome.resolve_left hne
      exact (fits_iff ht).mpr ⟨h.scopes s hs path hpath, fun s hs _ => h.fit_arguments hs⟩

/-- **Which statements have a module.**  Whatever the sources and the origin, a list of statements
is rendered just when it is bindable, and is refused with an error otherwise. -/
theorem render_ok_iff_bindable (rule : NamingRule) (origin : Text) (sources : List Text)
    (statements : List Statement) :
    ((∃ text, render rule origin sources statements = .ok text) ↔ Bindable rule statements) ∧
    ((∃ e : BindingError, render rule origin sources statements = .error e) ↔
      ¬ Bindable rule statements) := by
  have hok : (∃ text, render rule origin sources statements = .ok text) ↔
      Bindable rule statements := by
    rw [← scopes_fit_iff_bindable]
    constructor
    · rintro ⟨text, h⟩
      exact (render_ok_iff.mp h).1
    · intro h
      exact ⟨_, render_ok_iff.mpr ⟨h, rfl⟩⟩
  refine ⟨hok, ?_⟩
  rw [← hok]
  cases render rule origin sources statements with
  | error e => simp
  | ok text => simp

end StoredFunctions.Bindings
