/-
# The outline of the generated module

The generated module is rendered while its names are checked.  Here the two are told apart: an
`Outline` is what the module consists of, wrappers and classes with the names that are written in
it, and it has its lines, whether the names fit or not.  The scopes of the module are read off the
same outline (`Outline.scopes`), each with the names that are written in it.

`render_ok_iff`: a module is rendered just when the names of each of its scopes fit, and then its
text is that of the outline.  So what is proved about the scopes of an outline holds for the names
in the text.
-/
import StoredFunctions.Bindings.Module
import StoredFunctions.Proofs.Outcome

namespace StoredFunctions.Bindings

/-! ## 1. Outlines -/

/-- A wrapper: its name, the names of its arguments behind the connection, and its function. -/
structure Wrapper where
  name : Text
  arguments : List Text
  statement : Statement

/-- What the module or a class of it consists of. -/
inductive Outline where
  | node (wrappers : List Wrapper) (classes : List (Text × Outline))

/-- The wrapper of a function. -/
def Wrapper.ofStatement (rule : NamingRule) (s : Statement) : Wrapper :=
  ⟨rule.apply s.name, s.parameterNames.map argumentName, s⟩

/-- The lines of a wrapper. -/
def Wrapper.lines (depth : Nat) (w : Wrapper) : List Text :=
  (if depth = 0 then [] else [line depth "@staticmethod"]) ++
    [line depth (headerLine w.name (w.arguments.zip w.statement.parameters))] ++
    docLines (depth + 1) w.statement.comments ++
    [line (depth + 1) (queryLine w.statement (w.arguments.zip w.statement.parameters))]

namespace Outline

mutual

/-- The outline of a namespace. -/
def ofNamespace (rule : NamingRule) : Namespace → Outline
  | .node functions modules =>
    node (functions.map (Wrapper.ofStatement rule)) (ofModules rule modules)

/-- The classes of namespaces. -/
def ofModules (rule : NamingRule) : List (Text × Namespace) → List (Text × Outline)
  | [] => []
  | (name, below) :: more => (name, ofNamespace rule below) :: ofModules rule more

end

mutual

/-- The lines of an outline. -/
def lines (depth : Nat) : Outline → List Text
  | node wrappers classes =>
    wrappers.flatMap (fun w => gapLines depth ++ w.lines depth) ++ linesOfClasses depth classes

/-- The lines of classes. -/
def linesOfClasses (depth : Nat) : List (Text × Outline) → List Text
  | [] => []
  | (name, below) :: more =>
    gapLines depth ++ classLines depth name ++ lines (depth + 1) below ++ linesOfClasses depth more

end

/-- The outline of the module for a list of statements. -/
def ofStatements (rule : NamingRule) (statements : List Statement) : Outline :=
  ofNamespace rule (Namespace.ofStatements statements)

/-- The text of the module with an outline. -/
def text (rule : NamingRule) (origin : Text) (sources : List Text) (outline : Outline) : Text :=
  Text.trimEnd (Text.join "\n"
    ([titleLine origin, []] ++ importLines ++ [[], []] ++
      [sourcesName ++ " = " ++ (Text.join "\n" sources).quoted] ++ [[], []] ++
      defineLines (rule.apply defineBase) ++ outline.lines 0)) ++ "\n"

end Outline

/-! ## 2. Scopes -/

/-- A scope of the module: the class that it stands in, if any, and the names written in it. -/
structure Scope where
  within : Option Text
  names : List Text
  deriving DecidableEq, Repr

namespace Outline

mutual

/-- The scopes of an outline: its own with the names of `helpers`, wrappers and classes, one for
the arguments of each wrapper, and those of the classes. -/
def scopes (within : Option Text) (helpers : List Text) : Outline → List Scope
  | node wrappers classes =>
    ⟨within, helpers ++ wrappers.map Wrapper.name ++ classes.map Prod.fst⟩ ::
      wrappers.map (fun w => ⟨within, connectionName :: w.arguments⟩) ++ scopesOfClasses classes

/-- The scopes of classes. -/
def scopesOfClasses : List (Text × Outline) → List Scope
  | [] => []
  | (name, below) :: more => scopes (some name) [] below ++ scopesOfClasses more

end

/-- The names that the module binds apart from wrappers and classes. -/
def helpers (rule : NamingRule) : List Text := [sourcesName, rule.apply defineBase]

end Outline

/-- Whether names can stand in one scope: they can be used, and they differ. -/
def Fit (names : List Text) : Prop := names.Nodup ∧ ∀ n ∈ names, isUsable n = true

theorem fit_nil : Fit [] := ⟨.nil, by simp⟩

theorem fit_cons_iff {n : Text} {names : List Text} :
    Fit (n :: names) ↔ isUsable n = true ∧ n ∉ names ∧ Fit names := by
  simp only [Fit, List.nodup_cons, List.forall_mem_cons]
  constructor
  · rintro ⟨⟨hn, hnodup⟩, husable, hall⟩
    exact ⟨husable, hn, hnodup, hall⟩
  · rintro ⟨husable, hn, hnodup, hall⟩
    exact ⟨⟨hn, hnodup⟩, husable, hall⟩

theorem fit_perm {names others : List Text} (h : names.Perm others) : Fit names ↔ Fit others := by
  simp only [Fit, h.nodup_iff, h.mem_iff]

/-! ## 3. Checks -/

section Checks

variable {β : Type}

variable {role : Role} {name : Text} {rule : NamingRule} {path : List Text}
  {functions : List Statement} {modules : List (Text × Namespace)} {names : List Text}

theorem usable_ok_iff {n : Text} : usable role name = .ok n ↔ isUsable name = true ∧ n = name := by
  unfold usable
  split
  · rename_i h
    simp [h, eq_comm]
  · rename_i h
    simp [h]

/-- Names are claimed without an error just when all of them differ. -/
theorem claim_isOk_iff :
    ∀ {owned wanted : List (Text × Owner)}, (owned.map Prod.fst).Nodup →
      ((∃ all, claim owned wanted = .ok all) ↔ ((owned ++ wanted).map Prod.fst).Nodup)
  | owned, [], h => by simpa [claim] using h
  | owned, (name, wanting) :: more, h => by
    have hperm : ((owned ++ (name, wanting) :: more).map Prod.fst).Nodup →
        name ∉ owned.map Prod.fst := by
      intro hn hmem
      rw [List.map_append, List.nodup_append] at hn
      exact hn.2.2 name hmem name (by simp) rfl
    unfold claim
    split
    · rename_i o having hfind
      have hmem : name ∈ owned.map Prod.fst := by
        have hname := List.find?_some hfind
        exact List.mem_map.mpr ⟨_, List.mem_of_find?_eq_some hfind, by simpa using hname⟩
      exact ⟨fun ⟨_, h⟩ => absurd h (by simp), fun hn => absurd hmem (hperm hn)⟩
    · rename_i hfind
      have hmem : name ∉ owned.map Prod.fst := by
        intro hmem
        obtain ⟨o, ho, rfl⟩ := List.mem_map.mp hmem
        have hne := List.find?_eq_none.mp hfind o ho
        simp at hne
      have hmore : ((owned ++ [(name, wanting)]).map Prod.fst).Nodup := by
        rw [List.map_append, List.nodup_append]
        refine ⟨h, by simp, ?_⟩
        rintro a ha b hb rfl
        obtain rfl : a = name := by simpa using hb
        exact hmem ha
      rw [claim_isOk_iff hmore, List.append_assoc, List.singleton_append]

/-- What is made of a name that can be used. -/
theorem usable_map_ok_iff {f : Text → β} {b : β} :
    (do pure (f (← usable role name)) : Except BindingError β) = .ok b ↔
      isUsable name = true ∧ b = f name := by
  simp only [except_map_ok_iff, usable_ok_iff]
  constructor
  · rintro ⟨_, ⟨h, rfl⟩, rfl⟩
    exact ⟨h, rfl⟩
  · rintro ⟨h, rfl⟩
    exact ⟨name, ⟨h, rfl⟩, rfl⟩

theorem wantedNames_ok_iff {wanted : List (Text × Owner)} :
    wantedNames rule path (.node functions modules) = .ok wanted ↔
      ((∀ s ∈ functions, isUsable (rule.apply s.name) = true) ∧
        ∀ m ∈ modules, isUsable m.1 = true) ∧
      wanted = functions.map (fun s => (rule.apply s.name, Owner.function s.qualifiedName)) ++
        modules.map (fun m => (m.1, Owner.module (path ++ [m.1]))) := by
  unfold wantedNames
  rw [except_bind_ok_iff]
  simp only [Namespace.functions, Namespace.modules, except_bind_ok_iff,
    mapM_ok_iff fun (s : Statement) _ =>
      usable_map_ok_iff (f := fun n => (n, Owner.function s.qualifiedName)),
    mapM_ok_iff fun (m : Text × Namespace) _ =>
      usable_map_ok_iff (f := fun n => (n, Owner.module (path ++ [m.1])))]
  constructor
  · rintro ⟨_, ⟨hf, rfl⟩, _, ⟨hm, rfl⟩, ⟨⟩⟩
    exact ⟨⟨hf, hm⟩, rfl⟩
  · rintro ⟨⟨hf, hm⟩, rfl⟩
    exact ⟨_, ⟨hf, rfl⟩, _, ⟨hm, rfl⟩, rfl⟩

/-- **A scope is accepted just when the names written in it fit**, those of the helpers included. -/
theorem checkScope_ok_iff (hreserved : Fit names) :
    checkScope rule path names (.node functions modules) = .ok () ↔
      Fit (names ++ functions.map (fun s => rule.apply s.name) ++ modules.map Prod.fst) := by
  have howned : (names.map fun n => (n, Owner.helper)).map Prod.fst = names := by
    rw [List.map_map]
    exact List.map_id names
  have hclaim : ∀ wanted, (∃ all, claim (names.map fun n => (n, Owner.helper)) wanted = .ok all) ↔
      (((names.map fun n => (n, Owner.helper)) ++ wanted).map Prod.fst).Nodup :=
    fun _ => claim_isOk_iff (by rw [howned]; exact hreserved.1)
  unfold checkScope Fit
  simp only [except_bind_ok_iff, wantedNames_ok_iff]
  constructor
  · rintro ⟨_, ⟨⟨hf, hm⟩, rfl⟩, all, hall, -⟩
    have hnodup := (hclaim _).mp ⟨all, hall⟩
    simp only [List.map_append, howned, List.map_map, Function.comp_def, ← List.append_assoc]
      at hnodup
    refine ⟨hnodup, fun n hn => ?_⟩
    rcases List.mem_append.mp hn with hn | hn
    · rcases List.mem_append.mp hn with hn | hn
      · exact hreserved.2 n hn
      · obtain ⟨s, hs, rfl⟩ := List.mem_map.mp hn
        exact hf s hs
    · obtain ⟨m, hmem, rfl⟩ := List.mem_map.mp hn
      exact hm m hmem
  · rintro ⟨hnodup, husable⟩
    have hf : ∀ s ∈ functions, isUsable (rule.apply s.name) = true := fun s hs =>
      husable _ (by simp only [List.mem_append, List.mem_map]; exact .inl (.inr ⟨s, hs, rfl⟩))
    have hm : ∀ m ∈ modules, isUsable m.1 = true := fun m hm =>
      husable _ (by simp only [List.mem_append, List.mem_map]; exact .inr ⟨m, hm, rfl⟩)
    obtain ⟨all, hall⟩ := (hclaim (functions.map (fun s =>
      (rule.apply s.name, Owner.function s.qualifiedName)) ++
        modules.map (fun m => (m.1, Owner.module (path ++ [m.1]))))).mpr (by
      simp only [List.map_append, howned, List.map_map, Function.comp_def, ← List.append_assoc]
      exact hnodup)
    exact ⟨_, ⟨⟨hf, hm⟩, rfl⟩, all, hall, rfl⟩

/-- **Arguments are accepted just when their names fit**, together with those before. -/
theorem argumentNames_ok_iff {qualifiedName : Text} {parameters : List Text} :
    ∀ {seen names : List Text}, Fit seen →
      (argumentNames qualifiedName seen parameters = .ok names ↔
        Fit (seen ++ parameters.map argumentName) ∧ names = parameters.map argumentName) := by
  induction parameters with
  | nil =>
    intro seen names hseen
    simp [argumentNames, hseen, eq_comm]
  | cons p parameters ih =>
    intro seen names hseen
    have hfit : Fit (seen ++ (p :: parameters).map argumentName) ↔
        Fit (argumentName p :: (seen ++ parameters.map argumentName)) := fit_perm List.perm_middle
    rw [argumentNames, except_bind_ok_iff, hfit]
    simp only [usable_ok_iff]
    constructor
    · rintro ⟨_, ⟨husable, rfl⟩, h⟩
      split at h
      · exact absurd h (by simp)
      · rename_i hnew
        have hseen' := fit_cons_iff.mpr ⟨husable, by simpa using hnew, hseen⟩
        obtain ⟨more, hmore, h⟩ := except_bind_ok_iff.mp h
        obtain ⟨hall, rfl⟩ := (ih hseen').mp hmore
        exact ⟨hall, (Except.ok.inj h).symm⟩
    · rintro ⟨hall, rfl⟩
      obtain ⟨husable, hother, -⟩ := fit_cons_iff.mp hall
      have hnew : argumentName p ∉ seen := fun h => hother (List.mem_append_left _ h)
      have hrest := (ih (fit_cons_iff.mpr ⟨husable, hnew, hseen⟩)).mpr ⟨hall, rfl⟩
      refine ⟨_, ⟨husable, rfl⟩, ?_⟩
      rw [if_neg (by simpa using hnew), hrest]
      rfl

theorem fit_connection : Fit [connectionName] := by
  unfold Fit connectionName
  rw [Text.of_eq]
  exact ⟨by decide, by decide +kernel⟩

theorem wrapperLines_ok_iff {depth : Nat} {s : Statement} {lines : List Text} :
    wrapperLines rule depth s = .ok lines ↔
      isUsable (rule.apply s.name) = true ∧
      Fit (connectionName :: (Wrapper.ofStatement rule s).arguments) ∧
      lines = (Wrapper.ofStatement rule s).lines depth := by
  unfold wrapperLines
  simp only [except_bind_ok_iff, usable_ok_iff, argumentNames_ok_iff fit_connection]
  constructor
  · rintro ⟨_, ⟨hname, rfl⟩, _, ⟨hfit, rfl⟩, ⟨⟩⟩
    exact ⟨hname, hfit, rfl⟩
  · rintro ⟨hname, hfit, rfl⟩
    exact ⟨_, ⟨hname, rfl⟩, _, ⟨hfit, rfl⟩, rfl⟩

theorem wrappers_ok_iff {depth : Nat} {blocks : List (List Text)} :
    functions.mapM (fun s => do pure (gapLines depth ++ (← wrapperLines rule depth s))) =
        .ok blocks ↔
      (∀ s ∈ functions, isUsable (rule.apply s.name) = true ∧
        Fit (connectionName :: (Wrapper.ofStatement rule s).arguments)) ∧
      blocks = functions.map fun s =>
        gapLines depth ++ (Wrapper.ofStatement rule s).lines depth := by
  refine mapM_ok_iff fun s b => ?_
  simp only [except_map_ok_iff, wrapperLines_ok_iff]
  constructor
  · rintro ⟨_, ⟨hname, hfit, rfl⟩, rfl⟩
    exact ⟨⟨hname, hfit⟩, rfl⟩
  · rintro ⟨⟨hname, hfit⟩, rfl⟩
    exact ⟨_, ⟨hname, hfit, rfl⟩, rfl⟩

end Checks

/-! ## 4. Rendering -/

namespace Outline

theorem map_fst_ofModules {rule : NamingRule} :
    ∀ {modules : List (Text × Namespace)},
      (ofModules rule modules).map Prod.fst = modules.map Prod.fst
  | [] => rfl
  | (name, below) :: more => by
    rw [ofModules, List.map_cons, List.map_cons, map_fst_ofModules]

/-- The scopes of a namespace fit if its own, its wrappers and its classes do. -/
theorem forall_scopes_iff {rule : NamingRule} {within : Option Text} {reserved : List Text}
    {functions : List Statement} {modules : List (Text × Namespace)} :
    (∀ s ∈ (ofNamespace rule (.node functions modules)).scopes within reserved, Fit s.names) ↔
      Fit (reserved ++ functions.map (fun s => rule.apply s.name) ++ modules.map Prod.fst) ∧
      (∀ s ∈ functions, Fit (connectionName :: (Wrapper.ofStatement rule s).arguments)) ∧
      ∀ s ∈ scopesOfClasses (ofModules rule modules), Fit s.names := by
  rw [ofNamespace, scopes]
  simp only [List.cons_append, List.forall_mem_cons, List.forall_mem_append, List.forall_mem_map,
    List.map_map, map_fst_ofModules]
  exact Iff.rfl

mutual

/-- **A namespace is rendered just when all scopes of its outline fit**, and then as its outline. -/
theorem treeLines_ok_iff {rule : NamingRule} {reserved : List Text} (hreserved : Fit reserved)
    {depth : Nat} {path : List Text} (within : Option Text) :
    ∀ {tree : Namespace} {lines : List Text},
      treeLines rule depth path reserved tree = .ok lines ↔
        (∀ s ∈ (ofNamespace rule tree).scopes within reserved, Fit s.names) ∧
        lines = (ofNamespace rule tree).lines depth
  | .node functions modules, lines => by
    have hlines : (ofNamespace rule (.node functions modules)).lines depth =
        (functions.map fun s =>
            gapLines depth ++ (Wrapper.ofStatement rule s).lines depth).flatten ++
          linesOfClasses depth (ofModules rule modules) := by
      rw [ofNamespace, Outline.lines, List.flatMap_map, List.flatMap_def]
    rw [treeLines, forall_scopes_iff, hlines]
    simp only [except_bind_ok_iff, wrappers_ok_iff]
    constructor
    · rintro ⟨_, hscope, _, ⟨hwrappers, rfl⟩, _, hbelow, ⟨⟩⟩
      obtain ⟨⟨-, hclasses⟩, rfl⟩ := belowLines_ok_iff.mp hbelow
      exact ⟨⟨(checkScope_ok_iff hreserved).mp hscope, fun s hs => (hwrappers s hs).2, hclasses⟩,
        rfl⟩
    · rintro ⟨⟨hscope, hwrappers, hclasses⟩, rfl⟩
      have hfunctions : ∀ s ∈ functions, isUsable (rule.apply s.name) = true := fun s hs =>
        hscope.2 _ (by simp only [List.mem_append, List.mem_map]; exact .inl (.inr ⟨s, hs, rfl⟩))
      have hmodules : ∀ m ∈ modules, isUsable m.1 = true := fun m hm =>
        hscope.2 _ (by simp only [List.mem_append, List.mem_map]; exact .inr ⟨m, hm, rfl⟩)
      exact ⟨(), (checkScope_ok_iff hreserved).mpr hscope, _,
        ⟨fun s hs => ⟨hfunctions s hs, hwrappers s hs⟩, rfl⟩, _,
        belowLines_ok_iff.mpr ⟨⟨hmodules, hclasses⟩, rfl⟩, rfl⟩

theorem belowLines_ok_iff {rule : NamingRule} {depth : Nat} {path : List Text} :
    ∀ {modules : List (Text × Namespace)} {lines : List Text},
      belowLines rule depth path modules = .ok lines ↔
        ((∀ m ∈ modules, isUsable m.1 = true) ∧
          ∀ s ∈ scopesOfClasses (ofModules rule modules), Fit s.names) ∧
        lines = linesOfClasses depth (ofModules rule modules)
  | [], lines => by
    rw [belowLines, ofModules, scopesOfClasses, linesOfClasses]
    constructor
    · rintro ⟨⟩
      exact ⟨⟨by simp, by simp⟩, rfl⟩
    · rintro ⟨-, rfl⟩
      rfl
  | (name, below) :: more, lines => by
    rw [belowLines, ofModules, scopesOfClasses, linesOfClasses]
    simp only [except_bind_ok_iff, usable_ok_iff, List.forall_mem_cons, List.forall_mem_append]
    constructor
    · rintro ⟨_, ⟨hname, rfl⟩, _, hinside, _, hothers, ⟨⟩⟩
      obtain ⟨hbelow, rfl⟩ := (treeLines_ok_iff fit_nil (some _)).mp hinside
      obtain ⟨⟨hmore, hclasses⟩, rfl⟩ := belowLines_ok_iff.mp hothers
      exact ⟨⟨⟨hname, hmore⟩, hbelow, hclasses⟩, rfl⟩
    · rintro ⟨⟨⟨hname, hmore⟩, hbelow, hclasses⟩, rfl⟩
      exact ⟨_, ⟨hname, rfl⟩, _, (treeLines_ok_iff fit_nil (some name)).mpr ⟨hbelow, rfl⟩, _,
        belowLines_ok_iff.mpr ⟨⟨hmore, hclasses⟩, rfl⟩, rfl⟩

end

/-- The function that defines everything is never called like the sources. -/
theorem sourcesName_ne {rule : NamingRule} : sourcesName ≠ rule.apply defineBase := by
  intro h
  have hd : 'd' ∈ rule.apply defineBase := by
    have hbase : 'd' ∈ defineBase := by
      rw [defineBase, Text.of_eq]
      decide
    cases rule with
    | same => exact hbase
    | front affix => exact List.mem_append_right _ hbase
    | back affix => exact List.mem_append_left _ hbase
  rw [← h, sourcesName, Text.of_eq] at hd
  exact absurd hd (by decide)

theorem fit_helpers_iff {rule : NamingRule} :
    Fit (helpers rule) ↔ isUsable (rule.apply defineBase) = true := by
  have hsources : isUsable sourcesName = true := by
    rw [sourcesName, Text.of_eq]
    decide +kernel
  simp [Fit, helpers, sourcesName_ne, hsources]

/-- The helpers are in the first scope. -/
theorem fit_helpers {rule : NamingRule} {tree : Namespace} {within : Option Text}
    {reserved : List Text} (h : ∀ s ∈ (ofNamespace rule tree).scopes within reserved, Fit s.names) :
    Fit reserved := by
  obtain ⟨functions, modules⟩ := tree
  obtain ⟨⟨hnodup, husable⟩, -⟩ := forall_scopes_iff.mp h
  rw [List.append_assoc] at hnodup husable
  exact ⟨(List.nodup_append.mp hnodup).1, fun n hn => husable n (List.mem_append_left _ hn)⟩

end Outline

/-- The lines of the module in front of its wrappers and classes. -/
def preamble (rule : NamingRule) (origin : Text) (sources : List Text) : List Text :=
  [titleLine origin, []] ++ importLines ++ [[], []] ++
    [sourcesName ++ " = " ++ (Text.join "\n" sources).quoted] ++ [[], []] ++
    defineLines (rule.apply defineBase)

variable {rule : NamingRule} {origin text : Text} {sources lines : List Text}
  {statements : List Statement}

/-- **A module has lines just when the names of each of its scopes fit**, and behind the preamble
they are those of its outline. -/
theorem moduleLines_ok_iff : moduleLines rule origin sources statements = .ok lines ↔
    (∀ s ∈ (Outline.ofStatements rule statements).scopes none (Outline.helpers rule), Fit s.names) ∧
    lines = preamble rule origin sources ++ (Outline.ofStatements rule statements).lines 0 := by
  unfold moduleLines
  simp only [except_bind_ok_iff, usable_ok_iff]
  constructor
  · rintro ⟨_, ⟨hdefine, rfl⟩, _, hlines, ⟨⟩⟩
    have hhelpers := Outline.fit_helpers_iff.mpr hdefine
    obtain ⟨hfit, rfl⟩ := (Outline.treeLines_ok_iff hhelpers none).mp hlines
    exact ⟨hfit, rfl⟩
  · rintro ⟨hfit, rfl⟩
    have hhelpers := Outline.fit_helpers hfit
    have hlines : treeLines rule 0 [] (Outline.helpers rule) (Namespace.ofStatements statements) =
        .ok ((Outline.ofStatements rule statements).lines 0) :=
      (Outline.treeLines_ok_iff hhelpers none).mpr ⟨hfit, rfl⟩
    exact ⟨_, ⟨Outline.fit_helpers_iff.mp hhelpers, rfl⟩, _, hlines, rfl⟩

/-- **A module is rendered just when the names of each of its scopes fit**, and then its text is
that of its outline. -/
theorem render_ok_iff : render rule origin sources statements = .ok text ↔
    (∀ s ∈ (Outline.ofStatements rule statements).scopes none (Outline.helpers rule), Fit s.names) ∧
    text = Outline.text rule origin sources (Outline.ofStatements rule statements) := by
  unfold render
  simp only [except_bind_ok_iff, moduleLines_ok_iff]
  constructor
  · rintro ⟨_, ⟨hfit, rfl⟩, ⟨⟩⟩
    exact ⟨hfit, rfl⟩
  · rintro ⟨hfit, rfl⟩
    exact ⟨_, ⟨hfit, rfl⟩, rfl⟩

end StoredFunctions.Bindings
