/-
# The lines of the generated module

The module is emitted by a recursion over the tree of namespaces, which carries the path and the
depth along and checks names on the way.  Here its lines are told flatly, by the walk through the
tree: each namespace that the walk meets contributes the header of its class and then its wrappers
(`visitLines`), and these follow each other in the order of the walk (`lines_eq_walkLines`).

What goes with that is told of the list.  The functions that the walk meets are the statements of
the list, each as often as it is there (`perm_functions_walk`), and each under its scope
(`scope_of_mem_walk`).

The text of the module is its lines, each ended by a line feed (`render_eq_unlines`): no last line
ends in a blank, so that nothing is trimmed away.
-/
import StoredFunctions.Proofs.Bindings.Outline
import StoredFunctions.Proofs.Bindings.Walk

namespace StoredFunctions

/-! ## 1. Lines and their text -/

namespace Text

variable {separator line : Text} {lines more : List Text}

/-- The text of lines, each of them ended by a line feed. -/
def unlines (lines : List Text) : Text := lines.flatMap (· ++ ['\n'])

@[simp] theorem unlines_nil : unlines [] = [] := rfl

@[simp] theorem unlines_cons : unlines (line :: lines) = line ++ '\n' :: unlines lines := by
  simp [unlines]

@[simp] theorem unlines_append : unlines (lines ++ more) = unlines lines ++ unlines more :=
  List.flatMap_append

theorem join_concat :
    join separator (lines ++ [line]) = lines.flatMap (· ++ separator) ++ line := by
  fun_induction join separator lines with
  | case1 => rfl
  | case2 t => simp [join]
  | case3 t u more ih =>
    rw [List.cons_append, List.cons_append, join, ← List.cons_append, ih]
    simp

theorem lineFeed_eq : Text.of "\n" = ['\n'] := by rw [Text.of_eq]; rfl

/-- Joined lines lack the last line feed. -/
theorem join_lineFeed (h : lines ≠ []) : join "\n" lines ++ "\n" = unlines lines := by
  obtain ⟨front, last, rfl⟩ := List.eq_nil_or_concat lines |>.resolve_left h
  rw [List.concat_eq_append, join_concat, lineFeed_eq, unlines, List.flatMap_append]
  simp

/-- A text that ends in a character that is no blank. -/
def EndsSolid (t : Text) : Prop := ∃ c ∈ t.getLast?, isBlank c = false

theorem EndsSolid.append {t u : Text} (h : EndsSolid u) : EndsSolid (t ++ u) := by
  obtain ⟨c, hc, hblank⟩ := h
  refine ⟨c, ?_, hblank⟩
  rw [List.getLast?_append, Option.mem_def.mp hc]
  rfl

/-- Lines of which the last one, if there is any, does not end in a blank. -/
def Closed (lines : List Text) : Prop := ∀ last ∈ lines.getLast?, EndsSolid last

theorem closed_nil : Closed [] := by
  rintro last ⟨⟩

theorem closed_concat (lines : List Text) (h : EndsSolid line) : Closed (lines ++ [line]) := by
  intro last hlast
  obtain rfl : line = last := by simpa using hlast
  exact h

/-- Only the last line counts. -/
theorem Closed.prepend (h : Closed more) (hne : more ≠ []) : Closed (lines ++ more) := by
  obtain ⟨front, last, rfl⟩ := List.eq_nil_or_concat more |>.resolve_left hne
  intro t ht
  refine h t ?_
  simpa using ht

theorem Closed.append (hlines : Closed lines) (hmore : Closed more) : Closed (lines ++ more) := by
  by_cases hne : more = []
  · rw [hne, List.append_nil]
    exact hlines
  · exact hmore.prepend hne

theorem Closed.flatMap {α : Type} {f : α → List Text} {as : List α}
    (h : ∀ a ∈ as, Closed (f a)) : Closed (as.flatMap f) :=
  flatMap_of_pieces closed_nil .append h

/-- **Nothing is trimmed away behind closed lines.** -/
theorem trimEnd_join (separator : Text) (hne : lines ≠ []) (h : Closed lines) :
    (join separator lines).trimEnd = join separator lines := by
  obtain ⟨front, last, rfl⟩ := List.eq_nil_or_concat lines |>.resolve_left hne
  rw [List.concat_eq_append] at h ⊢
  obtain ⟨c, hc, hblank⟩ := h last (by simp)
  obtain ⟨before, rfl⟩ := List.getLast?_eq_some_iff.mp hc
  rw [join_concat, trimEnd_eq, trimStart_eq_self, List.reverse_reverse]
  intro x hx
  obtain rfl : c = x := by simpa using hx
  exact hblank

end Text

/-! ## 2. The statements of a walk -/

namespace Namespace

variable {s : Statement} {name : Text} {path way : List Text} {t : Namespace}
  {modules : List (Text × Namespace)} {statements : List Statement}

/-- The functions in the namespaces that a walk meets. -/
def functionsOf (visits : List (List Text × Namespace)) : List Statement :=
  visits.flatMap fun visit => visit.2.functions

theorem functionsOf_walk_node {functions : List Statement} :
    functionsOf (walk path (node functions modules)) =
      functions ++ functionsOf (walkModules path modules) := rfl

theorem functionsOf_walkModules_cons {below : Namespace} :
    functionsOf (walkModules path ((name, below) :: modules)) =
      functionsOf (walk (path ++ [name]) below) ++ functionsOf (walkModules path modules) :=
  List.flatMap_append

theorem perm_functions_alter {change : Namespace → Namespace}
    (h : ∀ path t, (functionsOf (walk path (change t))).Perm (s :: functionsOf (walk path t))) :
    (functionsOf (walkModules path (alter name change modules))).Perm
      (s :: functionsOf (walkModules path modules)) := by
  induction modules with
  | nil =>
    rw [alter, functionsOf_walkModules_cons]
    exact (h _ empty).append_right _
  | cons m modules ih =>
    obtain ⟨k, below⟩ := m
    rw [alter]
    split
    · rw [functionsOf_walkModules_cons, functionsOf_walkModules_cons]
      exact (h _ below).append_right _
    · rw [functionsOf_walkModules_cons, functionsOf_walkModules_cons]
      exact (ih.append_left _).trans List.perm_middle

/-- **Putting a statement into a tree adds it to what the walk meets**, and changes nothing else. -/
theorem perm_functions_insert :
    (functionsOf (walk path (insert s way t))).Perm (s :: functionsOf (walk path t)) := by
  induction way generalizing path t with
  | nil =>
    obtain ⟨functions, modules⟩ := t
    rw [insert, functionsOf_walk_node, functionsOf_walk_node, List.append_assoc]
    exact List.perm_middle
  | cons name way ih =>
    obtain ⟨functions, modules⟩ := t
    rw [insert, functionsOf_walk_node, functionsOf_walk_node]
    exact ((perm_functions_alter fun _ _ => ih).append_left _).trans List.perm_middle

/-- **The walk through the tree of a list meets each statement** as often as the list has it. -/
theorem perm_functions_walk :
    (functionsOf (walk [] (ofStatements statements))).Perm statements := by
  induction statements using List.reverseRecOn with
  | nil => exact .refl _
  | append_singleton statements s ih =>
    rw [ofStatements_concat]
    exact perm_functions_insert.trans ((ih.cons s).trans (List.perm_append_singleton s _).symm)

/-- A walk meets a statement in the namespace that the statement's scope leads to. -/
theorem scope_of_mem_walk {visit : List Text × Namespace}
    (hvisit : visit ∈ walk [] (ofStatements statements)) (hs : s ∈ visit.2.functions) :
    s.scope = visit.1 := by
  rw [eq_contents_of_mem_walk hvisit, functions_ofStatements, List.mem_filter] at hs
  exact (of_decide_eq_true hs.2).symm

/-- A function that the walk meets is a statement of the list. -/
theorem mem_of_mem_walk {visit : List Text × Namespace}
    (hvisit : visit ∈ walk [] (ofStatements statements)) (hs : s ∈ visit.2.functions) :
    s ∈ statements :=
  perm_functions_walk.mem_iff.mp (List.mem_flatMap.mpr ⟨visit, hvisit, hs⟩)

end Namespace

namespace Bindings

variable {rule : NamingRule} {origin text : Text} {sources lines path : List Text}
  {statements : List Statement}

/-! ## 3. Visits -/

/-- The lines that open the namespace at a path: those of its class, and none for the module. -/
def openingLines (path : List Text) : List Text :=
  match path.getLast? with
  | none => []
  | some name => gapLines (path.length - 1) ++ classLines (path.length - 1) name

/-- The lines that a namespace contributes when the walk meets it. -/
def visitLines (rule : NamingRule) (visit : List Text × Namespace) : List Text :=
  openingLines visit.1 ++ visit.2.functions.flatMap fun s =>
    gapLines visit.1.length ++ (Wrapper.ofStatement rule s).lines visit.1.length

theorem openingLines_concat {name : Text} :
    openingLines (path ++ [name]) = gapLines path.length ++ classLines path.length name := by
  simp [openingLines]

mutual

/-- **The lines of a namespace are those of the walk through it**, visit by visit. -/
theorem openingLines_append_lines : ∀ (t : Namespace) (path : List Text),
    openingLines path ++ (Outline.ofNamespace rule t).lines path.length =
      (Namespace.walk path t).flatMap (visitLines rule)
  | .node functions modules, path => by
    rw [Outline.ofNamespace, Outline.lines, linesOfClasses_eq_walkModules modules path,
      Namespace.walk, List.flatMap_cons, List.flatMap_map, ← List.append_assoc]
    rfl

theorem linesOfClasses_eq_walkModules : ∀ (modules : List (Text × Namespace)) (path : List Text),
    Outline.linesOfClasses path.length (Outline.ofModules rule modules) =
      (Namespace.walkModules path modules).flatMap (visitLines rule)
  | [], path => rfl
  | (name, below) :: more, path => by
    have hbelow := openingLines_append_lines below (path ++ [name])
    rw [openingLines_concat, List.length_append, List.length_singleton] at hbelow
    rw [Outline.ofModules, Outline.linesOfClasses, linesOfClasses_eq_walkModules more path,
      Namespace.walkModules, List.flatMap_append, ← hbelow]

end

/-- The lines behind the preamble, visit by visit. -/
def walkLines (rule : NamingRule) (statements : List Statement) : List Text :=
  (Namespace.walk [] (Namespace.ofStatements statements)).flatMap (visitLines rule)

theorem lines_eq_walkLines :
    (Outline.ofStatements rule statements).lines 0 = walkLines rule statements :=
  openingLines_append_lines (Namespace.ofStatements statements) []

/-! ## 4. The text of the module -/

theorem endsSolid_docQuotes : Text.EndsSolid docQuotes := ⟨'"', rfl, by decide⟩

theorem closed_classLines {depth : Nat} {name : Text} : Text.Closed (classLines depth name) := by
  exact Text.closed_concat [_] endsSolid_docQuotes.append.append

theorem closed_wrapper {depth : Nat} {w : Wrapper} : Text.Closed (w.lines depth) := by
  have hclosing : Text.EndsSolid (Text.of "\x7d)") := by
    rw [Text.of_eq]
    exact ⟨')', rfl, by decide⟩
  exact Text.closed_concat _ hclosing.append.append

theorem closed_visitLines {visit : List Text × Namespace} :
    Text.Closed (visitLines rule visit) := by
  refine .append ?_ (.flatMap fun s _ => ?_)
  · rw [openingLines]
    split
    · exact Text.closed_nil
    · exact closed_classLines.prepend (by simp [classLines])
  · exact closed_wrapper.prepend (by simp [Wrapper.lines])

theorem closed_defineLines {name : Text} : Text.Closed (defineLines name) := by
  have hclosing : Text.EndsSolid (Text.of ")") := by
    rw [Text.of_eq]
    exact ⟨')', rfl, by decide⟩
  exact Text.closed_concat [_, _] hclosing.append.append

theorem closed_preamble : Text.Closed (preamble rule origin sources) :=
  closed_defineLines.prepend (by simp [defineLines])

theorem preamble_ne_nil : preamble rule origin sources ≠ [] := by
  simp [preamble]

/-- **The text of a module is its lines**, those of the preamble and those of the walk, and nothing
is trimmed away. -/
theorem render_eq_unlines (h : render rule origin sources statements = .ok text) :
    moduleLines rule origin sources statements =
        .ok (preamble rule origin sources ++ walkLines rule statements) ∧
      (Text.join "\n" (preamble rule origin sources ++ walkLines rule statements)).trimEnd =
        Text.join "\n" (preamble rule origin sources ++ walkLines rule statements) ∧
      text = Text.unlines (preamble rule origin sources) ++
        Text.unlines (walkLines rule statements) := by
  have hne : preamble rule origin sources ++ walkLines rule statements ≠ [] := by
    simp [preamble_ne_nil]
  have hclosed : Text.Closed (preamble rule origin sources ++ walkLines rule statements) :=
    closed_preamble.append (.flatMap fun _ _ => closed_visitLines)
  have htrimmed := Text.trimEnd_join (Text.of "\n") hne hclosed
  obtain ⟨lines, hlines, htext⟩ := except_bind_ok_iff.mp h
  obtain ⟨-, rfl⟩ := moduleLines_ok_iff.mp hlines
  rw [lines_eq_walkLines] at hlines htext
  rw [htrimmed, Text.join_lineFeed hne, Text.unlines_append] at htext
  exact ⟨hlines, htrimmed, (Except.ok.inj htext).symm⟩

end Bindings

end StoredFunctions
