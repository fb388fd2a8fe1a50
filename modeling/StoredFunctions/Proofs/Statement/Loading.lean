/-
# Loading with and without a pool

`Agree` says how the documents that a pool loads under a schedule compare with those that are
loaded one by one: the same documents or none, and when none, the pool names a document that
cannot be loaded, with its own error.  A schedule that never passes the time limit keeps to it
(`agree_iff`) if the settings can be read at all; settings with a number that no pool can use
spoil a pool that would have been used, whatever the documents are.  Where all documents can be
loaded, of any schedule only that matters whether it leaves time for them
(`loadAllUnder_ok_iff_inTime`).
-/
import StoredFunctions.Proofs.Pool.Schedule
import StoredFunctions.Proofs.Pool.Settings
import StoredFunctions.Statement.Loading

namespace StoredFunctions.Document

open Pool (Turn Section)

variable {schedule : List Turn} {turns : Option Binary64 → List Turn} {tree : FileTree}
  {settings : Section} {paths : List FilePath} {documents : List Document} {parallel : Bool}

/-! ## 1. One by one -/

/-- The statements at a path. -/
def statementsAt (tree : FileTree) (path : FilePath) : Except DocumentError (List Statement) :=
  (load tree path).map Document.statements

/-- The statements of the documents at paths, where `turns` gives the pool's schedule. -/
def loadStatementsUnder (turns : Option Binary64 → List Turn) (tree : FileTree) (parallel : Bool)
    (settings : Section) (paths : List FilePath) : Except LoadError (List Statement) :=
  (loadAllUnder turns tree parallel settings paths).map fun documents =>
    (documents.map Document.statements).flatten

/-- Statements come with their documents. -/
theorem map_statementsAt_iff {parts : List (List Statement)} :
    paths.map (statementsAt tree) = parts.map .ok ↔
      ∃ documents : List Document, paths.map (load tree) = documents.map .ok ∧
        parts = documents.map Document.statements := by
  constructor
  · intro h
    induction paths generalizing parts with
    | nil => exact ⟨[], rfl, by simpa using h.symm⟩
    | cons path paths ih =>
      obtain ⟨part, rest, rfl, hpart, hrest⟩ := List.map_eq_cons_iff.mp h.symm
      obtain ⟨documents, hdocuments, rfl⟩ := ih hrest.symm
      cases hload : load tree path with
      | error e => exact absurd hpart (by simp [statementsAt, hload, Except.map])
      | ok document =>
        refine ⟨document :: documents, by rw [List.map_cons, hload, hdocuments, List.map_cons], ?_⟩
        rw [statementsAt, hload, Except.map] at hpart
        rw [Except.ok.inj hpart, List.map_cons]
  · rintro ⟨documents, hdocuments, rfl⟩
    have hstatements : paths.map (statementsAt tree) =
        (paths.map (load tree)).map (Except.map Document.statements) := by
      rw [List.map_map]
      rfl
    rw [hstatements, hdocuments, List.map_map, List.map_map]
    rfl

theorem loadAllUnder_of_not_inPool (h : inPool parallel paths = false) :
    loadAllUnder turns tree parallel settings paths =
      (paths.mapM (load tree)).mapError .document := by
  rw [loadAllUnder, h]
  cases paths.mapM (load tree) with
  | ok documents => rfl
  | error e => rfl

/-- Without a pool, a load that fails ends with the error of one of the documents. -/
theorem exists_of_loadAllUnder_error {e : LoadError} (hpool : inPool parallel paths = false)
    (h : loadAllUnder turns tree parallel settings paths = .error e) :
    ∃ (i : Nat) (cause : DocumentError), (paths.map (load tree))[i]? = some (.error cause) ∧
      e = .document cause := by
  rw [loadAllUnder_of_not_inPool hpool] at h
  cases hload : paths.mapM (load tree) with
  | ok documents => exact absurd h (by simp [hload, Except.mapError])
  | error cause =>
    obtain ⟨i, hi⟩ := exists_of_mapM_error hload
    exact ⟨i, cause, hi, by simpa [hload, Except.mapError, eq_comm] using h⟩

theorem loadAllUnder_ok_iff_of_not_inPool (hpool : inPool parallel paths = false) :
    loadAllUnder turns tree parallel settings paths = .ok documents ↔
      paths.map (load tree) = documents.map .ok := by
  rw [loadAllUnder_of_not_inPool hpool, ← mapM_ok_iff_map]
  cases paths.mapM (load tree) with
  | ok documents => simp [Except.mapError]
  | error e => simp [Except.mapError]

/-- If a single document cannot be loaded, its error is the error of the load. -/
theorem loadAllUnder_of_only {i : Nat} {path : FilePath} {cause : DocumentError}
    (hpool : inPool parallel paths = false) (hpath : paths[i]? = some path)
    (hcause : load tree path = .error cause)
    (hothers : ∀ (j : Nat) (path' : FilePath), paths[j]? = some path' → j ≠ i →
      ∃ document, load tree path' = .ok document) :
    loadAllUnder turns tree parallel settings paths = .error (.document cause) := by
  cases hload : loadAllUnder turns tree parallel settings paths with
  | ok documents =>
    rw [loadAllUnder_ok_iff_of_not_inPool hpool] at hload
    have hfails : Pool.Fails (paths.map (load tree)) i :=
      ⟨cause, by rw [List.getElem?_map, hpath, Option.map_some, hcause]⟩
    rw [hload] at hfails
    exact absurd hfails Pool.not_fails_map_ok
  | error e =>
    obtain ⟨j, cause', hj, rfl⟩ := exists_of_loadAllUnder_error hpool hload
    rw [List.getElem?_map, Option.map_eq_some_iff] at hj
    obtain ⟨path', hpath', hcause'⟩ := hj
    by_cases hji : j = i
    · subst hji
      obtain rfl : path = path' := Option.some.inj (hpath.symm.trans hpath')
      rw [Except.error.inj (hcause.symm.trans hcause')]
    · obtain ⟨document, hdocument⟩ := hothers j path' hpath' hji
      exact absurd (hdocument.symm.trans hcause') (by simp)

/-! ## 2. In a pool -/

theorem loadAllUnder_of_inPool (h : inPool parallel paths = true) :
    loadAllUnder turns tree parallel settings paths =
      (Pool.runUnder turns settings Pool.Request.none
        ((paths.map (load tree)).map .computation)).mapError .pool := by
  rw [loadAllUnder, h, List.map_map]
  simp only [Function.comp_def]
  cases Pool.runUnder turns settings Pool.Request.none
      (paths.map fun p => Pool.Task.computation (load tree p)) with
  | ok documents => rfl
  | error e => rfl

/-- **What is loaded are the documents at the paths**, with a pool and without, and under every
schedule. -/
theorem map_load_of_loadAllUnder (h : loadAllUnder turns tree parallel settings paths =
    .ok documents) : paths.map (load tree) = documents.map .ok := by
  cases hpool : inPool parallel paths with
  | false => exact (loadAllUnder_ok_iff_of_not_inPool hpool).mp h
  | true =>
    rw [loadAllUnder_of_inPool hpool] at h
    cases hrun : Pool.runUnder turns settings Pool.Request.none
        ((paths.map (load tree)).map .computation) with
    | error e =>
      rw [hrun] at h
      exact absurd h (by simp [Except.mapError])
    | ok loaded =>
      rw [hrun, Except.mapError] at h
      rw [Pool.eq_map_of_runUnder hrun, Except.ok.inj h]

/-- A document that is loaded was parsed. -/
theorem parseAll_of_load {path : FilePath} {document : Document}
    (h : load tree path = .ok document) :
    Statement.parseAll path.text document.text = .ok document.statements := by
  unfold load at h
  split at h
  · exact absurd h (by simp)
  · split at h
    · exact absurd h (by simp)
    · rename_i statements hparse
      obtain rfl := Except.ok.inj h
      exact hparse

/-- A document that can be read and parsed is loaded. -/
theorem load_of_parseAll {document : Document}
    (hread : tree.readText document.path = .ok document.text)
    (hparse : Statement.parseAll document.path.text document.text = .ok document.statements) :
    load tree document.path = .ok document := by
  rw [load, hread]
  simp only [hparse]

/-- **A pool whose time limit does not pass** has all documents, or names one that cannot be
loaded. -/
theorem loadAllUnder_pool_cases (tree : FileTree) (hexpired : .expired ∉ schedule)
    (hasks : Pool.Asks settings none .thread)
    (husable : Pool.Usable (Pool.modeSection settings .thread))
    (hpool : inPool parallel paths = true) :
    (∃ documents, paths.map (load tree) = documents.map .ok ∧
        loadAllUnder (fun _ => schedule) tree parallel settings paths = .ok documents) ∨
      ∃ (i : Nat) (cause : DocumentError), (paths.map (load tree))[i]? = some (.error cause) ∧
        loadAllUnder (fun _ => schedule) tree parallel settings paths =
          .error (.pool (.failed i .thread cause)) := by
  obtain ⟨found, hread⟩ := (Pool.exists_defaults_iff hasks).mpr husable
  have hmode := Pool.mode_of_defaults hasks hread
  have hfound : Pool.defaults settings Pool.Request.none.mode = .ok found := hread
  rw [loadAllUnder_of_inPool hpool]
  rcases Pool.runUnder_unexpired (paths.map (load tree)) hfound hexpired with
    ⟨documents, htasks, hrun⟩ | ⟨i, cause, hi, hrun⟩
  · exact Or.inl ⟨documents, htasks, by rw [hrun, Except.mapError]⟩
  · exact Or.inr ⟨i, cause, hi, by rw [hrun, hmode, Except.mapError]⟩

/-- Settings that cannot be used end the load, whatever the documents are. -/
theorem loadAllUnder_of_unusable (hasks : Pool.Asks settings none .thread)
    (hunusable : ¬ Pool.Usable (Pool.modeSection settings .thread))
    (hpool : inPool parallel paths = true) :
    ∃ e, loadAllUnder turns tree parallel settings paths = .error (.pool (.setting e)) := by
  cases hread : Pool.defaults settings Pool.Request.none.mode with
  | ok found => exact absurd ((Pool.exists_defaults_iff hasks).mp ⟨found, hread⟩) hunusable
  | error e =>
    have htasks : paths.map (load tree) ≠ [] := by
      rintro hnil
      rw [List.map_eq_nil_iff] at hnil
      simp [inPool, hnil] at hpool
    exact ⟨e, by rw [loadAllUnder_of_inPool hpool, Pool.runUnder_of_unreadable htasks hread,
      Except.mapError]⟩

/-! ## 3. Agreement -/

theorem inPool_true_iff : inPool true paths = true ↔ 2 ≤ paths.length := by
  simp [inPool]

theorem two_le_of_inPool (h : inPool parallel paths = true) : 2 ≤ paths.length := by
  rw [inPool, Bool.and_eq_true, decide_eq_true_eq] at h
  exact h.2

theorem inPool_false : inPool false paths = false := by
  simp [inPool]

/-- **The documents that are loaded**, with or without a pool, are those at the paths. -/
theorem loadAllUnder_ok_iff (hexpired : .expired ∉ schedule)
    (hasks : Pool.Asks settings none .thread)
    (husable : inPool parallel paths = true → Pool.Usable (Pool.modeSection settings .thread)) :
    loadAllUnder (fun _ => schedule) tree parallel settings paths = .ok documents ↔
      paths.map (load tree) = documents.map .ok := by
  cases hpool : inPool parallel paths with
  | false =>
    exact loadAllUnder_ok_iff_of_not_inPool hpool
  | true =>
    rcases loadAllUnder_pool_cases tree hexpired hasks (husable hpool) hpool with
      ⟨found, htasks, hrun⟩ | ⟨i, cause, hi, hrun⟩
    · rw [hrun, htasks]
      constructor
      · intro h
        rw [Except.ok.inj h]
      · intro h
        rw [(List.map_inj_right fun _ _ => Except.ok.inj).mp h]
    · rw [hrun]
      constructor
      · intro h
        exact absurd h (by simp)
      · intro h
        exact absurd ⟨cause, h ▸ hi⟩ Pool.not_fails_map_ok

/-- **How a pool compares with loading one by one.** -/
structure Agree (schedule : List Turn) (tree : FileTree) (settings : Section)
    (paths : List FilePath) : Prop where
  /-- Both have the same documents, or neither has any. -/
  same : ∀ documents, loadAllUnder (fun _ => schedule) tree true settings paths = .ok documents ↔
    loadAllUnder (fun _ => schedule) tree false settings paths = .ok documents
  /-- The documents are those at the paths, in their order. -/
  inOrder : ∀ parallel documents,
    loadAllUnder (fun _ => schedule) tree parallel settings paths = .ok documents ↔
      paths.map (load tree) = documents.map .ok
  /-- The statements are those at the paths, one list behind the other. -/
  statements : ∀ parallel statements,
    loadStatementsUnder (fun _ => schedule) tree parallel settings paths = .ok statements ↔
      ∃ parts : List (List Statement), paths.map (statementsAt tree) = parts.map .ok ∧
        statements = parts.flatten
  /-- A pool that fails names a document that cannot be loaded, with its own error.  It is the error
  that loading one by one ends with, if no other document has one. -/
  failed : 2 ≤ paths.length → ∀ e,
    loadAllUnder (fun _ => schedule) tree true settings paths = .error e →
      ∃ (i : Nat) (path : FilePath) (cause : DocumentError), paths[i]? = some path ∧
        load tree path = .error cause ∧ e = .pool (.failed i .thread cause) ∧
          ((∀ (j : Nat) (path' : FilePath), paths[j]? = some path' → j ≠ i →
              ∃ document, load tree path' = .ok document) →
            loadAllUnder (fun _ => schedule) tree false settings paths = .error (.document cause))
  /-- Without two documents there is no pool. -/
  single : paths.length < 2 →
    loadAllUnder (fun _ => schedule) tree true settings paths =
        loadAllUnder (fun _ => schedule) tree false settings paths ∧
      ∀ e, loadAllUnder (fun _ => schedule) tree true settings paths = .error e →
        ∃ path ∈ paths, ∃ cause, load tree path = .error cause ∧ e = .document cause

theorem loadStatementsUnder_ok_iff {statements : List Statement} :
    loadStatementsUnder turns tree parallel settings paths = .ok statements ↔
      ∃ documents, loadAllUnder turns tree parallel settings paths = .ok documents ∧
        statements = (documents.map Document.statements).flatten := by
  rw [loadStatementsUnder]
  cases loadAllUnder turns tree parallel settings paths with
  | error e => simp [Except.map]
  | ok documents => simp [Except.map, eq_comm]

/-- Settings that can be used, or no pool that uses them. -/
theorem agree_of_usable (hexpired : .expired ∉ schedule) (hasks : Pool.Asks settings none .thread)
    (husable : inPool true paths = true → Pool.Usable (Pool.modeSection settings .thread)) :
    Agree schedule tree settings paths := by
  have hload : ∀ parallel documents,
      loadAllUnder (fun _ => schedule) tree parallel settings paths = .ok documents ↔
        paths.map (load tree) = documents.map .ok := by
    intro parallel documents
    refine loadAllUnder_ok_iff hexpired hasks fun hpool => husable ?_
    exact inPool_true_iff.mpr (two_le_of_inPool hpool)
  refine ⟨fun documents => (hload true documents).trans (hload false documents).symm, hload,
    ?_, ?_, ?_⟩
  · intro parallel statements
    rw [loadStatementsUnder_ok_iff]
    constructor
    · rintro ⟨documents, hdocuments, rfl⟩
      exact ⟨_, map_statementsAt_iff.mpr ⟨documents, (hload _ _).mp hdocuments, rfl⟩, rfl⟩
    · rintro ⟨parts, hparts, rfl⟩
      obtain ⟨documents, hdocuments, rfl⟩ := map_statementsAt_iff.mp hparts
      exact ⟨documents, (hload _ _).mpr hdocuments, rfl⟩
  · intro hlength e he
    have hpool := inPool_true_iff.mpr hlength
    rcases loadAllUnder_pool_cases tree hexpired hasks (husable hpool) hpool with
      ⟨documents, -, hrun⟩ | ⟨i, cause, hi, hrun⟩
    · exact absurd (he.symm.trans hrun) (by simp)
    · rw [List.getElem?_map, Option.map_eq_some_iff] at hi
      obtain ⟨path, hpath, hcause⟩ := hi
      exact ⟨i, path, cause, hpath, hcause, Except.error.inj (he.symm.trans hrun),
        loadAllUnder_of_only inPool_false hpath hcause⟩
  · intro hlength
    have hpool : inPool true paths = false := by
      rw [← Bool.not_eq_true, inPool_true_iff]
      exact not_le.mpr hlength
    refine ⟨?_, ?_⟩
    · rw [loadAllUnder_of_not_inPool hpool, loadAllUnder_of_not_inPool inPool_false]
    · intro e he
      obtain ⟨i, cause, hi, rfl⟩ := exists_of_loadAllUnder_error hpool he
      obtain ⟨path, hpath, hcause⟩ := List.mem_map.mp (List.mem_of_getElem? hi)
      exact ⟨path, hpath, cause, hcause, rfl⟩

theorem not_agree_of_unusable (hasks : Pool.Asks settings none .thread)
    (hlength : 2 ≤ paths.length)
    (hunusable : ¬ Pool.Usable (Pool.modeSection settings .thread)) :
    ¬ Agree schedule tree settings paths := by
  intro h
  obtain ⟨e, he⟩ := loadAllUnder_of_unusable hasks hunusable (inPool_true_iff.mpr hlength)
  obtain ⟨i, path, cause, -, -, hcause, -⟩ := h.failed hlength _ he
  exact absurd hcause (by simp)

/-- **When a pool and loading one by one agree.**  Whatever the documents are, and in whatever
order a pool of threads completes them: exactly when no pool is used, or its settings can be
read. -/
theorem agree_iff (tree : FileTree) (paths : List FilePath) (hexpired : .expired ∉ schedule)
    (hasks : Pool.Asks settings none .thread) :
    Agree schedule tree settings paths ↔
      paths.length < 2 ∨ Pool.Usable (Pool.modeSection settings .thread) := by
  constructor
  · intro h
    by_cases hlength : paths.length < 2
    · exact Or.inl hlength
    · refine Or.inr (not_not.mp fun hunusable => ?_)
      exact not_agree_of_unusable hasks (not_lt.mp hlength) hunusable h
  · rintro (hlength | husable)
    · refine agree_of_usable hexpired hasks fun hpool => ?_
      exact absurd (inPool_true_iff.mp hpool) (not_le.mpr hlength)
    · exact agree_of_usable hexpired hasks fun _ => husable

/-- Two documents that are missing, and a pool without settings that completes the second one
first. -/
theorem agree_two_missing :
    .expired ∉ ([.batch [1], .batch []] : List Turn) ∧ Pool.Asks [] none .thread ∧
      Pool.Usable (Pool.modeSection [] .thread) ∧
      Agree [.batch [1], .batch []] ⟨.directory [], []⟩ []
        [⟨[], ["a.surql"]⟩, ⟨[], ["b.surql"]⟩] := by
  have hexpired : .expired ∉ ([.batch [1], .batch []] : List Turn) := by decide
  have hasks : Pool.Asks [] none .thread := ⟨"thread", rfl, by decide +kernel⟩
  have husable : Pool.Usable (Pool.modeSection [] .thread) := by
    constructor
    · intro negative
      simp [Pool.modeSection, Value.find?]
    · intro n h
      exact absurd h (by simp [Pool.modeSection, Value.find?])
  exact ⟨hexpired, hasks, husable, (agree_iff _ _ hexpired hasks).mpr (Or.inr husable)⟩

/-- Two documents that can be loaded, and a time limit that no double-precision number reaches:
loading one by one has their statements, and the pool refuses its settings. -/
theorem loadAllUnder_huge_limit :
    let tree : FileTree := ⟨.directory
      [("a.surql", .file (Utf8.encode "DEFINE FUNCTION fn::a() \x7b\x7d;")),
        ("b.surql", .file (Utf8.encode "DEFINE FUNCTION fn::b($x: int) \x7b\x7d;"))], []⟩
    let paths : List FilePath := [⟨[], ["a.surql"]⟩, ⟨[], ["b.surql"]⟩]
    let settings : Section :=
      [(.text "thread", .table [(.text "timeout", .int (.ofNat (Nat.pow 10 400)))])]
    Pool.Asks settings none .thread ∧
      ((loadAllUnder (fun _ => []) tree false settings paths).toOption.map fun documents =>
        documents.map fun d => d.statements.map Statement.signature) =
          some [[Text.of "fn::a()"], [Text.of "fn::b($x: int)"]] ∧
      loadAllUnder (fun _ => []) tree true settings paths =
        .error (.pool (.setting .hugeTimeout)) ∧
      ¬ Agree [] tree settings paths := by
  intro tree paths settings
  have hasks : Pool.Asks settings none .thread := ⟨"thread", by decide +kernel, by decide +kernel⟩
  have hread : Pool.defaults settings Pool.Request.none.mode = .error .hugeTimeout := by
    decide +kernel
  have hunusable : ¬ Pool.Usable (Pool.modeSection settings .thread) := by
    intro h
    obtain ⟨found, hfound⟩ := (Pool.exists_defaults_iff hasks).mpr h
    exact absurd (hfound.symm.trans hread) (by simp)
  have hpool : inPool true paths = true := by decide
  refine ⟨hasks, by decide +kernel, ?_, not_agree_of_unusable hasks (by decide) hunusable⟩
  rw [loadAllUnder_of_inPool hpool, Pool.runUnder_of_unreadable (by decide) hread, Except.mapError]

/-! ## 4. Documents that can be loaded -/

/-- **Settings that leave a pool time for so many tasks**: they can be read, and the schedule for
the time limit that they set leaves the time. -/
def InTime (turns : Option Binary64 → List Turn) (settings : Section) (total : Nat) : Prop :=
  ∃ found, Pool.defaults settings none = .ok found ∧ Pool.LeavesTime (turns found.timeout) total

/-- A pool has the values of tasks of which none fails, if there is time. -/
theorem runUnder_values_iff {values : List Document} (hne : values ≠ []) :
    Pool.runUnder turns settings Pool.Request.none
        ((values.map (.ok : Document → Except DocumentError Document)).map .computation) =
      .ok values ↔ InTime turns settings values.length := by
  cases hread : Pool.defaults settings none with
  | error e =>
    rw [Pool.runUnder_of_unreadable (by simpa using hne) hread]
    simp [InTime, hread]
  | ok found =>
    have hread' : Pool.defaults settings Pool.Request.none.mode = .ok found := hread
    have hanswer : ∀ {ending : Pool.Ending DocumentError Document},
        ending.answer found.mode found.timeout values.length = .ok values ↔
          ending = .results values := by
      intro ending
      cases ending <;> simp [Pool.Ending.answer]
    rw [Pool.runUnder_computations hread', List.length_map]
    refine hanswer.trans ((Pool.runSchedule_values_iff values).trans ?_)
    simp only [InTime, hread, Except.ok.injEq, exists_eq_left']
    rfl

/-- **Documents that can be loaded are loaded**, unless they are given to a pool that has no time
for them. -/
theorem loadAllUnder_ok_iff_inTime (hload : paths.map (load tree) = documents.map .ok) :
    loadAllUnder turns tree parallel settings paths = .ok documents ↔
      (inPool parallel paths = true → InTime turns settings paths.length) := by
  cases hpool : inPool parallel paths with
  | false => simp [loadAllUnder_ok_iff_of_not_inPool hpool, hload]
  | true =>
    have hlength : paths.length = documents.length := by
      rw [← List.length_map (load tree), hload, List.length_map]
    have hne : documents ≠ [] := by
      have htwo := two_le_of_inPool hpool
      rintro rfl
      rw [hlength, List.length_nil] at htwo
      omega
    rw [loadAllUnder_of_inPool hpool, hload, hlength, imp_iff_right rfl, ← runUnder_values_iff hne]
    cases Pool.runUnder turns settings Pool.Request.none
        ((documents.map (.ok : Document → Except DocumentError Document)).map .computation) with
    | ok values => simp [Except.mapError]
    | error e => simp [Except.mapError]

end StoredFunctions.Document
