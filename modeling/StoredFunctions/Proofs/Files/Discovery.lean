/-
# Which documents are found

A template leads to the documents at and below its path, and these come depth first, in the order
of names.  What that means is said here without a walk: `Expands` names the files, and orders two of
them by the first name in which their paths differ (`Precedes`).  This leaves one list
(`Expands.unique`), and it is the one that the recursion over the tree collects (`expands_expand`).

Of the lists of all templates, one behind the other, the first copy of each path is kept
(`FirstCopies`).  The first template that leads nowhere ends the search.  `find_finds` says so for
every tree in which no two entries of a directory share a name and none is called `..`.
-/
import Mathlib.Data.Char
import Mathlib.Data.List.Lex
import Mathlib.Data.List.Sort
import StoredFunctions.Files.Discovery
import StoredFunctions.Proofs.Files.Tree

namespace StoredFunctions

/-! ## 1. The order of names -/

/-- The order of texts is the lexicographic one, by code point. -/
theorem Text.le_iff {s t : Text} : s.le t = true ↔ ¬ t < s := by
  induction s generalizing t with
  | nil => simp [Text.le]
  | cons a s ih =>
    cases t with
    | nil => simp [Text.le]
    | cons b t =>
      rw [Text.le, List.cons_lt_cons_iff]
      split
      · rename_i hab
        rw [ih, hab]
        simp
      · rename_i hab
        have hlt : a.toNat < b.toNat ↔ a < b := Iff.rfl
        rw [decide_eq_true_eq, hlt, not_or]
        constructor
        · exact fun hlt => ⟨lt_asymm hlt, fun h => hab h.1.symm⟩
        · exact fun h => lt_of_le_of_ne (not_lt.mp h.1) hab

/-! ## 2. Trees of a file system -/

namespace Entry

variable {name : Text} {e x : Entry} {es : List (Text × Entry)} {way more : List Text}

/-- A tree that a file system can have: no two entries of a directory share a name, and none is
called `..`. -/
inductive Proper : Entry → Prop
  | file (bytes : List UInt8) : Proper (.file bytes)
  | directory {entries : List (Text × Entry)} : (entries.map Prod.fst).Nodup →
      (∀ m ∈ entries, m.1 ≠ ['.', '.']) → (∀ m ∈ entries, m.2.Proper) →
      Proper (.directory entries)

theorem mem_of_find? (h : find? name es = some e) : (name, e) ∈ es := by
  rw [find?, Option.map_eq_some_iff] at h
  obtain ⟨⟨n, e'⟩, hfind, rfl⟩ := h
  obtain rfl : n = name := by simpa using List.find?_some hfind
  exact List.mem_of_find?_eq_some hfind

/-- Where names differ, each entry is found under its name. -/
theorem find?_of_mem (hnames : (es.map Prod.fst).Nodup) (h : (name, e) ∈ es) :
    find? name es = some e := by
  induction es with
  | nil => exact absurd h (by simp)
  | cons m es ih =>
    rw [List.map_cons, List.nodup_cons] at hnames
    rcases List.mem_cons.mp h with rfl | h
    · exact find?_cons_self
    · have hne : name ≠ m.1 := by
        rintro rfl
        exact hnames.1 (List.mem_map.mpr ⟨_, h, rfl⟩)
      rw [find?_cons_of_ne hne, ih hnames.2 h]

/-- What is below a proper tree is proper. -/
theorem Proper.at? (h : e.Proper) (hat : e.at? way = some x) : x.Proper := by
  induction way generalizing e with
  | nil =>
    obtain rfl : e = x := Option.some.inj (at?_nil.symm.trans hat)
    exact h
  | cons name way ih =>
    obtain ⟨es, child, rfl, hfind, hat⟩ := exists_child hat
    cases h with
    | directory _ _ hbelow => exact ih (hbelow _ (mem_of_find? hfind)) hat

end Entry

/-- The path of what is at the end of a way below. -/
def FilePath.below (p : FilePath) (way : List Text) : FilePath := { p with names := p.names ++ way }

theorem FilePath.child_below (p : FilePath) (name : Text) (way : List Text) :
    (p.child name).below way = p.below (name :: way) := by
  rw [child, below, below, List.append_assoc, List.singleton_append]

namespace FileTree

open Entry

variable {t : FileTree} {p : FilePath} {e x c : Entry} {s : List (Text × Entry)}
  {way : List Text}

/-- A way in a proper tree is followed name by name: none of them leads back up. -/
theorem follow_of_at? (h : c.Proper) (hat : c.at? way = some x) :
    ∃ whole, follow c s way = .entry whole x := by
  induction way generalizing c s with
  | nil =>
    obtain rfl : c = x := Option.some.inj (at?_nil.symm.trans hat)
    exact ⟨_, by rw [follow]⟩
  | cons name way ih =>
    obtain ⟨es, child, rfl, hfind, hat⟩ := exists_child hat
    have hmem := mem_of_find? hfind
    cases h with
    | directory _ hnames hbelow =>
      rw [(Moves.down s (hnames _ hmem) hfind).follow]
      exact ih (hbelow _ hmem) hat

theorem exists_way (he : t.entry? p = some e) : ∃ whole, t.find p = .entry whole e := by
  unfold entry? at he
  cases hfind : t.find p with
  | missing => simp [hfind] at he
  | throughFile => simp [hfind] at he
  | entry whole e' =>
    obtain rfl : e' = e := by simpa [hfind] using he
    exact ⟨whole, rfl⟩

/-- What stands at a path of a proper tree is proper. -/
theorem proper_of_found (h : t.root.Proper) (he : t.entry? p = some e) : e.Proper := by
  obtain ⟨whole, hfind⟩ := exists_way he
  exact h.at? (at?_of_find hfind)

/-- **What is below an entry stands at a path below its path.** -/
theorem entry?_below (h : t.root.Proper) (he : t.entry? p = some e) (hat : e.at? way = some x) :
    t.entry? (p.below way) = some x := by
  obtain ⟨whole, hfind⟩ := exists_way he
  obtain ⟨s, hs, -, hmore⟩ := exists_stack stands_root hfind
  obtain ⟨whole', hfollow⟩ := follow_of_at? (s := s) (h.at? hs.at?) hat
  have hbelow : t.find (p.below way) = .entry whole' x := by
    rw [← hfollow, ← hmore way, find, FilePath.below, FilePath.isAbsolute, FilePath.isAbsolute]
    split
    · rfl
    · rw [List.append_assoc]
  unfold entry?
  rw [hbelow]

end FileTree

namespace Discovery

open Entry

variable {suffix : Text} {path p q : FilePath} {e : Entry} {entries : List (Text × Entry)}
  {found kept l m : List FilePath}

/-! ## 3. Files at and below a path -/

/-- Depth first, in the order of names: where two paths part, the smaller name comes first. -/
inductive Precedes : FilePath → FilePath → Prop
  | intro (root : Text) (front : List Text) {a b : Text} (v w : List Text) : a < b →
    Precedes ⟨root, front ++ a :: v⟩ ⟨root, front ++ b :: w⟩

theorem Precedes.names_lt (h : Precedes p q) : p.names < q.names := by
  cases h with
  | intro root front v w hab => exact List.append_left_lt (List.cons_lt_cons_iff.mpr (.inl hab))

instance : Std.Irrefl Precedes := ⟨fun _ h => lt_irrefl _ h.names_lt⟩

instance : Std.Antisymm Precedes := ⟨fun _ _ h h' => absurd h'.names_lt (lt_asymm h.names_lt)⟩

/-- What the documents at and below an entry are: the files with the suffix, in order. -/
structure Expands (suffix : Text) (path : FilePath) (e : Entry) (found : List FilePath) :
    Prop where
  mem_iff : ∀ q, q ∈ found ↔ q.suffix = suffix ∧
    ∃ way bytes, q = path.below way ∧ e.at? way = some (.file bytes)
  ordered : found.Pairwise Precedes

theorem Expands.unique (h : Expands suffix path e l) (h' : Expands suffix path e m) : l = m :=
  h.ordered.eq_of_mem_iff h'.ordered fun q => (h.mem_iff q).trans (h'.mem_iff q).symm

theorem expandEntries_eq_map : expandEntries suffix path entries =
    entries.map fun m => (m.1, expand suffix (path.child m.1) m.2) := by
  induction entries with
  | nil => rfl
  | cons m entries ih =>
    obtain ⟨name, e⟩ := m
    rw [expandEntries, ih, List.map_cons]

/-- Results by different names are put in the strict order of their names. -/
theorem pairwise_byName {α : Type} {found : List (Text × α)}
    (h : (found.map Prod.fst).Nodup) : (byName found).Pairwise fun a b => a.1 < b.1 := by
  have hle : (byName found).Pairwise fun a b => a.1.le b.1 = true := by
    refine List.pairwise_mergeSort ?_ ?_ found
    · intro a b c hab hbc
      rw [Text.le_iff, not_lt] at *
      exact le_trans hab hbc
    · intro a b
      rw [Bool.or_eq_true, Text.le_iff, Text.le_iff, not_lt, not_lt]
      exact le_total a.1 b.1
  have hne : (byName found).Pairwise fun a b => a.1 ≠ b.1 := by
    rw [← List.pairwise_map (f := Prod.fst) (R := fun a b => a ≠ b)]
    exact ((List.mergeSort_perm found _).map Prod.fst).nodup_iff.mpr h
  exact (hle.and hne).imp fun h => lt_of_le_of_ne (not_lt.mp (Text.le_iff.mp h.1)) h.2

theorem mem_expand_directory : q ∈ expand suffix path (.directory entries) ↔
    ∃ m ∈ entries, q ∈ expand suffix (path.child m.1) m.2 := by
  rw [expand, expandEntries_eq_map]
  simp [byName]

theorem expands_file (bytes : List UInt8) :
    Expands suffix path (.file bytes) (expand suffix path (.file bytes)) := by
  have hself : path.below [] = path := by rw [FilePath.below, List.append_nil]
  rw [expand]
  refine ⟨?_, ?_⟩
  · intro q
    constructor
    · intro hq
      split at hq
      · rename_i hsuffix
        obtain rfl := List.mem_singleton.mp hq
        exact ⟨hsuffix, [], bytes, hself.symm, at?_nil⟩
      · exact absurd hq (by simp)
    · rintro ⟨hsuffix, way, bytes', rfl, hat⟩
      cases way with
      | cons name way => exact absurd ((at?_file (List.cons_ne_nil _ _)).symm.trans hat) (by simp)
      | nil =>
        rw [hself] at hsuffix ⊢
        rw [if_pos hsuffix]
        exact List.mem_singleton_self _
  · split
    · exact List.pairwise_singleton _ _
    · exact .nil

/-- What is below the entries of a directory is below the directory. -/
theorem mem_expand_directory_iff (hnames : (entries.map Prod.fst).Nodup)
    (h : ∀ m ∈ entries, Expands suffix (path.child m.1) m.2 (expand suffix (path.child m.1) m.2)) :
    q ∈ expand suffix path (.directory entries) ↔ q.suffix = suffix ∧
      ∃ way bytes, q = path.below way ∧ (directory entries).at? way = some (.file bytes) := by
  rw [mem_expand_directory]
  constructor
  · rintro ⟨m, hm, hq⟩
    obtain ⟨hsuffix, way, bytes, rfl, hat⟩ := ((h m hm).mem_iff q).mp hq
    refine ⟨hsuffix, m.1 :: way, bytes, path.child_below m.1 way, ?_⟩
    rw [at?_cons (find?_of_mem hnames hm), hat]
  · rintro ⟨hsuffix, way, bytes, rfl, hat⟩
    cases way with
    | nil => exact absurd (at?_nil.symm.trans hat) (by simp)
    | cons name way =>
      obtain ⟨_, e, ⟨⟩, hfind, hat⟩ := exists_child hat
      have hm := mem_of_find? hfind
      refine ⟨(name, e), hm, ((h _ hm).mem_iff _).mpr ?_⟩
      exact ⟨hsuffix, way, bytes, (path.child_below name way).symm, hat⟩

/-- What is below one entry comes before what is below an entry with a larger name. -/
theorem pairwise_expand_directory (hnames : (entries.map Prod.fst).Nodup)
    (h : ∀ m ∈ entries, Expands suffix (path.child m.1) m.2 (expand suffix (path.child m.1) m.2)) :
    (expand suffix path (.directory entries)).Pairwise Precedes := by
  rw [expand, expandEntries_eq_map, List.pairwise_flatMap]
  have hparts : ∀ r ∈ byName (entries.map fun m => (m.1, expand suffix (path.child m.1) m.2)),
      ∃ m ∈ entries, r = (m.1, expand suffix (path.child m.1) m.2) := by
    intro r hr
    rw [byName, List.mem_mergeSort, List.mem_map] at hr
    obtain ⟨m, hm, rfl⟩ := hr
    exact ⟨m, hm, rfl⟩
  constructor
  · intro r hr
    obtain ⟨m, hm, rfl⟩ := hparts r hr
    exact (h m hm).ordered
  · have hnodup : ((entries.map fun m => (m.1, expand suffix (path.child m.1) m.2)).map
        Prod.fst).Nodup := by
      rwa [List.map_map]
    have hstrict := pairwise_byName hnodup
    refine hstrict.imp_of_mem fun {r r'} hr hr' hlt q hq q' hq' => ?_
    obtain ⟨m, hm, rfl⟩ := hparts r hr
    obtain ⟨m', hm', rfl⟩ := hparts r' hr'
    obtain ⟨-, v, -, rfl, -⟩ := ((h m hm).mem_iff q).mp hq
    obtain ⟨-, w, -, rfl, -⟩ := ((h m' hm').mem_iff q').mp hq'
    rw [FilePath.child_below, FilePath.child_below]
    exact .intro path.root path.names v w hlt

/-- **The recursion over a tree collects its documents.**  By induction on the tree. -/
theorem expands_expand (h : e.Proper) (path : FilePath) :
    Expands suffix path e (expand suffix path e) := by
  induction h generalizing path with
  | file bytes => exact expands_file bytes
  | directory hnames _ _ ih =>
    have hentries := fun m hm => ih m hm (path.child m.1)
    exact ⟨fun _ => mem_expand_directory_iff hnames hentries,
      pairwise_expand_directory hnames hentries⟩

/-! ## 4. First copies -/

/-- A list that has each path of another once, where its first copy stands. -/
structure FirstCopies (all kept : List FilePath) : Prop where
  mem_iff : ∀ q, q ∈ kept ↔ q ∈ all
  ordered : kept.Pairwise fun p q => all.idxOf p < all.idxOf q

theorem FirstCopies.nodup (h : FirstCopies l kept) : kept.Nodup :=
  h.ordered.imp fun hlt heq => absurd (heq ▸ hlt) (Nat.lt_irrefl _)

theorem FirstCopies.unique (h : FirstCopies l kept) (h' : FirstCopies l m) : kept = m := by
  have hirrefl : Std.Irrefl fun p q => l.idxOf p < l.idxOf q := ⟨fun _ => Nat.lt_irrefl _⟩
  have hantisymm : Std.Antisymm fun p q => l.idxOf p < l.idxOf q :=
    ⟨fun _ _ hpq hqp => absurd hqp (Nat.lt_asymm hpq)⟩
  exact h.ordered.eq_of_mem_iff h'.ordered fun q => (h.mem_iff q).trans (h'.mem_iff q).symm

theorem mem_firsts : q ∈ firsts l ↔ q ∈ l := by
  induction l with
  | nil => rw [firsts]
  | cons p l ih =>
    by_cases hq : q = p
    · simp [firsts, hq]
    · simp [firsts, hq, ih]

theorem firstCopies_firsts : FirstCopies l (firsts l) := by
  refine ⟨fun q => mem_firsts, ?_⟩
  induction l with
  | nil => exact .nil
  | cons p l ih =>
    have hne : ∀ q ∈ (firsts l).filter (· != p), p ≠ q := by
      intro q hq
      rw [List.mem_filter, bne_iff_ne] at hq
      exact hq.2.symm
    rw [firsts, List.pairwise_cons]
    constructor
    · intro q hq
      rw [List.idxOf_cons_self, List.idxOf_cons_ne l (hne q hq)]
      exact Nat.succ_pos _
    · refine (ih.filter _).imp_of_mem fun {q r} hq hr hlt => ?_
      rw [List.idxOf_cons_ne l (hne q hq), List.idxOf_cons_ne l (hne r hr)]
      exact Nat.succ_lt_succ hlt

/-- Paths behind others change nothing in front. -/
theorem firsts_append : firsts (l ++ m) = firsts l ++ (firsts m).filter (· ∉ l) := by
  induction l with
  | nil => simp [firsts]
  | cons p l ih =>
    rw [List.cons_append, firsts, firsts, ih, List.filter_append, List.filter_filter,
      List.cons_append]
    congr 2
    refine List.filter_congr fun q _ => ?_
    by_cases hq : q = p
    · simp [hq]
    · simp [hq]

/-! ## 5. Templates -/

variable {lookup : Text → Option Text} {tree : FileTree} {written : Text} {templates : List Text}
  {paths : List FilePath} {error : Error}

/-- A template has a path, and something stands there. -/
def Reaches (lookup : Text → Option Text) (tree : FileTree) (written : Text) (path : FilePath)
    (e : Entry) : Prop :=
  ∃ resolved, PathTemplate.resolve lookup written = .ok resolved ∧
    path = FilePath.ofText resolved ∧ tree.entry? path = some e

/-- The documents that a template leads to. -/
def Leads (lookup : Text → Option Text) (suffix : Text) (tree : FileTree) (written : Text)
    (found : List FilePath) : Prop :=
  ∃ path e, Reaches lookup tree written path e ∧ Expands suffix path e found

/-- The error of a template that has no path, or one where nothing stands. -/
inductive Fails (lookup : Text → Option Text) (tree : FileTree) (written : Text) : Error → Prop
  | template {e : TemplateError} : PathTemplate.resolve lookup written = .error e →
    Fails lookup tree written (.template e)
  | missing {resolved : Text} : PathTemplate.resolve lookup written = .ok resolved →
    tree.entry? (FilePath.ofText resolved) = none →
    Fails lookup tree written (.missing (FilePath.ofText resolved) written)

theorem expandTemplate_of_leads (h : tree.root.Proper)
    (hleads : Leads lookup suffix tree written found) :
    expandTemplate lookup suffix tree written = .ok found := by
  obtain ⟨_, e, ⟨resolved, hresolve, rfl, he⟩, hexpands⟩ := hleads
  rw [expandTemplate, hresolve]
  simp only [he]
  rw [(expands_expand (FileTree.proper_of_found h he) _).unique hexpands]

theorem expandTemplate_of_fails (h : Fails lookup tree written error) :
    expandTemplate lookup suffix tree written = .error error := by
  rw [expandTemplate]
  cases h with
  | template herror => rw [herror]
  | missing hresolve hnone =>
    rw [hresolve]
    simp only [hnone]

/-- A template leads to documents, or it fails. -/
theorem leads_or_fails (h : tree.root.Proper) (lookup : Text → Option Text) (suffix : Text)
    (written : Text) :
    (∃ found, Leads lookup suffix tree written found) ∨
      ∃ error, Fails lookup tree written error := by
  cases hresolve : PathTemplate.resolve lookup written with
  | error e => exact .inr ⟨_, .template hresolve⟩
  | ok resolved =>
    cases hentry : tree.entry? (FilePath.ofText resolved) with
    | none => exact .inr ⟨_, .missing hresolve hentry⟩
    | some e =>
      exact .inl ⟨_, _, e, ⟨resolved, hresolve, rfl, hentry⟩,
        expands_expand (FileTree.proper_of_found h hentry) _⟩

theorem expandTemplate_ok_iff (h : tree.root.Proper) :
    expandTemplate lookup suffix tree written = .ok found ↔
      Leads lookup suffix tree written found := by
  refine ⟨fun hok => ?_, expandTemplate_of_leads h⟩
  rcases leads_or_fails h lookup suffix written with ⟨l, hleads⟩ | ⟨e, hfails⟩
  · rwa [Except.ok.inj (hok.symm.trans (expandTemplate_of_leads h hleads))]
  · exact absurd (hok.symm.trans (expandTemplate_of_fails hfails)) (by simp)

theorem expandTemplate_error_iff (h : tree.root.Proper) :
    expandTemplate lookup suffix tree written = .error error ↔
      Fails lookup tree written error := by
  refine ⟨fun herror => ?_, expandTemplate_of_fails⟩
  rcases leads_or_fails h lookup suffix written with ⟨l, hleads⟩ | ⟨e, hfails⟩
  · exact absurd (herror.symm.trans (expandTemplate_of_leads h hleads)) (by simp)
  · rwa [Except.error.inj (herror.symm.trans (expandTemplate_of_fails hfails))]

/-- A template that leads somewhere does not fail. -/
theorem exists_leads_iff (h : tree.root.Proper) :
    (∃ found, Leads lookup suffix tree written found) ↔ ∀ e, ¬ Fails lookup tree written e := by
  constructor
  · rintro ⟨found, hleads⟩ e hfails
    exact absurd ((expandTemplate_of_leads h hleads).symm.trans (expandTemplate_of_fails hfails))
      (by simp)
  · intro hnone
    rcases leads_or_fails h lookup suffix written with hleads | ⟨e, hfails⟩
    · exact hleads
    · exact absurd hfails (hnone e)

/-! ## 6. What is found -/

theorem find_ok_iff_mapM : find lookup suffix tree templates = .ok paths ↔
    ∃ found, templates.mapM (expandTemplate lookup suffix tree) = .ok found ∧
      paths = firsts found.flatten :=
  except_map_ok_iff

/-- **The documents that are found** are the first copies of those that the templates lead to. -/
theorem find_ok_iff (h : tree.root.Proper) : find lookup suffix tree templates = .ok paths ↔
    ∃ found, List.Forall₂ (Leads lookup suffix tree) templates found ∧
      FirstCopies found.flatten paths := by
  have hleads : ∀ found, templates.mapM (expandTemplate lookup suffix tree) = .ok found ↔
      List.Forall₂ (Leads lookup suffix tree) templates found := by
    intro found
    rw [mapM_ok_iff_map, ← List.forall₂_eq_eq_eq, List.forall₂_map_left_iff,
      List.forall₂_map_right_iff]
    simp only [expandTemplate_ok_iff h]
  rw [find_ok_iff_mapM]
  constructor
  · rintro ⟨found, hfound, rfl⟩
    exact ⟨found, (hleads found).mp hfound, firstCopies_firsts⟩
  · rintro ⟨found, hfound, hfirst⟩
    exact ⟨found, (hleads found).mpr hfound, hfirst.unique firstCopies_firsts⟩

/-- **The first template that fails** ends the search with its error. -/
theorem find_error_iff (h : tree.root.Proper) :
    find lookup suffix tree templates = .error error ↔ ∃ front written behind,
      templates = front ++ written :: behind ∧ Fails lookup tree written error ∧
        ∀ t ∈ front, ∀ e, ¬ Fails lookup tree t e := by
  have hmapM : find lookup suffix tree templates = .error error ↔
      templates.mapM (expandTemplate lookup suffix tree) = .error error := by
    rw [find]
    cases templates.mapM (expandTemplate lookup suffix tree) with
    | error e => simp [bind, Except.bind]
    | ok found => simp [bind, Except.bind, pure, Except.pure]
  rw [hmapM, mapM_error_iff]
  simp only [expandTemplate_ok_iff h, expandTemplate_error_iff h, exists_leads_iff h]

/-- The templates that are behind others find nothing that comes in front. -/
theorem find_append {more : List Text} {longer : List FilePath}
    (hfound : find lookup suffix tree templates = .ok paths)
    (hmore : find lookup suffix tree (templates ++ more) = .ok longer) : paths <+: longer := by
  obtain ⟨found, hparts, rfl⟩ := find_ok_iff_mapM.mp hfound
  obtain ⟨both, hboth, rfl⟩ := find_ok_iff_mapM.mp hmore
  rw [mapM_ok_iff_map, List.map_append] at hboth
  rw [mapM_ok_iff_map] at hparts
  obtain ⟨front, behind, rfl, hfront, -⟩ := List.map_eq_append_iff.mp hboth.symm
  have hsame : front = found :=
    (List.map_inj_right fun _ _ => Except.ok.inj).mp (hfront.trans hparts)
  rw [hsame, List.flatten_append, firsts_append]
  exact List.prefix_append _ _

/-- **Which paths are found**: those of the files with the suffix at and below the templates'
paths. -/
theorem mem_paths_iff (h : tree.root.Proper)
    (hfound : find lookup suffix tree templates = .ok paths) :
    q ∈ paths ↔ q.suffix = suffix ∧ ∃ written ∈ templates, ∃ path e,
      Reaches lookup tree written path e ∧
        ∃ way bytes, q = path.below way ∧ e.at? way = some (.file bytes) := by
  obtain ⟨found, hparts, rfl⟩ := find_ok_iff_mapM.mp hfound
  rw [mapM_ok_iff_map] at hparts
  have hpart : ∀ l, l ∈ found ↔ ∃ written ∈ templates, Leads lookup suffix tree written l := by
    intro l
    rw [← List.mem_map_of_injective fun _ _ => Except.ok.inj, ← hparts, List.mem_map]
    simp only [expandTemplate_ok_iff h]
  rw [mem_firsts, List.mem_flatten]
  constructor
  · rintro ⟨l, hl, hq⟩
    obtain ⟨written, hwritten, path, e, hreaches, hexpands⟩ := (hpart l).mp hl
    obtain ⟨hsuffix, hway⟩ := (hexpands.mem_iff q).mp hq
    exact ⟨hsuffix, written, hwritten, path, e, hreaches, hway⟩
  · rintro ⟨hsuffix, written, hwritten, path, e, hreaches, hway⟩
    obtain ⟨resolved, -, rfl, he⟩ := id hreaches
    have hexpands : Expands suffix (FilePath.ofText resolved) e _ :=
      expands_expand (FileTree.proper_of_found h he) (FilePath.ofText resolved)
    exact ⟨_, (hpart _).mpr ⟨written, hwritten, _, e, hreaches, hexpands⟩,
      (hexpands.mem_iff q).mpr ⟨hsuffix, hway⟩⟩

/-- What a search finds. -/
structure Finds (lookup : Text → Option Text) (suffix : Text) (tree : FileTree)
    (templates : List Text) : Prop where
  /-- It finds the first copies of the documents that each template leads to, in their order. -/
  documents : ∀ paths, find lookup suffix tree templates = .ok paths ↔
    ∃ found, List.Forall₂ (Leads lookup suffix tree) templates found ∧
      FirstCopies found.flatten paths
  /-- No path is found twice. -/
  nodup : ∀ paths, find lookup suffix tree templates = .ok paths → paths.Nodup
  /-- The paths are those of all files with the suffix at and below the templates' paths. -/
  mem_iff : ∀ paths, find lookup suffix tree templates = .ok paths →
    ∀ q, q ∈ paths ↔ q.suffix = suffix ∧ ∃ written ∈ templates, ∃ path e,
      Reaches lookup tree written path e ∧
        ∃ way bytes, q = path.below way ∧ e.at? way = some (.file bytes)
  /-- No directory is found. -/
  files : ∀ paths, find lookup suffix tree templates = .ok paths →
    ∀ q ∈ paths, ∃ bytes, tree.entry? q = some (.file bytes)
  /-- More templates only add what comes behind. -/
  grows : ∀ paths more longer, find lookup suffix tree templates = .ok paths →
    find lookup suffix tree (templates ++ more) = .ok longer → paths <+: longer
  /-- There is an error exactly where a template fails. -/
  fails : (∃ error, find lookup suffix tree templates = .error error) ↔
    ∃ written ∈ templates, ∃ error, Fails lookup tree written error
  /-- It is that of the first template that fails. -/
  first : ∀ error, find lookup suffix tree templates = .error error ↔ ∃ front written behind,
    templates = front ++ written :: behind ∧ Fails lookup tree written error ∧
      ∀ t ∈ front, ∀ e, ¬ Fails lookup tree t e

/-- Where a template fails there is an error. -/
theorem exists_error_iff (h : tree.root.Proper) :
    (∃ error, find lookup suffix tree templates = .error error) ↔
      ∃ written ∈ templates, ∃ error, Fails lookup tree written error := by
  constructor
  · rintro ⟨error, herror⟩
    obtain ⟨front, written, behind, rfl, hfails, -⟩ := (find_error_iff h).mp herror
    exact ⟨written, by simp, error, hfails⟩
  · rintro ⟨written, hwritten, error, hfails⟩
    cases hfind : find lookup suffix tree templates with
    | error e => exact ⟨e, rfl⟩
    | ok paths =>
      obtain ⟨found, hparts, -⟩ := find_ok_iff_mapM.mp hfind
      rw [mapM_ok_iff_map] at hparts
      have hmem := List.mem_map_of_mem (f := expandTemplate lookup suffix tree) hwritten
      rw [hparts, expandTemplate_of_fails hfails] at hmem
      exact absurd hmem (by simp)

/-- **What a search finds**, in every tree of a file system. -/
theorem find_finds (lookup : Text → Option Text) (suffix : Text) {tree : FileTree}
    (h : tree.root.Proper) (templates : List Text) : Finds lookup suffix tree templates where
  documents _ := find_ok_iff h
  nodup paths hfound := by
    obtain ⟨found, -, hfirst⟩ := (find_ok_iff h).mp hfound
    exact hfirst.nodup
  mem_iff _ hfound _ := mem_paths_iff h hfound
  files paths hfound q hq := by
    obtain ⟨-, written, -, path, e, ⟨resolved, -, -, he⟩, way, bytes, rfl, hat⟩ :=
      (mem_paths_iff h hfound).mp hq
    exact ⟨bytes, FileTree.entry?_below h he hat⟩
  grows _ _ _ := find_append
  fails := exists_error_iff h
  first _ := find_error_iff h

/-- The entries of a directory with a document and another file. -/
def innerEntries : List (Text × Entry) := [("c.surql", .file []), ("notes", .file [])]

/-- The entries of a directory with a document and with that directory, out of order. -/
def outerEntries : List (Text × Entry) :=
  [("b.surql", .file []), ("a", .directory innerEntries)]

/-- A tree with documents at two depths. -/
def smallTree : FileTree := ⟨.directory [("src", .directory outerEntries)], []⟩

/-- An environment with a variable for the outer directory. -/
def smallLookup (name : Text) : Option Text := if name = Text.of "D" then some "src" else none

/-- A document by way of a directory beside it, that directory, and the one above both. -/
def smallTemplates : List Text := ["src/a/../b.surql", "$D/a", "$D"]

theorem smallTree_proper : smallTree.root.Proper := by
  have hinner : Proper (.directory innerEntries) :=
    .directory (by simp [innerEntries]) (by decide +kernel) (by simp [innerEntries, Proper.file])
  have houter : Proper (.directory outerEntries) :=
    .directory (by simp [outerEntries]) (by decide +kernel)
      (by simp [outerEntries, Proper.file, hinner])
  exact .directory (by simp) (by decide +kernel) (by simp [houter])

theorem byName_pair {α : Type} (a b : Text × α) :
    byName [a, b] = if a.1.le b.1 then [a, b] else [b, a] := by
  simp [byName, List.mergeSort, List.merge, List.MergeSort.Internal.splitInTwo]

theorem expand_inner : expand ".surql" ⟨[], ["src", "a"]⟩ (.directory innerEntries) =
    [⟨[], ["src", "a", "c.surql"]⟩] := by
  simp only [innerEntries, expand, expandEntries, byName_pair]
  decide +kernel

theorem expand_outer : expand ".surql" ⟨[], ["src"]⟩ (.directory outerEntries) =
    [⟨[], ["src", "a", "c.surql"]⟩, ⟨[], ["src", "b.surql"]⟩] := by
  have hinner : expand ".surql" (FilePath.child ⟨[], ["src"]⟩ "a") (.directory innerEntries) = _ :=
    expand_inner
  rw [outerEntries, expand, expandEntries, expandEntries, expandEntries, byName_pair, hinner]
  decide +kernel

theorem find_small : find smallLookup ".surql" smallTree smallTemplates =
    .ok [⟨[], ["src", "a", "..", "b.surql"]⟩, ⟨[], ["src", "a", "c.surql"]⟩,
      ⟨[], ["src", "b.surql"]⟩] := by
  have hfile : expandTemplate smallLookup ".surql" smallTree "src/a/../b.surql" =
      .ok [⟨[], ["src", "a", "..", "b.surql"]⟩] := ok_of_toOption (by decide +kernel)
  have hinner : expandTemplate smallLookup ".surql" smallTree "$D/a" =
      .ok (expand ".surql" ⟨[], ["src", "a"]⟩ (.directory innerEntries)) := by
    with_unfolding_all rfl
  have houter : expandTemplate smallLookup ".surql" smallTree "$D" =
      .ok (expand ".surql" ⟨[], ["src"]⟩ (.directory outerEntries)) := by
    with_unfolding_all rfl
  have hmap : smallTemplates.mapM (expandTemplate smallLookup ".surql" smallTree) =
      .ok [[⟨[], ["src", "a", "..", "b.surql"]⟩], [⟨[], ["src", "a", "c.surql"]⟩],
        [⟨[], ["src", "a", "c.surql"]⟩, ⟨[], ["src", "b.surql"]⟩]] := by
    rw [mapM_ok_iff_map, smallTemplates, List.map_cons, List.map_cons, List.map_cons, hfile,
      hinner, houter, expand_inner, expand_outer]
    rfl
  exact find_ok_iff_mapM.mpr ⟨_, hmap, by decide +kernel⟩

/-- The document beside the inner directory is found on two paths, and the one in it is found twice
on one. -/
theorem find_finds_overlapping :
    smallTree.root.Proper ∧ Finds smallLookup ".surql" smallTree smallTemplates ∧
      find smallLookup ".surql" smallTree smallTemplates =
        .ok [⟨[], ["src", "a", "..", "b.surql"]⟩, ⟨[], ["src", "a", "c.surql"]⟩,
          ⟨[], ["src", "b.surql"]⟩] :=
  ⟨smallTree_proper, find_finds _ _ smallTree_proper _, find_small⟩

end Discovery

end StoredFunctions
