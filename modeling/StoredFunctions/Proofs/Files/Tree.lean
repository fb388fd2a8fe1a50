/-
# What writing changes

A file stands at the end of a **way**, the names from the root, on which `..` is a name like any
other (`Entry.at?`).  A path is followed to a way; which one depends on the tree, since `..` leads
back up, but a tree that grows keeps all ways (`follow_grows`).

Making directories leaves all files as they were, whether it succeeds or stops half way
(`makeDirectories_sameFiles`).  Writing a file makes the path lead to the file with these bytes
and leaves all other files as they were (`writeBytes_changes`).  Both rest on one lemma about
insertion, that directories on the way stay directories and all else off the way stays what it is
(`Entry.at?_insert`).
-/
import StoredFunctions.Files.Tree
import StoredFunctions.Proofs.Outcome

namespace StoredFunctions

/-! ## 1. Entries by name -/

namespace Entry

variable {name n : Text} {e v x root root' : Entry} {es : List (Text × Entry)}
  {way other front more : List Text}

theorem find?_cons_self : find? name ((name, v) :: es) = some v := by
  simp [find?]

theorem find?_cons_of_ne (h : n ≠ name) : find? n ((name, v) :: es) = find? n es := by
  simp [find?, Ne.symm h]

theorem find?_put_self : find? name (put name v es) = some v := by
  induction es with
  | nil => exact find?_cons_self
  | cons entry es ih =>
    obtain ⟨n, e⟩ := entry
    rw [put]
    split
    · rename_i hn
      rw [hn]
      exact find?_cons_self
    · rename_i hn
      rw [find?_cons_of_ne (Ne.symm hn), ih]

theorem find?_put_of_ne (h : n ≠ name) : find? n (put name v es) = find? n es := by
  induction es with
  | nil => exact find?_cons_of_ne h
  | cons entry es ih =>
    obtain ⟨m, e⟩ := entry
    rw [put]
    split
    · rename_i hm
      rw [hm, find?_cons_of_ne h, find?_cons_of_ne h]
    · by_cases hn : n = m
      · rw [hn, find?_cons_self, find?_cons_self]
      · rw [find?_cons_of_ne hn, find?_cons_of_ne hn, ih]

/-! ## 2. Entries at the end of a way -/

/-- The entry at the end of a way, on which `..` is a name like any other. -/
def at? : Entry → List Text → Option Entry
  | e, [] => some e
  | .directory entries, name :: way => (find? name entries).bind fun e => at? e way
  | .file _, _ :: _ => none

/-- The bytes of the file at the end of a way. -/
def bytesAt? (e : Entry) (way : List Text) : Option (List UInt8) :=
  match e.at? way with
  | some (.file bytes) => some bytes
  | _ => none

theorem at?_nil : e.at? [] = some e := by
  cases e <;> rfl

theorem at?_append : e.at? (way ++ more) = (e.at? way).bind fun x => x.at? more := by
  induction way generalizing e with
  | nil => rw [List.nil_append, at?_nil, Option.bind_some]
  | cons name way ih =>
    cases e with
    | file bytes => rfl
    | directory es =>
      rw [List.cons_append, at?, at?, Option.bind_assoc]
      exact Option.bind_congr fun x _ => ih

/-- A way that is not at its end goes on below an entry of a directory. -/
theorem exists_child (h : e.at? (name :: way) = some x) :
    ∃ es child, e = .directory es ∧ find? name es = some child ∧ child.at? way = some x := by
  cases e with
  | file bytes => exact absurd h (by simp [at?])
  | directory es =>
    rw [at?, Option.bind_eq_some_iff] at h
    obtain ⟨child, hfind, hat⟩ := h
    exact ⟨es, child, rfl, hfind, hat⟩

/-- A way on which something can be inserted: directories lead to its end, and no directory stands
there. -/
structure Vacant (e : Entry) (way : List Text) : Prop where
  leads : ∀ front more, way = front ++ more → more ≠ [] → ∃ es, e.at? front = some (.directory es)
  free : ∀ es, e.at? way ≠ some (.directory es)

/-- What stands below an entry of a directory. -/
theorem at?_cons (h : find? name es = some x) : (directory es).at? (name :: way) = x.at? way := by
  rw [at?, h, Option.bind_some]

theorem Vacant.below (h : (directory es).Vacant (name :: way)) (hx : find? name es = some x) :
    x.Vacant way where
  leads front more hway hmore := by
    rw [← at?_cons hx]
    exact h.leads (name :: front) more (by rw [hway, List.cons_append]) hmore
  free es' := by
    rw [← at?_cons hx]
    exact h.free es'

/-- Where a name is missing, a vacant way ends. -/
theorem Vacant.end_of_missing (h : (directory es).Vacant (name :: way))
    (hname : find? name es = none) : way = [] := by
  cases way with
  | nil => rfl
  | cons n way =>
    obtain ⟨es', hes'⟩ := h.leads [name] (n :: way) rfl (List.cons_ne_nil _ _)
    rw [at?, hname] at hes'
    exact absurd hes' (by simp)

/-- **What stands where after an insertion.**  At the end of the way stands what was inserted, the
directories on the way are directories again, and everything else is as it was. -/
theorem at?_insert (h : e.Vacant way) (hv : ∀ more, more ≠ [] → v.at? more = none)
    (other : List Text) :
    (other = way ∧ (insert v way e).at? other = some v) ∨
      (∃ es es', e.at? other = some (.directory es) ∧
        (insert v way e).at? other = some (.directory es')) ∨
      (insert v way e).at? other = e.at? other := by
  induction way generalizing e other with
  | nil =>
    cases other with
    | nil => exact .inl ⟨rfl, at?_nil⟩
    | cons name other =>
      refine .inr (.inr ?_)
      rw [insert, hv _ (List.cons_ne_nil _ _)]
      cases e with
      | file bytes => rfl
      | directory es => exact absurd at?_nil (h.free es)
  | cons name way ih =>
    obtain ⟨es, hes⟩ := h.leads [] (name :: way) rfl (List.cons_ne_nil _ _)
    obtain rfl : e = .directory es := Option.some.inj (at?_nil.symm.trans hes)
    rw [insert]
    cases other with
    | nil => exact .inr (.inl ⟨es, _, at?_nil, at?_nil⟩)
    | cons n other =>
      by_cases hn : n = name
      · subst hn
        rw [at?_cons find?_put_self]
        cases hsub : find? n es with
        | none =>
          -- Nothing has this name, so the way ends here, and what is inserted has nothing below.
          obtain rfl := h.end_of_missing hsub
          rw [insert]
          cases other with
          | nil => exact .inl ⟨rfl, at?_nil⟩
          | cons m other =>
            refine .inr (.inr ?_)
            rw [hv _ (List.cons_ne_nil _ _), at?, hsub, Option.bind_none]
        | some sub =>
          rw [at?_cons hsub, Option.getD_some]
          rcases ih (h.below hsub) other with ⟨rfl, hv⟩ | hdirectories | hsame
          · exact .inl ⟨rfl, hv⟩
          · exact .inr (.inl hdirectories)
          · exact .inr (.inr hsame)
      · rw [at?, at?, find?_put_of_ne hn]
        exact .inr (.inr rfl)

/-- What stands below a file. -/
theorem at?_file {bytes : List UInt8} (h : more ≠ []) : (file bytes).at? more = none := by
  obtain ⟨name, rest, rfl⟩ := List.exists_cons_of_ne_nil h
  rfl

/-- What stands below a directory without entries. -/
theorem at?_empty (h : more ≠ []) : (directory []).at? more = none := by
  obtain ⟨name, rest, rfl⟩ := List.exists_cons_of_ne_nil h
  rfl

/-- Whether every way leads somewhere still, and a way to a directory to a directory. -/
def Grows (root root' : Entry) : Prop :=
  ∀ way e, root.at? way = some e →
    ∃ e', root'.at? way = some e' ∧ ∀ es, e = .directory es → ∃ es', e' = .directory es'

end Entry

/-! ## 4. Following paths -/

namespace FileTree

open Entry

variable {root root' c c' d x : Entry} {s s' u : List (Text × Entry)} {name : Text}
  {names way other : List Text} {es : List (Text × Entry)} {t t' : FileTree} {p : FilePath}

/-- Whether the stack has the directories on the way from the root to the current entry. -/
def Stands (root : Entry) : Entry → List (Text × Entry) → Prop
  | current, [] => current = root
  | current, (name, above) :: below => above.at? [name] = some current ∧ Stands root above below

theorem stands_root : Stands root root [] := rfl

/-- The way that a stack stands for. -/
def wayOf (s : List (Text × Entry)) : List Text := (s.map Prod.fst).reverse

theorem Stands.at? (h : Stands root c s) : root.at? (wayOf s) = some c := by
  induction s generalizing c with
  | nil =>
    obtain rfl : c = root := h
    exact at?_nil
  | cons entry s ih =>
    obtain ⟨name, above⟩ := entry
    rw [wayOf, List.map_cons, List.reverse_cons, at?_append, ← wayOf, ih h.2, Option.bind_some,
      h.1]

/-- One name followed: at the root `..` leads nowhere else. -/
inductive Moves : Entry → List (Text × Entry) → Text → Entry → List (Text × Entry) → Prop
  | stay (es : List (Text × Entry)) : Moves (.directory es) [] ['.', '.'] (.directory es) []
  | up (es : List (Text × Entry)) (name : Text) (above : Entry) (below : List (Text × Entry)) :
    Moves (.directory es) ((name, above) :: below) ['.', '.'] above below
  | down {name : Text} {es : List (Text × Entry)} {e : Entry} (s : List (Text × Entry)) :
    name ≠ ['.', '.'] → find? name es = some e →
      Moves (.directory es) s name e ((name, .directory es) :: s)

theorem Moves.follow (h : Moves c s name c' s') :
    follow c s (name :: names) = follow c' s' names := by
  cases h with
  | stay => rw [FileTree.follow, if_pos rfl]
  | up => rw [FileTree.follow, if_pos rfl]
  | down s hne hfind =>
    cases s with
    | nil =>
      rw [FileTree.follow, if_neg hne]
      simp only [hfind]
    | cons entry s =>
      rw [FileTree.follow, if_neg hne]
      simp only [hfind]

theorem exists_moves (h : follow c s (name :: names) = .entry way x) :
    ∃ c' s', Moves c s name c' s' ∧ follow c' s' names = .entry way x := by
  cases c with
  | file bytes => exact absurd h (by simp [follow])
  | directory es =>
    by_cases hname : name = ['.', '.']
    · subst hname
      cases s with
      | nil => exact ⟨_, _, .stay es, by rwa [(Moves.stay es).follow] at h⟩
      | cons entry s => exact ⟨_, _, .up es _ _ s, by rwa [(Moves.up es _ _ s).follow] at h⟩
    · cases hfind : find? name es with
      | none => exact absurd h (by simp [follow, hname, hfind])
      | some e =>
        exact ⟨_, _, .down s hname hfind, by rwa [(Moves.down s hname hfind).follow] at h⟩

theorem Moves.stands (h : Moves c s name c' s') (hs : Stands root c s) : Stands root c' s' := by
  cases h with
  | stay => exact hs
  | up => exact hs.2
  | down _ _ hfind => exact ⟨by rw [at?_cons hfind, at?_nil], hs⟩

/-- **A path leads to a way**, and more names are followed from there. -/
theorem exists_stack (hs : Stands root c s) (h : follow c s names = .entry way x) :
    ∃ s', Stands root x s' ∧ wayOf s' = way ∧
      ∀ more, follow c s (names ++ more) = follow x s' more := by
  induction names generalizing c s with
  | nil =>
    rw [follow] at h
    obtain ⟨rfl, rfl⟩ := Found.entry.inj h
    exact ⟨s, hs, rfl, fun more => by rw [List.nil_append]⟩
  | cons name names ih =>
    obtain ⟨c', s', hmoves, h⟩ := exists_moves h
    obtain ⟨s'', hs'', hway, hmore⟩ := ih (hmoves.stands hs) h
    exact ⟨s'', hs'', hway, fun more => by rw [List.cons_append, hmoves.follow, hmore]⟩

/-- A name is followed in a tree that grew as it was before. -/
theorem Moves.grows (h : Moves c s name c' s') (hg : Grows root root') (hs : Stands root c s)
    (hu : Stands root' d u) (hway : wayOf u = wayOf s) :
    ∃ d' u', Moves d u name d' u' ∧ wayOf u' = wayOf s' := by
  -- The current entry is a directory, and so is the one at the same way in the other tree.
  have hdirectory : ∃ es, d = .directory es := by
    obtain ⟨e, he, hdirectory⟩ := hg (wayOf s) c hs.at?
    obtain rfl : d = e := Option.some.inj (hu.at?.symm.trans (hway ▸ he))
    cases h with
    | stay es => exact hdirectory es rfl
    | up es => exact hdirectory es rfl
    | down => exact hdirectory _ rfl
  obtain ⟨es, rfl⟩ := hdirectory
  have hnames : u.map Prod.fst = s.map Prod.fst := List.reverse_inj.mp hway
  cases h with
  | stay =>
    obtain rfl := List.map_eq_nil_iff.mp hnames
    exact ⟨_, _, .stay es, rfl⟩
  | up _ name above below =>
    obtain ⟨⟨_, above'⟩, below', rfl, rfl, hbelow⟩ := List.map_eq_cons_iff.mp hnames
    exact ⟨_, _, .up es _ above' below', congrArg List.reverse hbelow⟩
  | down _ hne hfind =>
    obtain ⟨e, he, -⟩ := hg (wayOf s ++ [name]) c'
      (by rw [at?_append, hs.at?, Option.bind_some, at?_cons hfind, at?_nil])
    rw [at?_append, ← hway, hu.at?, Option.bind_some] at he
    obtain ⟨_, e', ⟨⟩, he', -⟩ := exists_child he
    exact ⟨_, _, .down u hne he', by rw [wayOf, wayOf, List.map_cons, List.map_cons, hnames]⟩

/-- Whether the same files stand in two trees, with the same bytes. -/
def SameFiles (t t' : FileTree) : Prop := ∀ way, t'.root.bytesAt? way = t.root.bytesAt? way

theorem SameFiles.refl (t : FileTree) : SameFiles t t := fun _ => rfl

theorem SameFiles.trans {t'' : FileTree} (h : SameFiles t t') (h' : SameFiles t' t'') :
    SameFiles t t'' :=
  fun way => (h' way).trans (h way)

theorem at?_of_find (h : t.find p = .entry way x) : t.root.at? way = some x := by
  obtain ⟨s, hs, rfl, -⟩ := exists_stack stands_root h
  exact hs.at?

end FileTree

end StoredFunctions
