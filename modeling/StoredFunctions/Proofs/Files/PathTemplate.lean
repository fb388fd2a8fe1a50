/-
# Templates are filled in one pass

A template is cut, from left to right, into runs without `$` and references to variables (`Cut`),
where a reference takes the longest name that stands behind its `$` (`Longest`).  There is one such
cut at most, and the template is filled piece by piece: runs stay as they are, and a reference
becomes its value, which is not looked at again even if there is a `$` in it.

Which templates are filled, and why the others are not, is decided by each `$` alone, from the text
behind it: it is `Sound` or it `Offends`.  If all are sound there is a path, and otherwise the
leftmost that offends gives the error (`resolve_in_one_pass`).
-/
import Mathlib.Data.List.TakeWhile
import StoredFunctions.Files.PathTemplate

namespace StoredFunctions.PathTemplate

variable {lookup : Text → Option Text} {raw t u name front rest behind run : Text} {c : Char}
  {e e' : TemplateError}

/-! ## 1. Names -/

/-- A name of a variable: ASCII letters, digits and underscores, the first of them no digit. -/
structure IsName (name : Text) : Prop where
  start : ∃ c ∈ name.head?, isDigit c = false
  word : ∀ c ∈ name, isWordChar c = true

/-- A name in front of `behind`, where no longer name stands. -/
structure Longest (name behind : Text) : Prop where
  isName : IsName name
  longest : ∀ other, IsName other → other <+: name ++ behind → other.length ≤ name.length

theorem IsName.not_mem_dollar (h : IsName name) : '$' ∉ name := by
  intro hmem
  exact absurd (h.word _ hmem) (by decide)

/-- Two names that stand at the same place, and behind which no longer ones stand, are equal. -/
theorem Longest.unique (h : Longest name behind) (hu : Longest u rest)
    (heq : name ++ behind = u ++ rest) : name = u ∧ behind = rest := by
  have hlength : name.length = u.length :=
    le_antisymm (hu.longest name h.isName ⟨behind, heq⟩)
      (h.longest u hu.isName ⟨rest, heq.symm⟩)
  exact List.append_inj heq hlength

/-- Where a word ends, no longer name stands. -/
theorem longest_of_ends (h : IsName name) (hends : ∀ x ∈ behind.head?, isWordChar x = false) :
    Longest name behind := by
  refine ⟨h, ?_⟩
  intro other hother hfront
  by_contra hlt
  obtain ⟨extra, rfl⟩ : name <+: other :=
    List.prefix_of_prefix_length_le (List.prefix_append name behind) hfront (not_le.mp hlt).le
  cases extra with
  | nil => simp at hlt
  | cons x extra =>
    obtain ⟨rest, hrest⟩ := (List.prefix_append_right_inj name).mp hfront
    have hx : isWordChar x = true := hother.word x (by simp)
    rw [hends x (by simp [← hrest])] at hx
    exact absurd hx (by simp)

/-- **What is split off is the longest name.** -/
theorem splitName?_eq_some (h : splitName? t = some (name, rest)) :
    t = name ++ rest ∧ Longest name rest := by
  cases t with
  | nil => exact absurd h (by simp [splitName?])
  | cons c more =>
    rw [splitName?] at h
    split at h
    · rename_i hc
      rw [Bool.and_eq_true, Bool.not_eq_true'] at hc
      simp only [Option.some.injEq, Prod.mk.injEq] at h
      obtain ⟨rfl, rfl⟩ := h
      refine ⟨List.takeWhile_append_dropWhile.symm, longest_of_ends ⟨⟨c, ?_, hc.2⟩, ?_⟩ ?_⟩
      · rw [List.takeWhile_cons_of_pos hc.1]
        rfl
      · exact fun x hx => List.mem_takeWhile_imp hx
      · intro x hx
        have hne : (c :: more).dropWhile isWordChar ≠ [] := by
          intro hnil
          simp [hnil] at hx
        rw [List.head?_eq_some_head hne, Option.mem_some_iff] at hx
        rw [← hx]
        exact List.head_dropWhile_not isWordChar hne
    · exact absurd h (by simp)

/-- Where nothing is split off, no name stands. -/
theorem not_isName_of_splitName?_eq_none (h : splitName? (name ++ rest) = none) :
    ¬ IsName name := by
  intro hname
  obtain ⟨c, hc, hdigit⟩ := hname.start
  cases name with
  | nil => exact absurd hc (by simp)
  | cons x name =>
    obtain rfl : x = c := by simpa using hc
    simp [splitName?, hname.word x (by simp), hdigit] at h

/-! ## 2. Cutting a template -/

/-- A piece of a template. -/
inductive Piece where
  /-- Characters that stand for themselves. -/
  | run (t : Text)
  /-- A reference to a variable. -/
  | reference (name : Text)
  deriving DecidableEq, Repr

/-- What a piece stands for. -/
def Piece.value? (lookup : Text → Option Text) : Piece → Option Text
  | .run t => some t
  | .reference name => lookup name

/-- A template and its pieces: runs without `$`, which may be empty, and references between them. -/
inductive Cut : Text → List Piece → Prop
  | last {run : Text} : '$' ∉ run → Cut run [.run run]
  | more {run name rest : Text} {pieces : List Piece} : '$' ∉ run → Longest name rest →
      Cut rest pieces →
      Cut (run ++ '$' :: (name ++ rest)) (.run run :: .reference name :: pieces)

/-- A character in front of a template belongs to its first run. -/
theorem Cut.exists_cons {pieces : List Piece} (hc : c ≠ '$') (h : Cut raw pieces) :
    ∃ run others, pieces = .run run :: others ∧ Cut (c :: raw) (.run (c :: run) :: others) := by
  cases h with
  | last hrun => exact ⟨raw, [], rfl, .last (by simp [hrun, Ne.symm hc])⟩
  | @more run _ _ _ hrun hname hrest =>
    have hfirst : '$' ∉ c :: run := by simp [hrun, Ne.symm hc]
    exact ⟨_, _, rfl, .more hfirst hname hrest⟩

/-- Two texts are the same up to their first `$` if they are the same. -/
theorem eq_of_append_dollar (hrun : '$' ∉ run) (ht : '$' ∉ t)
    (h : run ++ '$' :: rest = t ++ '$' :: behind) : run = t ∧ rest = behind := by
  have hboth := (List.append_eq_append_iff).mp h
  rcases hboth with ⟨a, rfl, ha⟩ | ⟨a, rfl, ha⟩
  · cases a with
    | nil => exact ⟨by simp, (List.cons.inj ha).2⟩
    | cons x a =>
      obtain ⟨rfl, -⟩ := List.cons.inj ha
      exact absurd (by simp) ht
  · cases a with
    | nil => exact ⟨by simp, (List.cons.inj ha).2.symm⟩
    | cons x a =>
      obtain ⟨rfl, -⟩ := List.cons.inj ha
      exact absurd (by simp) hrun

/-- **A template is cut in one way only.** -/
theorem Cut.unique {pieces others : List Piece} (h : Cut raw pieces) (h' : Cut raw others) :
    others = pieces := by
  induction h generalizing others with
  | last hrun =>
    cases h' with
    | last _ => rfl
    | more _ _ _ => exact absurd (by simp) hrun
  | @more run name rest pieces hrun hname _ ih =>
    generalize hraw : run ++ '$' :: (name ++ rest) = raw at h'
    cases h' with
    | last hnone => exact absurd (by simp [← hraw]) hnone
    | more hrun' hname' hrest' =>
      obtain ⟨rfl, hbehind⟩ := eq_of_append_dollar hrun hrun' hraw
      obtain ⟨rfl, rfl⟩ := hname.unique hname' hbehind
      rw [ih hrest']

/-! ## 3. What stands behind a `$` -/

/-- Behind this `$` there is a name, and its longest one has a value. -/
def Sound (lookup : Text → Option Text) (rest : Text) : Prop :=
  ∃ name behind value, rest = name ++ behind ∧ Longest name behind ∧ lookup name = some value

/-- The error of a `$` with this text behind it. -/
inductive Offends (lookup : Text → Option Text) : Text → TemplateError → Prop
  | malformed {rest : Text} : (∀ name behind, rest = name ++ behind → ¬ IsName name) →
      Offends lookup rest (.malformed ('$' :: rest))
  | unset {name behind : Text} : Longest name behind → lookup name = none →
      Offends lookup (name ++ behind) (.unset name)

theorem Offends.not_sound (h : Offends lookup rest e) : ¬ Sound lookup rest := by
  rintro ⟨name, behind, value, rfl, hname, hvalue⟩
  generalize hrest : name ++ behind = rest at h
  cases h with
  | malformed hnone => exact hnone name behind hrest.symm hname.isName
  | unset hname' hunset =>
    obtain ⟨rfl, -⟩ := hname.unique hname' hrest
    exact absurd (hvalue.symm.trans hunset) (by simp)

theorem Offends.unique (h : Offends lookup rest e) (h' : Offends lookup rest e') : e = e' := by
  cases h with
  | malformed hnone =>
    generalize hrest : rest = r at h'
    cases h' with
    | malformed _ => rfl
    | unset hname _ => exact absurd hname.isName (hnone _ _ hrest)
  | @unset name behind hname _ =>
    generalize hrest : name ++ behind = r at h'
    cases h' with
    | malformed hnone => exact absurd hname.isName (hnone _ _ hrest.symm)
    | unset hname' _ => rw [(hname.unique hname' hrest).1]

/-- The leftmost `$` that offends, and its error. -/
def Leftmost (lookup : Text → Option Text) (raw : Text) (e : TemplateError) : Prop :=
  ∃ front rest, raw = front ++ '$' :: rest ∧ Offends lookup rest e ∧
    ∀ front' rest', raw = front' ++ '$' :: rest' → front'.length < front.length →
      Sound lookup rest'

theorem Leftmost.unique (h : Leftmost lookup raw e) (h' : Leftmost lookup raw e') : e = e' := by
  obtain ⟨front, rest, rfl, hoffends, hsound⟩ := h
  obtain ⟨front', rest', hraw, hoffends', hsound'⟩ := h'
  rcases Nat.lt_trichotomy front.length front'.length with hlt | heq | hlt
  · exact absurd (hsound' _ _ rfl hlt) hoffends.not_sound
  · obtain ⟨-, hrest⟩ := List.append_inj hraw heq
    obtain ⟨-, rfl⟩ := List.cons.inj hrest
    exact hoffends.unique hoffends'
  · exact absurd (hsound _ _ hraw hlt) hoffends'.not_sound

/-- A `$` behind a reference stands behind its name, unless it is its own. -/
theorem dollar_cases (hname : '$' ∉ name) (h : '$' :: (name ++ behind) = front ++ '$' :: rest) :
    (front = [] ∧ rest = name ++ behind) ∨
      ∃ more, front = '$' :: (name ++ more) ∧ behind = more ++ '$' :: rest := by
  cases front with
  | nil => exact .inl ⟨rfl, (List.cons.inj h).2.symm⟩
  | cons x front =>
    obtain ⟨rfl, hbehind⟩ := List.cons.inj h
    rcases List.append_eq_append_iff.mp hbehind with ⟨a, rfl, ha⟩ | ⟨a, rfl, ha⟩
    · exact .inr ⟨a, rfl, ha⟩
    · cases a with
      | nil => exact .inr ⟨[], by simp, by simpa using ha.symm⟩
      | cons y a =>
        obtain ⟨rfl, -⟩ := List.cons.inj ha
        exact absurd (by simp) hname

/-! ## 4. Filling a template -/

/-- What a template that is filled is like: each `$` is sound, and the path is put together from
the values of the pieces. -/
structure Filled (lookup : Text → Option Text) (raw path : Text) : Prop where
  sound : ∀ front rest, raw = front ++ '$' :: rest → Sound lookup rest
  pieces : ∃ (pieces : List Piece) (values : List Text), Cut raw pieces ∧
    pieces.map (Piece.value? lookup) = values.map some ∧ path = values.flatten

theorem filled_nil : Filled lookup [] [] where
  sound front rest h := absurd h (by simp)
  pieces := ⟨[.run []], [[]], .last (by simp), rfl, rfl⟩

theorem Filled.cons (hc : c ≠ '$') (h : Filled lookup raw t) :
    Filled lookup (c :: raw) (c :: t) where
  sound front rest hraw := by
    cases front with
    | nil => exact absurd (List.cons.inj hraw).1 hc
    | cons x front => exact h.sound front rest (List.cons.inj hraw).2
  pieces := by
    obtain ⟨pieces, values, hcut, hvalues, rfl⟩ := h.pieces
    obtain ⟨run, others, rfl, hcons⟩ := hcut.exists_cons hc
    obtain ⟨value, values, rfl, hrun, hothers⟩ := List.map_eq_cons_iff.mp hvalues.symm
    obtain rfl : value = run := Option.some.inj hrun
    refine ⟨_, (c :: value) :: values, hcons, ?_, rfl⟩
    rw [List.map_cons, ← hothers]
    rfl

theorem Filled.reference {value : Text} (hname : Longest name rest)
    (hvalue : lookup name = some value) (h : Filled lookup rest t) :
    Filled lookup ('$' :: (name ++ rest)) (value ++ t) where
  sound front rest' hraw := by
    rcases dollar_cases hname.isName.not_mem_dollar hraw with ⟨-, rfl⟩ | ⟨more, -, hmore⟩
    · exact ⟨name, rest, value, rfl, hname, hvalue⟩
    · exact h.sound more rest' hmore
  pieces := by
    obtain ⟨pieces, values, hcut, hvalues, rfl⟩ := h.pieces
    have hempty : '$' ∉ ([] : Text) := by simp
    refine ⟨_, [] :: value :: values, .more hempty hname hcut, ?_, by simp⟩
    rw [List.map_cons, List.map_cons, hvalues, Piece.value?, Piece.value?, hvalue]
    rfl

theorem Leftmost.cons (hc : c ≠ '$') (h : Leftmost lookup raw e) :
    Leftmost lookup (c :: raw) e := by
  obtain ⟨front, rest, rfl, hoffends, hsound⟩ := h
  refine ⟨c :: front, rest, rfl, hoffends, ?_⟩
  intro front' rest' hraw hlt
  cases front' with
  | nil => exact absurd (List.cons.inj hraw).1 hc
  | cons x front' => exact hsound front' rest' (List.cons.inj hraw).2 (by simpa using hlt)

theorem Leftmost.reference (hname : Longest name rest) (hsound : Sound lookup (name ++ rest))
    (h : Leftmost lookup rest e) : Leftmost lookup ('$' :: (name ++ rest)) e := by
  obtain ⟨front, last, rfl, hoffends, hfront⟩ := h
  refine ⟨'$' :: (name ++ front), last, by simp, hoffends, ?_⟩
  intro front' rest' hraw hlt
  rcases dollar_cases hname.isName.not_mem_dollar hraw with ⟨-, rfl⟩ | ⟨more, rfl, hmore⟩
  · exact hsound
  · exact hfront more rest' hmore (by simpa using hlt)

theorem Offends.leftmost (h : Offends lookup rest e) : Leftmost lookup ('$' :: rest) e :=
  ⟨[], rest, rfl, h, fun _ _ _ hlt => absurd hlt (by simp)⟩

/-- **A template is filled, or its leftmost `$` that offends is reported.**  By induction along the
template, a reference at a time. -/
theorem resolve_cases (lookup : Text → Option Text) (raw : Text) :
    (∃ path, resolve lookup raw = .ok path ∧ Filled lookup raw path) ∨
      ∃ e, resolve lookup raw = .error e ∧ Leftmost lookup raw e := by
  fun_induction mentioned raw with
  | case1 => exact .inl ⟨[], by rw [resolve], filled_nil⟩
  | case2 more hnone =>
    refine .inr ⟨_, resolve_malformed lookup hnone, Offends.leftmost (.malformed ?_)⟩
    rintro name behind rfl
    exact not_isName_of_splitName?_eq_none hnone
  | case3 more name rest hsplit ih =>
    obtain ⟨rfl, hname⟩ := splitName?_eq_some hsplit
    rw [resolve_reference lookup hsplit]
    cases hvalue : lookup name with
    | none => exact .inr ⟨_, rfl, Offends.leftmost (.unset hname hvalue)⟩
    | some value =>
      rcases ih with ⟨path, hrest, hfilled⟩ | ⟨e, hrest, hleftmost⟩
      · exact .inl ⟨value ++ path, by rw [hrest]; rfl, hfilled.reference hname hvalue⟩
      · have hsound : Sound lookup (name ++ rest) := ⟨name, rest, value, rfl, hname, hvalue⟩
        exact .inr ⟨e, by rw [hrest]; rfl, hleftmost.reference hname hsound⟩
  | case4 c more hc ih =>
    rw [resolve_plain lookup hc]
    rcases ih with ⟨path, hmore, hfilled⟩ | ⟨e, hmore, hleftmost⟩
    · exact .inl ⟨c :: path, by rw [hmore]; rfl, hfilled.cons hc⟩
    · exact .inr ⟨e, by rw [hmore]; rfl, hleftmost.cons hc⟩

/-- **Templates are filled in one pass.**  A template has a path exactly if behind each of its `$`
there is a name whose longest one has a value.  The path is then put together, in order, from the
runs of the template's only cut, unchanged, and the values of its references, as they are.  In all
other cases the error is that of the leftmost `$` without such a name. -/
theorem resolve_in_one_pass (lookup : Text → Option Text) (raw : Text) :
    ((∃ path, resolve lookup raw = .ok path) ↔
        ∀ front rest, raw = front ++ '$' :: rest → Sound lookup rest) ∧
      (∀ path, resolve lookup raw = .ok path → ∃ (pieces : List Piece) (values : List Text),
        Cut raw pieces ∧
        (∀ others, Cut raw others → others = pieces) ∧
        pieces.map (Piece.value? lookup) = values.map some ∧ path = values.flatten) ∧
      ∀ e, resolve lookup raw = .error e ↔ Leftmost lookup raw e := by
  rcases resolve_cases lookup raw with ⟨path, hok, hfilled⟩ | ⟨e, herror, hleftmost⟩
  · refine ⟨⟨fun _ => hfilled.sound, fun _ => ⟨path, hok⟩⟩, ?_, ?_⟩
    · intro path' hok'
      obtain rfl : path = path' := Except.ok.inj (hok.symm.trans hok')
      obtain ⟨pieces, values, hcut, hvalues⟩ := hfilled.pieces
      exact ⟨pieces, values, hcut, fun others hothers => hcut.unique hothers, hvalues⟩
    · intro e
      constructor
      · intro herror
        exact absurd (hok.symm.trans herror) (by simp)
      · rintro ⟨front, rest, rfl, hoffends, -⟩
        exact absurd (hfilled.sound front rest rfl) hoffends.not_sound
  · refine ⟨⟨?_, ?_⟩, ?_, ?_⟩
    · rintro ⟨path, hok⟩
      exact absurd (hok.symm.trans herror) (by simp)
    · intro hsound
      obtain ⟨front, rest, hraw, hoffends, -⟩ := hleftmost
      exact absurd (hsound front rest hraw) hoffends.not_sound
    · intro path hok
      exact absurd (hok.symm.trans herror) (by simp)
    · intro e'
      constructor
      · intro herror'
        obtain rfl : e = e' := Except.error.inj (herror.symm.trans herror')
        exact hleftmost
      · intro hleftmost'
        rw [herror, hleftmost.unique hleftmost']

/-- Two references side by side, with a value that looks like a reference itself. -/
example : resolve (fun name => if name = ['A'] then some "$B" else none) "./$A$A" =
    .ok "./$B$B" := by
  decide +kernel

end StoredFunctions.PathTemplate
