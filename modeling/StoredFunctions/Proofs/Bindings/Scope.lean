/-
# Bound names

In a class the generated module's language does not bind every name as it is written: a **private**
name, with two underscores in front and not behind, gets the name of the class put before it.  So
names that differ as they are written need not differ as they are bound.

* `nodup_boundNames_iff`: names that are written differently are bound differently, unless one of
  them is written the way another one is bound;
* `render_boundNames`: in a rendered module the names of a scope are written differently, and
  outside of classes they are bound differently; inside they are just if no private name is written
  in its bound form beside itself.

`render_clash` has two functions one of which is lost.
-/
import Mathlib.Data.List.Nodup
import StoredFunctions.Proofs.Bindings.Outline
import StoredFunctions.Proofs.Statement.Faults

namespace StoredFunctions.Bindings

/-! ## 1. The rule -/

/-- Two underscores. -/
def underscores : Text := ['_', '_']

/-- Whether a name is private: underscores in front and not behind. -/
def isPrivate (name : Text) : Bool :=
  underscores.isPrefixOf name && !underscores.isSuffixOf name

/-- The name of a class without the underscores in front. -/
def bareClass (name : Text) : Text := name.dropWhile (· == '_')

/-- The name that is bound where `name` is written: in a class whose name is not underscores only, a
private name has an underscore and the name of the class in front. -/
def Scope.bound (s : Scope) (name : Text) : Text :=
  match s.within with
  | none => name
  | some c => if isPrivate name && bareClass c != [] then '_' :: (bareClass c ++ name) else name

/-- The names that a scope binds. -/
def Scope.boundNames (s : Scope) : List Text := s.names.map s.bound

variable {s : Scope} {m n : Text}

/-! ## 2. Clashes -/

theorem bound_of_top (h : s.within = none) : s.bound n = n := by
  rw [Scope.bound, h]

/-- A name that is not bound as it is written has a class in front. -/
theorem exists_of_bound_ne (h : s.bound n ≠ n) :
    ∃ c, s.within = some c ∧ bareClass c ≠ [] ∧
      ∀ m, s.bound m = if isPrivate m = true then '_' :: (bareClass c ++ m) else m := by
  obtain ⟨within, names⟩ := s
  cases within with
  | none => exact absurd rfl h
  | some c =>
    by_cases hc : bareClass c = []
    · exact absurd (by simp [Scope.bound, hc]) h
    · exact ⟨c, rfl, hc, fun m => by simp [Scope.bound, hc]⟩

/-- The bound form of a name is not private: one underscore is followed by a class. -/
theorem not_isPrivate {c : Text} (hc : bareClass c ≠ []) :
    isPrivate ('_' :: (bareClass c ++ n)) = false := by
  obtain ⟨x, d, hd⟩ := List.exists_cons_of_ne_nil hc
  have hx : x ≠ '_' := by
    have hhead := List.head?_dropWhile_not (· == '_') c
    rw [← bareClass, hd] at hhead
    simpa using hhead
  have hne : ¬ '_' = x := fun h => hx h.symm
  simp [isPrivate, underscores, hd, List.isPrefixOf, hne]

/-- **Binding a bound name changes nothing.** -/
theorem bound_bound : s.bound (s.bound n) = s.bound n := by
  by_cases h : s.bound n = n
  · rw [h, h]
  · obtain ⟨c, -, hc, hbound⟩ := exists_of_bound_ne h
    by_cases hn : isPrivate n = true
    · rw [hbound n, if_pos hn, hbound, not_isPrivate hc]
      rfl
    · rw [hbound n, if_neg hn, hbound n, if_neg hn]

/-- Private names that differ are bound differently. -/
theorem eq_of_bound_eq (hm : s.bound m ≠ m) (hn : s.bound n ≠ n) (h : s.bound m = s.bound n) :
    m = n := by
  obtain ⟨c, -, -, hbound⟩ := exists_of_bound_ne hm
  have hprivate : ∀ {m}, s.bound m ≠ m → isPrivate m = true := by
    intro m hm
    refine Bool.of_not_eq_false fun hno => hm ?_
    rw [hbound, hno]
    rfl
  rw [hbound, hbound, if_pos (hprivate hm), if_pos (hprivate hn)] at h
  exact List.append_cancel_left (List.cons.inj h).2

/-- **When the names of a scope are bound differently.** -/
theorem nodup_boundNames_iff (h : s.names.Nodup) :
    s.boundNames.Nodup ↔ ∀ n ∈ s.names, s.bound n ≠ n → s.bound n ∉ s.names := by
  constructor
  · intro hnodup n hn hne hmem
    exact hne (List.inj_on_of_nodup_map hnodup hmem hn bound_bound)
  · intro hclash
    refine h.map_on fun m hm n hn heq => ?_
    by_cases hbm : s.bound m = m
    · by_cases hbn : s.bound n = n
      · rw [← hbm, heq, hbn]
      · have hmem : s.bound n ∈ s.names := by rwa [← heq, hbm]
        exact absurd hmem (hclash n hn hbn)
    · by_cases hbn : s.bound n = n
      · have hmem : s.bound m ∈ s.names := by rwa [heq, hbn]
        exact absurd hmem (hclash m hm hbm)
      · exact eq_of_bound_eq hbm hbn heq

/-! ## 3. The generated module -/

variable {rule : NamingRule} {origin text : Text} {sources : List Text}
  {statements : List Statement}

/-- **No name is bound twice in a scope of a rendered module**, if no private name of a class is
written beside its bound form; and outside of classes no name is bound twice at all. -/
theorem render_boundNames (h : render rule origin sources statements = .ok text) :
    text = Outline.text rule origin sources (Outline.ofStatements rule statements) ∧
    ∀ s ∈ (Outline.ofStatements rule statements).scopes none (Outline.helpers rule),
      s.names.Nodup ∧
      (s.within = none → s.boundNames.Nodup) ∧
      (s.boundNames.Nodup ↔ ∀ n ∈ s.names, s.bound n ≠ n → s.bound n ∉ s.names) := by
  obtain ⟨hfit, htext⟩ := render_ok_iff.mp h
  refine ⟨htext, fun s hs => ?_⟩
  have hnodup := (hfit s hs).1
  have hiff := nodup_boundNames_iff hnodup
  refine ⟨hnodup, fun htop => ?_, hiff⟩
  exact hiff.mpr fun n _ hne => absurd (bound_of_top htop) hne

/-- Functions with private names, and a class that is private in another one. -/
def sheltered : List Statement :=
  [⟨[], "__x", [⟨⟨"_a__p"⟩, .primitive .int⟩, ⟨⟨"__p"⟩, .primitive .int⟩], []⟩,
    ⟨["a"], "__x", [⟨⟨"in"⟩, .primitive .any⟩, ⟨⟨"__p"⟩, .primitive .int⟩], []⟩,
    ⟨["a", "__b"], "_a__x", [], []⟩]

/-- All names of their module are bound differently, though three of them are not bound as they are
written. -/
theorem render_sheltered :
    (∃ text, render .same [] [] sheltered = .ok text) ∧
    ∀ s ∈ (Outline.ofStatements .same sheltered).scopes none (Outline.helpers .same),
      s.boundNames.Nodup := by
  obtain ⟨text, h⟩ : ∃ text, render .same [] [] sheltered = .ok text :=
    ⟨_, render_ok_iff.mpr ⟨by unfold Fit; decide +kernel, rfl⟩⟩
  refine ⟨⟨text, h⟩, fun s hs => ((render_boundNames h).2 s hs).2.2.mpr ?_⟩
  revert s
  decide +kernel

/-- Two functions, the second with the name that the first one is bound to. -/
def clashing : List Statement := [⟨["a"], "__x", [], []⟩, ⟨["a"], "_a__x", [], []⟩]

/-- They are read from a document, their module is rendered, and a class of it binds both to one
name. -/
theorem render_clash :
    Statement.parseAll []
      "DEFINE FUNCTION fn::a::__x() \x7b\x7d; DEFINE FUNCTION fn::a::_a__x() \x7b\x7d;" =
        .ok clashing ∧
    (∃ text, render .same [] [] clashing = .ok text) ∧
    ∃ s ∈ (Outline.ofStatements .same clashing).scopes none (Outline.helpers .same),
      s.boundNames = [Text.of "_a__x", Text.of "_a__x"] := by
  refine ⟨by decide +kernel, ⟨_, render_ok_iff.mpr ⟨by unfold Fit; decide +kernel, rfl⟩⟩, ?_⟩
  decide +kernel

end StoredFunctions.Bindings
