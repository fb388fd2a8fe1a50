/-
# Choices among choices

What a choice comes to is settled by its alternatives one by one (`Chooses`): the first that does
not refuse decides, whether it reads or fails for good, and if all of them refuse, the failure that
got furthest is reported, of those that got equally far the last.

So it does not matter how alternatives are grouped.  A choice that stands among the alternatives of
another can be replaced by its own alternatives (`firstOf_among`), the reported failure included:
`Failure.further` is associative, and an inner choice reports the last of its furthest failures.
The inner choice must not be empty, because an empty choice fails on its own account.
-/
import Mathlib.Data.List.Forall2
import StoredFunctions.Proofs.Reading.Choice

namespace StoredFunctions

/-! ## 1. The furthest failure -/

namespace Failure

variable {f g h : Failure} {fs front behind : List Failure}

/-- Of the failures `fs`, the one to report is `f`: none in front of it got further, and none behind
it got as far. -/
def Furthest (fs : List Failure) (f : Failure) : Prop :=
  ∃ front behind, fs = front ++ f :: behind ∧ (∀ g ∈ front, g.offset ≤ f.offset) ∧
    ∀ g ∈ behind, g.offset < f.offset

instance : Std.Associative Failure.further where
  assoc f g h := by
    unfold further
    grind

theorem furthest_singleton : Furthest [f] f := ⟨[], [], rfl, by simp, by simp⟩

/-- One more failure in front of others is compared with the one reported of these. -/
theorem Furthest.cons (hg : Furthest fs g) : Furthest (f :: fs) (f.further g) := by
  obtain ⟨front, behind, rfl, hfront, hbehind⟩ := hg
  unfold further
  split
  · rename_i hle
    exact ⟨f :: front, behind, rfl, List.forall_mem_cons.mpr ⟨hle, hfront⟩, hbehind⟩
  · rename_i hlt
    refine ⟨[], front ++ g :: behind, rfl, by simp, fun e he => ?_⟩
    rcases List.mem_append.mp he with he | he
    · have hle := hfront e he
      omega
    · rcases List.mem_cons.mp he with rfl | he
      · omega
      · have hlt := hbehind e he
        omega

theorem furthest_foldl : Furthest (f :: fs) (fs.foldl further f) := by
  induction fs generalizing f with
  | nil => exact furthest_singleton
  | cons g fs ih =>
    rw [List.foldl_cons, List.foldl_assoc]
    exact ih.cons

/-- Two places of a list with the failure to report are the same one. -/
theorem Furthest.unique (hf : Furthest fs f) (hg : Furthest fs g) : f = g := by
  -- of two different places the one in front got at least as far, and did not
  have hapart : ∀ {a b c d : List Failure} {f g : Failure}, f :: b = c ++ g :: d →
      (∀ e ∈ b, e.offset < f.offset) → (∀ e ∈ a ++ c, e.offset ≤ g.offset) → f = g := by
    intro a b c d f g h hb hc
    cases c with
    | nil => exact (List.cons.inj h).1
    | cons e c =>
      obtain ⟨rfl, rfl⟩ := List.cons.inj h
      have hlt := hb g (by simp)
      have hle := hc f (by simp)
      omega
  obtain ⟨front, behind, rfl, hfront, hbehind⟩ := hf
  obtain ⟨front', behind', hsplit, hfront', hbehind'⟩ := hg
  rcases List.append_eq_append_iff.mp hsplit with ⟨between, rfl, h⟩ | ⟨between, rfl, h⟩
  · exact hapart h hbehind hfront'
  · exact (hapart h hbehind' hfront).symm

end Failure

namespace Parser

variable {α : Type} {p q : Parser α} {ps qs rs front behind : List (Parser α)} {c : Cursor}
  {f k : Failure} {fs : List Failure} {kept : Option Failure} {o : Except Fault (α × Cursor)}

/-! ## 2. Alternatives that refuse, and one that does not -/

/-- All alternatives refuse at `c`, with the failures `fs` in their order. -/
def Refusals (ps : List (Parser α)) (c : Cursor) (fs : List Failure) : Prop :=
  List.Forall₂ (fun p f => p c = .error (.failure f) ∧ f.committed = false) ps fs

theorem exists_refusals (h : ∀ p ∈ ps, Refuses p c) : ∃ fs, Refusals ps c fs := by
  induction ps with
  | nil => exact ⟨[], .nil⟩
  | cons p ps ih =>
    obtain ⟨⟨f, hf, hc⟩, hps⟩ := List.forall_mem_cons.mp h
    obtain ⟨fs, hfs⟩ := ih hps
    exact ⟨f :: fs, .cons ⟨hf, hc⟩ hfs⟩

/-- Alternatives that refuse leave the choice to those behind them, and to these the failure that
got furthest so far. -/
theorem choose_append (h : Refusals ps c fs) :
    choose (some k) (ps ++ qs) c = choose (some (fs.foldl Failure.further k)) qs c := by
  induction h generalizing k with
  | nil => rfl
  | cons hp _ ih =>
    obtain ⟨hf, hc⟩ := hp
    rw [List.cons_append, choose_cons, hf]
    simp only [hc, Bool.false_eq_true, if_false, Option.elim_some, List.foldl_cons]
    exact ih

/-- A choice all of whose alternatives refuse reports the failure that got furthest. -/
theorem firstOf_of_refusals (hp : p c = .error (.failure f)) (hf : f.committed = false)
    (h : Refusals ps c fs) :
    firstOf (p :: ps) c = .error (.failure (fs.foldl Failure.further f)) := by
  have hps : choose (some f) (ps ++ []) c = choose (some (fs.foldl Failure.further f)) [] c :=
    choose_append h
  rw [List.append_nil] at hps
  rw [firstOf, choose_cons, hp]
  simp only [hf, Bool.false_eq_true, if_false, Option.elim_none, hps]
  rfl

theorem choose_of_not_refuses (h : ¬ Refuses p c) : choose kept (p :: ps) c = p c := by
  rw [choose_cons]
  split
  · rename_i f hf
    split
    · exact hf.symm
    · rename_i hc
      exact absurd ⟨f, hf, by simpa using hc⟩ h
  · rfl

/-- The first alternative that does not refuse decides, whatever failed before. -/
theorem choose_decided (hfront : ∀ q ∈ front, Refuses q c) (h : ¬ Refuses p c) :
    choose kept (front ++ p :: behind) c = p c := by
  induction front generalizing kept with
  | nil => exact choose_of_not_refuses h
  | cons q front ih =>
    obtain ⟨hq, hfront⟩ := List.forall_mem_cons.mp hfront
    obtain ⟨f, hf⟩ : ∃ f, choose kept (q :: (front ++ p :: behind)) c =
        choose (some f) (front ++ p :: behind) c := choose_of_refuses hq
    rw [List.cons_append, hf]
    exact ih hfront

/-- Either all alternatives refuse, or there is a first one that does not. -/
theorem refuse_or_exists_first (ps : List (Parser α)) (c : Cursor) :
    (∀ p ∈ ps, Refuses p c) ∨ ∃ front p behind, ps = front ++ p :: behind ∧
      (∀ q ∈ front, Refuses q c) ∧ ¬ Refuses p c := by
  induction ps with
  | nil => exact .inl (by simp)
  | cons p ps ih =>
    by_cases hp : Refuses p c
    · rcases ih with h | ⟨front, q, behind, rfl, hfront, hq⟩
      · exact .inl (List.forall_mem_cons.mpr ⟨hp, h⟩)
      · exact .inr ⟨p :: front, q, behind, rfl, List.forall_mem_cons.mpr ⟨hp, hfront⟩, hq⟩
    · exact .inr ⟨[], p, ps, rfl, by simp, hp⟩

/-! ## 3. The outcome of a choice -/

/-- What the alternatives `ps` come to at `c`. -/
inductive Chooses (ps : List (Parser α)) (c : Cursor) : Except Fault (α × Cursor) → Prop
  /-- The first alternative that does not refuse decides. -/
  | decided {front behind : List (Parser α)} {p : Parser α} : ps = front ++ p :: behind →
      (∀ q ∈ front, Refuses q c) → ¬ Refuses p c → Chooses ps c (p c)
  /-- All of them refuse, and the failure that got furthest is reported. -/
  | refused {fs : List Failure} {f : Failure} : Refusals ps c fs → Failure.Furthest fs f →
      Chooses ps c (.error (.failure f))

theorem firstOf_chooses (hps : ps ≠ []) : Chooses ps c (firstOf ps c) := by
  rcases refuse_or_exists_first ps c with h | ⟨front, p, behind, rfl, hfront, hp⟩
  · obtain ⟨p, ps, rfl⟩ := List.exists_cons_of_ne_nil hps
    obtain ⟨⟨f, hf, hc⟩, hrest⟩ := List.forall_mem_cons.mp h
    obtain ⟨fs, hfs⟩ := exists_refusals hrest
    rw [firstOf_of_refusals hf hc hfs]
    exact .refused (.cons ⟨hf, hc⟩ hfs) Failure.furthest_foldl
  · have hdecided : firstOf (front ++ p :: behind) c = p c := choose_decided hfront hp
    rw [hdecided]
    exact .decided rfl hfront hp

theorem Chooses.eq_firstOf (h : Chooses ps c o) : firstOf ps c = o := by
  cases h with
  | decided hps hfront hp =>
    subst hps
    exact choose_decided hfront hp
  | @refused fs f hfs hf =>
    cases hfs with
    | nil =>
      obtain ⟨front, behind, hnil, -⟩ := hf
      exact absurd hnil (by simp)
    | cons hp hfs =>
      rw [firstOf_of_refusals hp.1 hp.2 hfs, Failure.furthest_foldl.unique hf]

/-! ## 4. Grouping -/

/-- A choice at the head of others can be written out, whatever failed before. -/
theorem choose_firstOf_cons (hqs : qs ≠ []) :
    choose kept (firstOf qs :: rs) c = choose kept (qs ++ rs) c := by
  rcases refuse_or_exists_first qs c with h | ⟨front, p, behind, rfl, hfront, hp⟩
  · obtain ⟨q, qs, rfl⟩ := List.exists_cons_of_ne_nil hqs
    obtain ⟨⟨f, hf, hc⟩, hrest⟩ := List.forall_mem_cons.mp h
    obtain ⟨fs, hfs⟩ := exists_refusals hrest
    obtain ⟨g, hg, hgc⟩ := firstOf_refuses h
    have hreport := firstOf_of_refusals hf hc hfs
    obtain rfl : fs.foldl Failure.further f = g := by simpa using hreport.symm.trans hg
    rw [choose_cons, hreport, List.cons_append, choose_cons, hf]
    simp only [hc, hgc, Bool.false_eq_true, if_false]
    rw [choose_append hfs]
    cases kept with
    | none => rfl
    | some k => simp only [Option.elim_some, List.foldl_assoc]
  · have hinner : firstOf (front ++ p :: behind) c = p c := choose_decided hfront hp
    have hnot : ¬ Refuses (firstOf (front ++ p :: behind)) c := by
      rwa [Refuses, hinner]
    rw [choose_of_not_refuses hnot, hinner, List.append_assoc, List.cons_append,
      choose_decided hfront hp]

/-- **How alternatives are grouped does not matter.**  A choice among the alternatives of another
comes to the same as its own alternatives in its place: the same value and the same place behind it,
or the same failure.  And what that is, is settled: the outcome of the first alternative that does
not refuse, or, if they all refuse, the failure that got furthest, of several the last. -/
theorem firstOf_among (ps : List (Parser α)) (q : Parser α) (qs rs : List (Parser α)) (c : Cursor) :
    firstOf (ps ++ firstOf (q :: qs) :: rs) c = firstOf (ps ++ (q :: qs) ++ rs) c ∧
      ∀ o, firstOf (ps ++ (q :: qs) ++ rs) c = o ↔ Chooses (ps ++ (q :: qs) ++ rs) c o := by
  have hgroup : ∀ kept : Option Failure, choose kept (ps ++ firstOf (q :: qs) :: rs) c =
      choose kept (ps ++ (q :: qs) ++ rs) c := by
    induction ps with
    | nil => exact fun kept => choose_firstOf_cons (by simp)
    | cons p ps ih =>
      intro kept
      simp only [List.cons_append, choose_cons, ih]
  refine ⟨hgroup none, fun o => ⟨?_, Chooses.eq_firstOf⟩⟩
  rintro rfl
  exact firstOf_chooses (by simp)

end Parser

end StoredFunctions
