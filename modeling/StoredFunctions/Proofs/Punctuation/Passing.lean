/-
# Marks that a reader passes

A list that ends in a fault has elements in front of it, each with a mark behind: `Preceding` is
the text of those, and a reader that goes on from mark to mark (`Passes`) goes over such a text
and no other (`preceding_of_passes`, `passes_of_preceding`).

Filler and marks are never the origin of a fault that is no failure (`Located`).
-/
import StoredFunctions.Proofs.Punctuation.Reading
import StoredFunctions.Proofs.Reading.Finality

namespace StoredFunctions

open StoredFunctions.Parser Relation

/-! ## 1. Filler and marks fail, or they are read -/

namespace Filler

theorem documentation_mild : Mild documentation := by
  intro c
  obtain ⟨bodies, t, r, hr, hg⟩ := exists_gap c.rest
  exact .inl ⟨bodies, c.past t, documentation_exact.complete hr hg⟩

theorem skip_mild : Mild skip := documentation_mild.bind fun _ => .pure ()

theorem skip1_located : Located skip1 := by
  have hcomments : Located comments :=
    (takeWhile_mild _).located.bind fun _ =>
      (comment_mild.located.bind fun _ => comment_mild.located.many.bind fun _ =>
        (Mild.pure _).located).bind fun _ =>
          (takeWhile_mild _).located.bind fun _ => (Mild.pure _).located
  refine .firstOf fun p hp => ?_
  rcases List.mem_cons.mp hp with rfl | hp
  · exact hcomments.bind fun _ => (Mild.pure _).located
  · obtain rfl := List.mem_singleton.mp hp
    exact (takeWhile1_located _ _).bind fun _ => (Mild.pure _).located

end Filler

namespace Punctuation

open Filler

theorem surrounded_located (w : Text) : Located (surrounded w) :=
  skip_mild.located.bind fun _ => (single_located w).bind fun _ => skip_mild.located

theorem opening_located (w : Text) : Located (opening w) :=
  (single_located w).bind fun _ => skip_mild.located

theorem closing_located (w : Text) : Located (closing w) :=
  skip_mild.located.bind fun _ => (single_located w).bind fun _ => (Mild.pure _).located

theorem terminator_located : Located terminator :=
  skip_mild.located.bind fun _ =>
    ((single_located _).bind fun _ => (single_located _).many.bind fun _ =>
      (Mild.pure _).located).bind fun _ =>
        (takeWhile_mild _).located.bind fun _ => (Mild.pure _).located

/-! ## 2. Elements in front of a place -/

/-- Elements with a mark behind each, and filler around the marks. -/
inductive Preceding {α : Type} (w : Text) (P : α → Text → Prop) : Text → Prop
  | nil : Preceding w P []
  | cons {a : α} {t f g u : Text} :
      P a t → IsFiller f → IsFiller g → Preceding w P u →
        Preceding w P (t ++ (f ++ (w ++ (g ++ u))))

variable {α : Type} {w t s : Text} {P : α → Text → Prop} {element : Parser α} {c d : Cursor}

theorem Preceding.mono {Q : α → Text → Prop} (h : Preceding w P t)
    (hPQ : ∀ a u, u.length ≤ t.length → P a u → Q a u) : Preceding w Q t := by
  induction h with
  | nil => exact .nil
  | cons ha hf hg _ ih =>
    refine .cons (hPQ _ _ (by simp) ha) hf hg (ih fun b u hu => hPQ b u ?_)
    simp only [List.length_append]
    omega

/-- Such elements, and something solid behind them, begin no filler. -/
theorem Preceding.solid (hP : ∀ a t, P a t → Solid t) (h : Preceding w P t) (hs : Solid s) :
    Solid (t ++ s) := by
  cases h with
  | nil => exact hs
  | cons ha _ _ _ =>
    rw [List.append_assoc]
    exact (hP _ _ ha).append

theorem preceding_of_passes (hw : IsMark w) (hP : ∀ a t, P a t → Solid t)
    (he : Sound element fun a t _ => P a t)
    (h : ReflTransGen (Passes element (surrounded w)) c d) (hd : Solid d.rest) :
    ∃ t, c.rest = t ++ d.rest ∧ d = c.past t ∧ Preceding w P t := by
  induction h using ReflTransGen.head_induction_on with
  | refl => exact ⟨[], rfl, Cursor.past_nil.symm, .nil⟩
  | head hpass _ ih =>
    obtain ⟨a, _, _, ha, hmark⟩ := hpass
    obtain ⟨u, hu, rfl, hprec⟩ := ih
    obtain ⟨t, _, hr, rfl, hspell⟩ := he ha
    obtain ⟨_, _, hr', rfl, f, g, rfl, hf, hg⟩ := (surrounded_exact hw).sound hmark
    rw [Cursor.rest_past hr] at hr'
    subst hr'
    have hr₂ := Cursor.rest_past (Cursor.rest_past hr)
    rw [← hr₂, hu, (hprec.solid hP hd).gap_iff] at hg
    refine ⟨t ++ (f ++ (w ++ (g ++ u))), ?_, by simp, .cons hspell hf hg hprec⟩
    rw [hr, ← hr₂, hu]
    simp

theorem passes_of_preceding (hw : IsMark w) (hP : ∀ a t, P a t → Solid t)
    (he : Complete element fun a t r => P a t ∧ Clear r) (h : Preceding w P t)
    (hc : c.rest = t ++ s) (hs : Solid s) :
    ReflTransGen (Passes element (surrounded w)) c (c.past t) := by
  induction h generalizing c with
  | nil => rw [Cursor.past_nil]
  | @cons a t f g u ha hf hg hprec ih =>
    have hr : c.rest = t ++ ((f ++ (w ++ g)) ++ (u ++ s)) := by simp [hc]
    have hclear : Clear ((f ++ (w ++ g)) ++ (u ++ s)) := by
      rw [List.append_assoc, List.append_assoc]
      exact hw.clear.filler hf
    have hr₁ := Cursor.rest_past hr
    have hmark : surrounded w (c.past t) = .ok ((), (c.past t).past (f ++ (w ++ g))) :=
      (surrounded_exact hw).complete hr₁ ⟨f, g, rfl, hf, (hprec.solid hP hs).gap_iff.mpr hg⟩
    have hmore := ih (Cursor.rest_past hr₁)
    simp only [Cursor.past_past, List.append_assoc] at hmark hmore ⊢
    exact .head ⟨a, _, (), he hr ⟨ha, hclear⟩, hmark⟩ hmore

end Punctuation

end StoredFunctions
