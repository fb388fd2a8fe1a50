/-
# Where a body ends

A body runs from its opening brace to a closing one, and nothing in it is followed.  The closing
brace is the first one behind the filler that follows the opening brace (`body_ok_iff`); it is the
first one of all, as long as that filler holds none.  A comment there that does hold a brace is
skipped with it, and then the body goes on, over whatever follows, up to a brace behind the comment.

So it is the filler at the start of a body, its **lead**, that decides:

* `endsFirst_iff`: whether the body ends at the first closing brace;
* `count_brace_iff`: whether the text of the body has no closing brace but its last character.
-/
import StoredFunctions.Proofs.Reading.Finality
import StoredFunctions.Proofs.Statement.Document

namespace StoredFunctions.Statement

open StoredFunctions.Parser Filler Punctuation

variable {c d e : Cursor} {b f t u : Text} {st : Statement}

/-! ## 1. Leads -/

theorem braceOpen_eq : Text.of "\x7b" = ['\x7b'] := by rw [Text.of_eq]; rfl

/-- `Lead c f`: behind the opening brace at `c`, the filler `f` is skipped. -/
def Lead (c : Cursor) (f : Text) : Prop :=
  (∃ r, c.rest = "\x7b" ++ (f ++ r)) ∧
    Filler.skip (c.past "\x7b") = .ok ((), c.past ("\x7b" ++ f))

/-- The text of a body: its brace, its lead, and what follows up to the first closing brace. -/
def bodyText (f u : Text) : Text := "\x7b" ++ (f ++ (u ++ "\x7d"))

/-- **A body ends at the first closing brace behind its lead.** -/
theorem body_ok_iff :
    body c = .ok ((), d) ↔ ∃ f u, Lead c f ∧ '\x7d' ∉ u ∧
      c.rest = bodyText f u ++ d.rest ∧ d = c.past (bodyText f u) := by
  constructor
  · intro h
    obtain ⟨b, r, hr, rfl, hb⟩ := body_exact.sound h
    obtain ⟨f, u, rfl, ⟨bodies, hf⟩, hu, hn⟩ := body_iff.mp hb
    have hc : c.rest = "\x7b" ++ (f ++ (u ++ '\x7d' :: r)) := by simp [hr, braceClose_eq]
    have hskip := skip_exact.complete (v := ()) (Cursor.rest_past hc) ⟨bodies, hf.gap hn⟩
    rw [Cursor.past_past] at hskip
    exact ⟨f, u, ⟨⟨_, hc⟩, hskip⟩, hu, by rw [Cursor.rest_past hr, hr]; rfl, rfl⟩
  · rintro ⟨f, u, ⟨⟨s, hs⟩, hskip⟩, hu, hr, hd⟩
    obtain ⟨t, r, ht, hpast, bodies, hg⟩ := skip_exact.sound hskip
    rw [Cursor.rest_past hs] at ht
    have htf : f = t := by
      refine Cursor.past_inj (Cursor.rest_past hs) (ht ▸ Cursor.rest_past hs) ?_
      rw [Cursor.past_past, hpast]
    subst htf
    obtain rfl := List.append_cancel_left ht
    have hsplit : s = u ++ '\x7d' :: d.rest := by
      have := hs.symm.trans hr
      simpa [bodyText, braceClose_eq] using this
    subst hsplit
    have hb : Body (bodyText f u) d.rest :=
      body_iff.mpr ⟨f, u, rfl, ⟨bodies, hg.run (by simp)⟩, hu, hg.not_begins⟩
    rw [body_exact.complete (v := ()) hr hb, ← hd]

/-! ## 2. The first closing brace -/

/-- `EndsFirst c d`: at `c` stands an opening brace, and `d` is right behind the first closing brace
after that one. -/
def EndsFirst (c d : Cursor) : Prop :=
  ∃ u r, c.rest = "\x7b" ++ (u ++ ("\x7d" ++ r)) ∧ '\x7d' ∉ u ∧ d = c.past ("\x7b" ++ (u ++ "\x7d"))

theorem endsFirst_iff (hu : '\x7d' ∉ u) (hr : c.rest = bodyText f u ++ t) :
    EndsFirst c (c.past (bodyText f u)) ↔ '\x7d' ∉ f := by
  constructor
  · rintro ⟨v, r, hv, hn, hpast⟩
    have htext : bodyText f u = "\x7b" ++ (v ++ "\x7d") :=
      Cursor.past_inj (s := r) hr (by rw [hv]; simp) hpast
    rw [bodyText, ← List.append_assoc f] at htext
    have hfu : f ++ u = v := List.append_cancel_right (List.append_cancel_left htext)
    exact fun hf => hn (hfu ▸ List.mem_append_left u hf)
  · intro hf
    exact ⟨f ++ u, t, by simp [hr, bodyText], by simp [hf, hu], by simp [bodyText]⟩

/-- Where the first closing brace is, by the search for it. -/
theorem EndsFirst.indexOf?_eq (h : EndsFirst c d) :
    c.rest.indexOf? "\x7d" = some (d.offset - c.offset - 1) := by
  obtain ⟨u, r, hr, hu, rfl⟩ := h
  have hrest : c.rest = ('\x7b' :: u) ++ '\x7d' :: r := by simp [hr, braceOpen_eq, braceClose_eq]
  rw [hrest, braceClose_eq, Text.indexOf?_single (by simpa using hu), Cursor.offset_past,
    braceOpen_eq]
  simp only [List.length_append, List.length_cons, List.length_nil, Option.some.injEq]
  omega

theorem count_bodyText (hu : '\x7d' ∉ u) :
    (bodyText f u).count '\x7d' = f.count '\x7d' + 1 := by
  simp [bodyText, braceOpen_eq, braceClose_eq, List.count_eq_zero_of_not_mem hu]

/-- The closing brace of a body is the only one in its text, if there is none in its lead. -/
theorem count_brace_iff (hu : '\x7d' ∉ u) :
    ((bodyText f u).count '\x7d' = 1 ∧ (bodyText f u).getLast? = some '\x7d') ↔ '\x7d' ∉ f := by
  have hlast : (bodyText f u).getLast? = some '\x7d' := by simp [bodyText, braceClose_eq]
  rw [count_bodyText hu, Nat.add_eq_right, List.count_eq_zero]
  exact and_iff_left hlast

/-! ## 3. Definitions behind a body -/

/-- `Swallows e d`: a definition begins behind a closing brace that comes after `e`, and in front of
`d`. -/
def Swallows (e d : Cursor) : Prop :=
  ∃ x r st d', e.rest = x ++ r ∧ '\x7d' ∈ x ∧ (e.past x).offset < d.offset ∧
    definition (e.past x) = .ok (st, d')

/-- A body that ends at the first closing brace leaves all that follows unread. -/
theorem EndsFirst.not_swallows (h : EndsFirst e d) : ¬ Swallows e d := by
  rintro ⟨x, r, -, -, hx, hmem, hlt, -⟩
  obtain ⟨u, s, hu, hn, rfl⟩ := h
  have hlen : x.length ≤ (Text.of "\x7b" ++ u).length := by
    simp only [Cursor.offset_past, List.length_append, braceClose_eq,
      List.length_singleton] at hlt ⊢
    omega
  have hx' : x <+: e.rest := ⟨r, hx.symm⟩
  have hu' : Text.of "\x7b" ++ u <+: e.rest := ⟨"\x7d" ++ s, by rw [hu, List.append_assoc]⟩
  have hprefix := List.prefix_of_prefix_length_le hx' hu' hlen
  have hbrace := hprefix.subset hmem
  rw [braceOpen_eq, List.mem_append] at hbrace
  rcases hbrace with hbrace | hbrace
  · exact absurd hbrace (by decide)
  · exact hn hbrace

/-- **Bodies end at the first closing brace, if their leads have none.**  A body that is read ends
right behind the first closing brace after its opening one if and only if the filler behind the
opening brace holds no closing brace.  In the text of a definition, from the opening brace of the
body to its end, the last character is the only closing brace under that same condition; and under
it no definition that follows is swallowed by the body. -/
theorem bodies_end (c : Cursor) :
    (∀ d, body c = .ok ((), d) → ∃ f u, Lead c f ∧ '\x7d' ∉ u ∧ d = c.past (bodyText f u) ∧
      (EndsFirst c d ↔ '\x7d' ∉ f)) ∧
    ∀ st d, definition c = .ok (st, d) → ∃ e b f, header c = .ok (st, e) ∧
      body e = .ok ((), d) ∧ e.rest = b ++ d.rest ∧ d = e.past b ∧ Lead e f ∧
        ((b.count '\x7d' = 1 ∧ b.getLast? = some '\x7d') ↔ '\x7d' ∉ f) ∧
        ('\x7d' ∉ f → ¬ Swallows e d) := by
  constructor
  · intro d h
    obtain ⟨f, u, hlead, hu, hr, rfl⟩ := body_ok_iff.mp h
    exact ⟨f, u, hlead, hu, rfl, endsFirst_iff hu hr⟩
  · intro st d h
    rw [definition_eq_header] at h
    obtain ⟨st', e, hheader, h⟩ := bind_ok_iff.mp h
    obtain ⟨_, d', hbody, hpure⟩ := bind_ok_iff.mp h
    obtain ⟨rfl, rfl⟩ := pure_ok_iff.mp hpure
    obtain ⟨f, u, hlead, hu, hr, hd⟩ := body_ok_iff.mp hbody
    refine ⟨e, bodyText f u, f, hheader, hbody, hr, hd, hlead, count_brace_iff hu, fun hf => ?_⟩
    exact EndsFirst.not_swallows (hd ▸ (endsFirst_iff hu hr).mpr hf)

/-- A body with a comment in its lead, and with a further opening brace behind that. -/
theorem bodies_end_commented :
    let s : Text := "DEFINE FUNCTION fn::a() \x7b /* 1 */ RETURN \x7b 2 \x7d;"
    let d : Cursor := .ofOffset s [] 46
    body (.ofOffset s [] 24) = .ok ((), d) ∧
      (∃ f u, Lead (.ofOffset s [] 24) f ∧ '\x7d' ∉ u ∧
        d = (Cursor.ofOffset s [] 24).past (bodyText f u) ∧
          (EndsFirst (.ofOffset s [] 24) d ↔ '\x7d' ∉ f)) ∧
      definition (.ofSource s []) = .ok (⟨[], "a", [], []⟩, d) ∧
      ∃ e b f, header (.ofSource s []) = .ok (⟨[], "a", [], []⟩, e) ∧ body e = .ok ((), d) ∧
        e.rest = b ++ d.rest ∧ d = e.past b ∧ Lead e f ∧
          ((b.count '\x7d' = 1 ∧ b.getLast? = some '\x7d') ↔ '\x7d' ∉ f) ∧
          ('\x7d' ∉ f → ¬ Swallows e d) := by
  intro s d
  have hbody : body (.ofOffset s [] 24) = .ok ((), d) := by decide +kernel
  have hdefinition : definition (.ofSource s []) = .ok (⟨[], "a", [], []⟩, d) := by decide +kernel
  exact ⟨hbody, (bodies_end (.ofOffset s [] 24)).1 d hbody, hdefinition,
    (bodies_end (.ofSource s [])).2 _ d hdefinition⟩

/-- A body that begins with a comment with a closing brace in it.  It does not end at that brace; it
swallows the definition that follows, and ends behind the end of the comment there. -/
theorem body_swallows :
    let s : Text :=
      "DEFINE FUNCTION fn::a() \x7b /* \x7d;\nDEFINE FUNCTION fn::b() \x7b /**/ \x7d;"
    let c : Cursor := .ofOffset s [] 24
    let d : Cursor := .ofOffset s [] 64
    definition (.ofSource s []) = .ok (⟨[], "a", [], []⟩, d) ∧ body c = .ok ((), d) ∧
      ¬ EndsFirst c d ∧ Swallows c d := by
  intro s c d
  refine ⟨by decide +kernel, by decide +kernel, fun h => ?_, ?_⟩
  · exact absurd h.indexOf?_eq (by decide +kernel)
  · exact ⟨"\x7b /* \x7d;\n", "DEFINE FUNCTION fn::b() \x7b /**/ \x7d;", ⟨[], "b", [], []⟩, d,
      by decide +kernel, by decide +kernel, by decide +kernel, by decide +kernel⟩

end StoredFunctions.Statement
