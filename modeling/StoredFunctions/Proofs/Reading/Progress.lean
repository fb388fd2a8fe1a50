/-
# Progress of a repetition

A repetition tries its element again and again, each time where the last element has ended, until an
attempt refuses, fails for good, or ends where it began.  `Runs` is this loop, attempt by attempt.

Nothing in the loop itself makes it stop.  What does is that its element stays in the document
(`StaysIn`): an element that is kept ends strictly behind the one before it, so there are no more
attempts than characters left, and one.  This is all that is asked of an element, and of a
separator; where they fail does not matter, nor that they may take nothing.

* `StaysIn.repetition`: the loop comes to an end, in one way only, and `many` is this loop;
* `StaysIn.begun`: so does the loop behind a first element, of `many1` and `separated1`.
-/
import StoredFunctions.Proofs.Reading.Location

namespace StoredFunctions.Parser

variable {α β : Type} {p q : Parser α} {separator : Parser β} {source : Text} {c d start : Cursor}
  {v : α} {n m : Nat} {first : List α} {items items' : List (α × Cursor)}
  {ending ending' : Option Fault} {fault : Fault} {o : Except Fault (List α × Cursor)}

/-! ## 1. Attempts -/

/-- An attempt at `c` ends a repetition: without a fault, or with one. -/
inductive Halts (p : Parser α) (c : Cursor) : Option Fault → Prop
  /-- The element refuses. -/
  | refused : Refuses p c → Halts p c none
  /-- The element ends where it began, and is not kept. -/
  | stalled {v : α} {d : Cursor} : p c = .ok (v, d) → d.offset = c.offset → Halts p c none
  /-- The element fails for good. -/
  | raised {fault : Fault} : p c = .error fault → fault.IsFinal → Halts p c (some fault)

/-- A repetition of `p` from `c`: the number of its attempts, the elements that it keeps, each with
the place where it ends, and the fault that it stops with, if it does. -/
inductive Runs (p : Parser α) : Cursor → Nat → List (α × Cursor) → Option Fault → Prop
  | halts {c : Cursor} {ending : Option Fault} : Halts p c ending → Runs p c 1 [] ending
  /-- The element is kept, and the next attempt is made where it ends. -/
  | kept {c d : Cursor} {v : α} {n : Nat} {items : List (α × Cursor)} {ending : Option Fault} :
      p c = .ok (v, d) → d.offset ≠ c.offset → Runs p d n items ending →
      Runs p c (n + 1) ((v, d) :: items) ending

theorem halts_or_kept (p : Parser α) (c : Cursor) :
    (∃ ending, Halts p c ending) ∨ ∃ v d, p c = .ok (v, d) ∧ d.offset ≠ c.offset := by
  rcases h : p c with (f | n) | ⟨v, d⟩
  · by_cases hf : f.committed = true
    · exact .inl ⟨_, .raised h hf⟩
    · exact .inl ⟨_, .refused ⟨f, h, by simpa using hf⟩⟩
  · exact .inl ⟨_, .raised h trivial⟩
  · by_cases hd : d.offset = c.offset
    · exact .inl ⟨_, .stalled h hd⟩
    · exact .inr ⟨v, d, rfl, hd⟩

theorem Halts.unique (h : Halts p c ending) (h' : Halts p c ending') : ending' = ending := by
  cases h <;> cases h' <;> grind [Refuses, Fault.IsFinal]

theorem Halts.not_kept (h : Halts p c ending) (hv : p c = .ok (v, d)) : d.offset = c.offset := by
  cases h <;> grind [Refuses]

/-- **There is one way** in which a repetition can go. -/
theorem Runs.unique (h : Runs p c n items ending) (h' : Runs p c m items' ending') :
    m = n ∧ items' = items ∧ ending' = ending := by
  induction h generalizing m items' ending' with
  | halts hhalts =>
    cases h' with
    | halts hhalts' => exact ⟨rfl, rfl, hhalts.unique hhalts'⟩
    | kept hv hd _ => exact absurd (hhalts.not_kept hv) hd
  | kept hv hd _ ih =>
    cases h' with
    | halts hhalts => exact absurd (hhalts.not_kept hv) hd
    | kept hv' _ hmore =>
      obtain ⟨rfl, rfl⟩ := Prod.mk.inj (Except.ok.inj (hv.symm.trans hv'))
      obtain ⟨rfl, rfl, rfl⟩ := ih hmore
      exact ⟨rfl, rfl, rfl⟩

/-! ## 2. Answers -/

/-- The place where the last of the elements ends that were kept from `c` on. -/
def lastPlace (c : Cursor) (items : List (α × Cursor)) : Cursor :=
  (items.getLast?.map Prod.snd).getD c

/-- What a repetition is answered with that has kept `items` from `c` on, behind the elements
`first`: all elements, and the place where the last one ends, or the fault. -/
def answer (first : List α) (c : Cursor) (items : List (α × Cursor)) :
    Option Fault → Except Fault (List α × Cursor)
  | none => .ok (first ++ items.map Prod.fst, lastPlace c items)
  | some fault => .error fault

theorem lastPlace_cons : lastPlace c ((v, d) :: items) = lastPlace d items := by
  rw [lastPlace, lastPlace, List.getLast?_cons]
  cases items.getLast? with
  | none => rfl
  | some x => rfl

theorem answer_nil_cons : answer [] c ((v, d) :: items) ending = answer [v] d items ending := by
  cases ending with
  | none => rw [answer, answer, lastPlace_cons]; rfl
  | some fault => rfl

/-- The last attempt is made where the last element ends. -/
theorem Runs.halts_last (h : Runs p c n items ending) : Halts p (lastPlace c items) ending := by
  induction h with
  | halts hhalts => exact hhalts
  | kept _ _ _ ih => rwa [lastPlace_cons]

/-! ## 3. Elements that stay in the document -/

/-- A parser **stays in a document** if from every place of it that is not past its end it stops, if
it does not fail, at a place of it that is not in front and not past the end either. -/
def StaysIn (source : Text) (p : Parser α) : Prop :=
  ∀ c v d, c.source = source → c.offset ≤ source.length → p c = .ok (v, d) →
    d.source = source ∧ c.offset ≤ d.offset ∧ d.offset ≤ source.length

theorem StaysIn.bind {f : α → Parser β} (hp : StaysIn source p) (hf : ∀ a, StaysIn source (f a)) :
    StaysIn source (p >>= f) := by
  intro c v e hc hoffset h
  obtain ⟨a, d, ha, hv⟩ := bind_ok_iff.mp h
  obtain ⟨hd, hle, hinside⟩ := hp c a d hc hoffset ha
  obtain ⟨he, hle', hinside'⟩ := hf a d v e hd hinside hv
  exact ⟨he, Nat.le_trans hle hle', hinside'⟩

theorem Forward.staysIn {s : Bool} (hp : Forward s p) : StaysIn source p := by
  rintro c v d rfl hoffset h
  have hplaced := hp c hoffset
  rw [h] at hplaced
  refine ⟨hplaced.source, hplaced.le, ?_⟩
  rw [← hplaced.source]
  exact hplaced.inside

section

variable (hp : StaysIn source p) (hc : c.source = source) (hoffset : c.offset ≤ source.length)

include hp hc hoffset

/-- An element that is kept ends behind the place of its attempt. -/
theorem StaysIn.lt_of_ne (h : p c = .ok (v, d)) (hd : d.offset ≠ c.offset) :
    c.offset < d.offset :=
  Nat.lt_of_le_of_ne (hp c v d hc hoffset h).2.1 hd.symm

/-- Behind an element the end of the document is nearer just if the element took something. -/
theorem StaysIn.distance_lt_iff (h : p c = .ok (v, d)) :
    d.distance < c.distance ↔ d.offset ≠ c.offset := by
  obtain ⟨hsource, hle, hinside⟩ := hp c v d hc hoffset h
  rw [Cursor.distance_eq, Cursor.distance_eq, hsource, hc]
  omega

/-- **A repetition comes to an end**, by induction on the number of characters left. -/
theorem StaysIn.exists_runs :
    ∃ n items ending, Runs p c n items ending ∧ n ≤ source.length - c.offset + 1 := by
  induction hleft : source.length - c.offset using Nat.strongRecOn generalizing c with
  | ind left ih =>
    rcases halts_or_kept p c with ⟨ending, hhalts⟩ | ⟨v, d, h, hd⟩
    · exact ⟨1, [], ending, .halts hhalts, by omega⟩
    · obtain ⟨hsource, -, hinside⟩ := hp c v d hc hoffset h
      have hlt := hp.lt_of_ne hc hoffset h hd
      obtain ⟨n, items, ending, hruns, hn⟩ := ih _ (by omega) hsource hinside rfl
      exact ⟨n + 1, _, ending, .kept h hd hruns, by omega⟩

/-- The elements that are kept end one behind the other. -/
theorem Runs.ascends (h : Runs p c n items ending) :
    (c :: items.map Prod.snd).Pairwise fun d e => d.offset < e.offset := by
  induction h with
  | halts _ => exact List.pairwise_singleton _ _
  | kept hv hd _ ih =>
    obtain ⟨hsource, -, hinside⟩ := hp _ _ _ hc hoffset hv
    have hlt := hp.lt_of_ne hc hoffset hv hd
    have hmore := ih hsource hinside
    refine List.pairwise_cons.mpr ⟨List.forall_mem_cons.mpr ⟨hlt, fun e he => ?_⟩, hmore⟩
    exact Nat.lt_trans hlt ((List.pairwise_cons.mp hmore).1 e he)

/-- **The loop is the repetition.** -/
theorem Runs.many_eq (h : Runs p c n items ending) :
    Parser.many p c = answer [] c items ending := by
  induction h with
  | halts hhalts =>
    cases hhalts with
    | refused hr => exact many_of_refuses hr
    | stalled hv hd =>
      exact many_of_stalled hv fun hlt => (hp.distance_lt_iff hc hoffset hv).mp hlt hd
    | raised he hfinal => exact many_of_final he hfinal
  | @kept c d v n items ending hv hd _ ih =>
    obtain ⟨hsource, -, hinside⟩ := hp _ _ _ hc hoffset hv
    have hlt := (hp.distance_lt_iff hc hoffset hv).mpr hd
    have hmore := ih hsource hinside
    rw [answer_nil_cons]
    cases ending with
    | none => exact many_of_ok hv hlt hmore
    | some fault => exact many_of_error hv hlt hmore

end

/-! ## 4. How repetitions go -/

/-- How a repetition of `p` goes that was started at `start` and has read the elements `first` up to
`c`, and what it is answered with. -/
structure Repetition (p : Parser α) (start : Cursor) (first : List α) (c : Cursor) (n : Nat)
    (items : List (α × Cursor)) (ending : Option Fault) (o : Except Fault (List α × Cursor)) :
    Prop where
  runs : Runs p c n items ending
  /-- It goes in no other way. -/
  only : ∀ m items' ending', Runs p c m items' ending' →
    m = n ∧ items' = items ∧ ending' = ending
  /-- From `c` on there is at most one attempt for each character behind the start, and one. -/
  attempts : n ≤ start.source.length - start.offset + 1
  /-- Each element that is kept ends strictly behind the one before it. -/
  ascends : (c :: items.map Prod.snd).Pairwise fun d e => d.offset < e.offset
  /-- The last attempt is made where the last element ends, and ends the repetition. -/
  halts : Halts p (lastPlace c items) ending
  answered : o = answer first c items ending

theorem StaysIn.repetition (hp : StaysIn source p) (hc : c.source = source)
    (hoffset : c.offset ≤ source.length) :
    ∃ n items ending, Repetition p c [] c n items ending (Parser.many p c) := by
  obtain ⟨n, items, ending, hruns, hn⟩ := hp.exists_runs hc hoffset
  exact ⟨n, items, ending, hruns, fun _ _ _ h => hruns.unique h, by rw [hc]; exact hn,
    hruns.ascends hp hc hoffset, hruns.halts_last, hruns.many_eq hp hc hoffset⟩

/-- How a repetition of `p` behind one element of `q` goes that is started at `c`, and what it is
answered with. -/
inductive Begun (q p : Parser α) (c : Cursor) : Except Fault (List α × Cursor) → Prop
  /-- It fails where its first element does. -/
  | fails {fault : Fault} : q c = .error fault → Begun q p c (.error fault)
  /-- It goes on where its first element ends. -/
  | continues {d : Cursor} {v : α} {n : Nat} {items : List (α × Cursor)} {ending : Option Fault}
      {o : Except Fault (List α × Cursor)} :
      q c = .ok (v, d) → Repetition p c [v] d n items ending o → Begun q p c o

theorem StaysIn.begun (hq : StaysIn source q) (hp : StaysIn source p) (hc : c.source = source)
    (hoffset : c.offset ≤ source.length) :
    Begun q p c ((do
      let first ← q
      let more ← Parser.many p
      Pure.pure (first :: more) : Parser (List α)) c) := by
  cases hv : q c with
  | error fault =>
    rw [bind_of_error hv]
    exact .fails hv
  | ok x =>
    obtain ⟨hsource, hle, hinside⟩ := hq c x.1 x.2 hc hoffset hv
    obtain ⟨n, items, ending, h⟩ := hp.repetition hsource hinside
    have hattempts := h.attempts
    rw [hsource] at hattempts
    refine .continues hv ⟨h.runs, h.only, ?_, h.ascends, h.halts, ?_⟩
    · rw [hc]
      omega
    · rw [bind_of_ok hv]
      cases ending with
      | none => rw [bind_of_ok h.answered, pure_eq]; rfl
      | some fault => exact bind_of_error h.answered

theorem StaysIn.many1_begun (hp : StaysIn source p) (hc : c.source = source)
    (hoffset : c.offset ≤ source.length) : Begun p p c (Parser.many1 p c) :=
  hp.begun hp hc hoffset

theorem StaysIn.separated1_begun (hseparator : StaysIn source separator) (hp : StaysIn source p)
    (hc : c.source = source) (hoffset : c.offset ≤ source.length) :
    Begun p (do let _ ← separator; p) c (Parser.separated1 separator p c) :=
  hp.begun (hseparator.bind fun _ => hp) hc hoffset

end StoredFunctions.Parser
