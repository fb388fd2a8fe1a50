/-
# Reading generated code

How the generated module's language takes apart what the module defines: characters and literals
(`tokens`), lines (`lines`), what a line says (`Line.read?`), and what it stands within, which is
told by the columns where lines begin (`place`).

Lists between brackets are split at their commas, but not at those between further brackets
(`parts?`).

What is written is read piece by piece, as each piece is read in front of any other: code without
literals and a literal with the mark behind it (`Lexes`), an element of a list (`Whole`), a line
with its line end (`Reads`).  Lines in the order of their suites are placed as they are meant to
(`Nested.layout_eq`): the columns say no more than that, and no less.
-/
import Mathlib.Data.List.TakeWhile
import StoredFunctions.Proofs.Text.Literal

namespace StoredFunctions.Code

/-! ## 1. Tokens and lines -/

/-- What code consists of. -/
inductive Token where
  | char (c : Char)
  | literal (value : Text)
  deriving DecidableEq, Repr

/-- The tokens of code.  Outside of literals neither comments nor backslashes are read. -/
def tokens (named : Text → Option Char) : Text → Option (List Token)
  | [] => some []
  | c :: more =>
    if c = '"' || c = '\'' then
      match _h : Literal.read named (c :: more) with
      | none => none
      | some (value, rest) => (tokens named rest).map (.literal value :: ·)
    else if c = '\\' || c = '#' then none
    else (tokens named more).map (.char c :: ·)
termination_by t => t.length
decreasing_by
  · exact Literal.length_lt_of_read _h
  · exact Nat.lt_succ_self _

/-- The tokens between line ends. -/
def lines : List Token → List (List Token)
  | [] => []
  | t :: more =>
    if t = .char '\n' then [] :: lines more
    else
      match lines more with
      | [] => [[t]]
      | first :: others => (t :: first) :: others

/-- The tokens without the blanks in front of them. -/
def strip (ts : List Token) : List Token := ts.dropWhile (· = .char ' ')

/-- Where a line begins: how many blanks are in front of it. -/
def column (ts : List Token) : Nat := (ts.takeWhile (· = .char ' ')).length

/-! ## 2. Parts of a line -/

/-- The tokens of code without literals. -/
def word (t : Text) : List Token := t.map .char

/-- What stands behind a word. -/
def after? : Text → List Token → Option (List Token)
  | [], ts => some ts
  | _ :: _, [] => none
  | c :: w, t :: ts => if t = .char c then after? w ts else none

/-- The characters in front of the first `mark`, and what stands behind that. -/
def upTo? (mark : Char) : List Token → Option (Text × List Token)
  | .char c :: more =>
    if c = mark then some ([], more)
    else (upTo? mark more).map fun (t, rest) => (c :: t, rest)
  | _ => none

/-- The text that tokens spell, if there are no literals among them. -/
def spelt? : List Token → Option Text
  | [] => some []
  | .char c :: more => (spelt? more).map (c :: ·)
  | .literal _ :: _ => none

/-- How many brackets are open behind a token, where `depth` of them are open in front of it.  No
answer is given behind the bracket that closes the last one. -/
def depthAfter? (depth : Nat) : Token → Option Nat
  | .char c =>
    if c = '(' || c = '[' || c = '\x7b' then some (depth + 1)
    else if c = ')' || c = ']' || c = '\x7d' then
      match depth with
      | 0 => none
      | depth + 1 => some depth
    else some depth
  | .literal _ => some depth

/-- The parts between the commas up to a closing bracket, the first one and the others, and what
stands behind that bracket. -/
def parts? : Nat → List Token → Option (List Token × List (List Token) × List Token)
  | _, [] => none
  | depth, t :: more =>
    if depth = 0 && t = .char ',' then
      (parts? 0 more).map fun (first, others, rest) => ([], first :: others, rest)
    else
      match depthAfter? depth t with
      | none => some ([], [], more)
      | some depth =>
        (parts? depth more).map fun (first, others, rest) => (t :: first, others, rest)

/-! ## 3. What a line says -/

/-- What a line says. -/
inductive Line where
  /-- A literal by itself. -/
  | docstring (value : Text)
  /-- The mark of functions that belong to their class and to no object of it. -/
  | static
  /-- The header of a class. -/
  | opening (name : Text)
  /-- The header of an asynchronous function, with the names of its arguments. -/
  | signature (name : Text) (arguments : List Text)
  /-- The awaited result of a call with two arguments, a text and a dictionary of names. -/
  | query (callee text : Text) (bound : List (Text × Text))
  deriving DecidableEq, Repr

/-- Whether the lines behind this one, further to the right, stand within it. -/
def Line.opens : Line → Bool
  | .opening _ | .signature _ _ => true
  | _ => false

/-- A literal by itself. -/
def docstring? : List Token → Option Line
  | [.literal value] => some (.docstring value)
  | _ => none

/-- The mark of static functions. -/
def static? (ts : List Token) : Option Line :=
  if ts = word "@staticmethod" then some .static else none

/-- The header of a class. -/
def opening? (ts : List Token) : Option Line := do
  let ts ← after? "class " ts
  let (name, ts) ← upTo? ':' ts
  if ts.isEmpty then some (.opening name) else none

/-- The name of an argument, in front of its type hint. -/
def argument? (part : List Token) : Option Text := (upTo? ':' (strip part)).map Prod.fst

/-- The header of a function. -/
def signature? (ts : List Token) : Option Line := do
  let ts ← after? "async def " ts
  let (name, ts) ← upTo? '(' ts
  let (first, others, ts) ← parts? 0 ts
  if ts = word " -> Any:" then
    ((first :: others).mapM argument?).map (.signature name)
  else none

/-- An entry of a dictionary whose keys are literals, and whose values are names. -/
def pair? (part : List Token) : Option (Text × Text) :=
  match strip part with
  | .literal key :: .char ':' :: ts => (spelt? (strip ts)).map fun name => (key, name)
  | _ => none

/-- A dictionary whose keys are literals, and whose values are names. -/
def dictionary? (part : List Token) : Option (List (Text × Text)) := do
  let ts ← after? "\x7b" (strip part)
  let (first, others, ts) ← parts? 0 ts
  if ts.isEmpty then
    if (strip first).isEmpty && others.isEmpty then some [] else (first :: others).mapM pair?
  else none

/-- The awaited result of a call. -/
def query? (ts : List Token) : Option Line := do
  let ts ← after? "return await " ts
  let (callee, ts) ← upTo? '(' ts
  let (first, others, ts) ← parts? 0 ts
  match first, others, ts with
  | [.literal text], [bound], [] => (dictionary? bound).map (.query callee text)
  | _, _, _ => none

/-- What the tokens of a line say. -/
def Line.read? (ts : List Token) : Option Line :=
  docstring? ts <|> static? ts <|> opening? ts <|> signature? ts <|> query? ts

/-- What lines say, each with its column.  Empty lines say nothing. -/
def said? : List (List Token) → Option (List (Nat × Line))
  | [] => some []
  | ts :: more =>
    if (strip ts).isEmpty then said? more
    else (Line.read? (strip ts)).bind fun l => (said? more).map ((column ts, l) :: ·)

/-- What the lines of code say. -/
def read? (named : Text → Option Char) (t : Text) : Option (List (Nat × Line)) :=
  (tokens named t).bind fun ts => said? (lines ts)

/-! ## 4. What a line stands within -/

/-- The lines, each with those that it stands within, outermost first.  Among the lines that can
have others within them, `opened` are those that the line before stands within, or is; and those
count that are further to the left. -/
def place : List (Nat × Line) → List (Nat × Line) → List (List Line × Line)
  | _, [] => []
  | opened, (n, l) :: more =>
    let within := opened.takeWhile (·.1 < n)
    (within.map Prod.snd, l) :: place (if l.opens then within ++ [(n, l)] else within) more

/-- The lines of code, each with those that it stands within. -/
def layout? (named : Text → Option Char) (t : Text) : Option (List (List Line × Line)) :=
  (read? named t).map (place [])

variable {t u v : Text} {ts us : List Token} {ls ms : List (Nat × Line)} {c mark : Char} {l : Line}

/-! ## 5. Pieces of code -/

/-- What `u` is in code: it is read as the tokens `ts`, whatever stands behind it. -/
def Lexes (u : Text) (ts : List Token) : Prop :=
  ∀ named s, tokens named (u ++ s) = (tokens named s).map (ts ++ ·)

theorem Lexes.nil : Lexes [] [] := by
  intro named s
  simp

theorem Lexes.append (hu : Lexes u ts) (hv : Lexes v us) : Lexes (u ++ v) (ts ++ us) := by
  intro named s
  rw [List.append_assoc, hu, hv, Option.map_map]
  simp [Function.comp_def]

theorem Lexes.flatMap {α : Type} {f : α → Text} {g : α → List Token} {as : List α}
    (h : ∀ a ∈ as, Lexes (f a) (g a)) : Lexes (as.flatMap f) (as.flatMap g) :=
  related_flatMap .nil .append h

/-- Whether a character of code begins no literal, no comment and no line. -/
def isPlain (c : Char) : Bool := !(['"', '\'', '\\', '#', '\n'].contains c)

theorem lexes_lineEnd : Lexes ['\n'] [.char '\n'] := by
  intro named s
  rw [List.singleton_append, tokens, if_neg (by decide), if_neg (by decide)]
  rfl

theorem lexes_word (h : ∀ c ∈ t, isPlain c = true) : Lexes t (word t) := by
  induction t with
  | nil => exact .nil
  | cons c t ih =>
    obtain ⟨hc, ht⟩ := List.forall_mem_cons.mp h
    have hfirst : Lexes [c] [.char c] := by
      intro named s
      simp only [isPlain, List.contains_cons, Bool.not_eq_true', Bool.or_eq_false_iff,
        beq_eq_false_iff_ne] at hc
      obtain ⟨hdouble, hsingle, hbackslash, hhash, -⟩ := hc
      rw [List.singleton_append, tokens, if_neg (by simp [hdouble, hsingle]),
        if_neg (by simp [hbackslash, hhash])]
      rfl
    exact hfirst.append (ih ht)

/-- A literal is one token. -/
theorem tokens_literal {named : Text → Option Char} {rest : Text} (hm : mark = '"' ∨ mark = '\'')
    (h : Literal.read named (mark :: t) = some (v, rest)) :
    tokens named (mark :: t) = (tokens named rest).map (.literal v :: ·) := by
  rw [tokens, if_pos (by simpa using hm)]
  split
  · rename_i hnone
    rw [h] at hnone
    cases hnone
  · rename_i value behind hsome
    rw [h] at hsome
    obtain ⟨rfl, rfl⟩ := Prod.mk.inj (Option.some.inj hsome)
    rfl

/-- The quoted form of a text, with the character behind it, which is no quote. -/
theorem lexes_quoted (hc : isPlain c = true) :
    Lexes (t.quoted ++ [c]) [.literal t, .char c] := by
  intro named s
  have hquote : '\'' ∉ (c :: s).head? := by
    intro h
    obtain rfl : c = '\'' := Option.some.inj h
    exact absurd hc (by decide)
  have hread : Literal.read named (t.quoted ++ c :: s) = some (t, c :: s) :=
    Literal.read_quoted hquote
  have hmark : Lexes [c] [.char c] := lexes_word (t := [c]) (by simpa using hc)
  rw [List.append_assoc, List.singleton_append]
  rw [Text.quoted, List.cons_append, List.cons_append] at hread ⊢
  rw [tokens_literal (Literal.quoteMark_cases t) hread, ← List.singleton_append, hmark,
    Option.map_map]
  rfl

/-- A literal between three double quotes on either side. -/
theorem lexes_delimited (h : Literal.Encodes ['"', '"', '"'] u v) :
    Lexes (['"', '"', '"'] ++ (u ++ ['"', '"', '"'])) [.literal v] := by
  intro named s
  have hread : Literal.read named ('"' :: '"' :: '"' :: (u ++ ['"', '"', '"'] ++ s)) =
      some (v, s) := by
    rw [Literal.read, Literal.opening?, if_pos (by simp), List.append_assoc]
    exact Literal.delimited_of_encodes (by decide) h
  exact tokens_literal (.inl rfl) hread

/-! ## 6. Elements of lists -/

/-- What `ts` is in a list: a piece of one element, whatever stands behind it. -/
def Whole (ts : List Token) : Prop :=
  ∀ depth s, parts? depth (ts ++ s) =
    (parts? depth s).map fun (first, others, rest) => (ts ++ first, others, rest)

/-- What `ts` is inside of an element. -/
def Inner (ts : List Token) : Prop :=
  ∀ depth s, parts? (depth + 1) (ts ++ s) =
    (parts? (depth + 1) s).map fun (first, others, rest) => (ts ++ first, others, rest)

theorem Whole.inner (h : Whole ts) : Inner ts := fun depth => h (depth + 1)

theorem Whole.nil : Whole [] := by
  intro depth s
  simp

theorem Whole.append (h : Whole ts) (h' : Whole us) : Whole (ts ++ us) := by
  intro depth s
  rw [List.append_assoc, h, h', Option.map_map]
  simp [Function.comp_def]

theorem Inner.append (h : Inner ts) (h' : Inner us) : Inner (ts ++ us) := by
  intro depth s
  rw [List.append_assoc, h, h', Option.map_map]
  simp [Function.comp_def]

theorem Inner.flatMap {α : Type} {f : α → List Token} {as : List α}
    (h : ∀ a ∈ as, Inner (f a)) : Inner (as.flatMap f) :=
  flatMap_of_pieces Whole.nil.inner .append h

theorem whole_literal (t : Text) : Whole [.literal t] := by
  intro depth s
  rw [List.singleton_append, parts?, if_neg (by simp)]
  rfl

/-- Whether a character of code is neither a bracket nor a comma. -/
def isFlat (c : Char) : Bool := !(['(', '[', '\x7b', ')', ']', '\x7d', ','].contains c)

theorem whole_word (h : ∀ c ∈ t, isFlat c = true) : Whole (word t) := by
  induction t with
  | nil => exact .nil
  | cons c t ih =>
    obtain ⟨hc, ht⟩ := List.forall_mem_cons.mp h
    have hfirst : Whole [.char c] := by
      intro depth s
      simp only [isFlat, List.contains_cons, Bool.not_eq_true', Bool.or_eq_false_iff,
        beq_eq_false_iff_ne] at hc
      obtain ⟨h₁, h₂, h₃, h₄, h₅, h₆, hcomma, -⟩ := hc
      have hdepth : depthAfter? depth (.char c) = some depth := by
        simp [depthAfter?, h₁, h₂, h₃, h₄, h₅, h₆]
      rw [List.singleton_append, parts?, if_neg (by simp [hcomma]), hdepth]
      rfl
    exact hfirst.append (ih ht)

theorem inner_comma : Inner [.char ','] := by
  intro depth s
  rw [List.singleton_append, parts?, if_neg (by simp)]
  rfl

/-- Between brackets there may be commas. -/
theorem Inner.bracketed {a b : Char} (ha : a = '(' ∨ a = '[' ∨ a = '\x7b')
    (hb : b = ')' ∨ b = ']' ∨ b = '\x7d') (h : Inner ts) :
    Whole (.char a :: (ts ++ [.char b])) := by
  intro depth s
  have hclose : depthAfter? (depth + 1) (.char b) = some depth := by
    rcases hb with rfl | rfl | rfl <;> rfl
  have hopen : depthAfter? depth (.char a) = some (depth + 1) := by
    rcases ha with rfl | rfl | rfl <;> rfl
  have hcomma : Token.char a ≠ .char ',' := by
    rcases ha with rfl | rfl | rfl <;> decide
  rw [List.cons_append, List.append_assoc, parts?, if_neg (by simp [hcomma]), hopen]
  simp only []
  rw [h, List.singleton_append, parts?, if_neg (by simp), hclose]
  simp [Function.comp_def]

/-- **A list is split at its commas**, up to the bracket that closes it. -/
theorem parts?_list {first : List Token} {others : List (List Token)} {s : List Token}
    (hb : c = ')' ∨ c = ']' ∨ c = '\x7d') (hfirst : Whole first) (hothers : ∀ p ∈ others, Whole p) :
    parts? 0 (first ++ (others.flatMap (.char ',' :: ·) ++ .char c :: s)) =
      some (first, others, s) := by
  have hbehind : parts? 0 (others.flatMap (.char ',' :: ·) ++ .char c :: s) =
      some ([], others, s) := by
    clear hfirst
    induction others with
    | nil =>
      rw [List.flatMap_nil, List.nil_append, parts?]
      rcases hb with rfl | rfl | rfl <;> rfl
    | cons p others ih =>
      obtain ⟨hp, hothers⟩ := List.forall_mem_cons.mp hothers
      rw [List.flatMap_cons, List.append_assoc, List.cons_append, parts?, if_pos (by simp), hp,
        ih hothers]
      simp
  rw [hfirst, hbehind]
  simp

/-! ## 7. Parts of lines -/

@[simp] theorem word_append : word (t ++ u) = word t ++ word u := List.map_append

@[simp] theorem word_cons : word (c :: t) = .char c :: word t := rfl

@[simp] theorem word_nil : word [] = [] := rfl

theorem head?_word (h : t.head? = some c) : (word t).head? = some (.char c) := by
  rw [word, List.head?_map, h]
  rfl

theorem after?_word : after? t (word t ++ ts) = some ts := by
  induction t with
  | nil => rfl
  | cons c t ih => rw [word_cons, List.cons_append, after?, if_pos rfl, ih]

/-- A word is missing where another character stands. -/
theorem after?_eq_none (ht : t ≠ []) (h : ∀ x ∈ t.head?, ts.head? ≠ some (.char x)) :
    after? t ts = none := by
  obtain ⟨x, t, rfl⟩ := List.exists_cons_of_ne_nil ht
  cases ts with
  | nil => rfl
  | cons a ts =>
    have hne : a ≠ .char x := fun ha => h x rfl (by rw [ha]; rfl)
    rw [after?, if_neg hne]

theorem upTo?_word (h : mark ∉ t) : upTo? mark (word t ++ .char mark :: ts) = some (t, ts) := by
  induction t with
  | nil => rw [word_nil, List.nil_append, upTo?, if_pos rfl]
  | cons c t ih =>
    obtain ⟨hc, ht⟩ := not_or.mp (mt List.mem_cons.mpr h)
    rw [word_cons, List.cons_append, upTo?, if_neg (Ne.symm hc), ih ht]
    rfl

theorem spelt?_word : spelt? (word t) = some t := by
  induction t with
  | nil => rfl
  | cons c t ih =>
    rw [word_cons, spelt?, ih]
    rfl

theorem strip_blank : strip (.char ' ' :: ts) = strip ts := by
  rw [strip, List.dropWhile_cons_of_pos (by simp)]
  rfl

theorem strip_of_head (h : ts.head? ≠ some (.char ' ')) : strip ts = ts := by
  cases ts with
  | nil => rfl
  | cons a ts =>
    have ha : a ≠ .char ' ' := fun ha => h (by rw [ha]; rfl)
    exact List.dropWhile_cons_of_neg (by simpa using ha)

/-- What is read depends on the first token: a literal, or one of the characters that the words
begin with. -/
theorem docstring?_of_char (h : ts.head? = some (.char c)) : docstring? ts = none := by
  cases ts with
  | nil => rfl
  | cons a ts =>
    obtain rfl := Option.some.inj h
    rfl

theorem static?_of_char (h : ts.head? = some (.char c)) (hc : c ≠ '@') : static? ts = none := by
  refine if_neg ?_
  rintro rfl
  rw [Text.of_eq] at h
  exact hc (Token.char.inj (Option.some.inj h)).symm

theorem after?_of_char (h : ts.head? = some (.char c)) (hne : t ≠ []) (ht : c ∉ t.head?) :
    after? t ts = none := by
  refine after?_eq_none hne fun x hx hts => ?_
  rw [h] at hts
  obtain rfl := Token.char.inj (Option.some.inj hts)
  exact ht hx

theorem opening?_of_char (h : ts.head? = some (.char c)) (hc : c ≠ 'c') : opening? ts = none := by
  have hword : after? "class " ts = none := by
    rw [Text.of_eq]
    exact after?_of_char h (by decide) fun hx => hc (Option.some.inj hx).symm
  rw [opening?, hword]
  rfl

theorem signature?_of_char (h : ts.head? = some (.char c)) (hc : c ≠ 'a') :
    signature? ts = none := by
  have hword : after? "async def " ts = none := by
    rw [Text.of_eq]
    exact after?_of_char h (by decide) fun hx => hc (Option.some.inj hx).symm
  rw [signature?, hword]
  rfl

/-! ## 8. Lines -/

/-- What `u` is among lines: it says `ls`, whatever stands behind it. -/
def Reads (u : Text) (ls : List (Nat × Line)) : Prop :=
  ∀ named s, read? named (u ++ s) = (read? named s).map (ls ++ ·)

theorem Reads.nil : Reads [] [] := by
  intro named s
  simp

theorem Reads.append (hu : Reads u ls) (hv : Reads v ms) : Reads (u ++ v) (ls ++ ms) := by
  intro named s
  rw [List.append_assoc, hu, hv, Option.map_map]
  simp [Function.comp_def]

theorem Reads.flatMap {α : Type} {f : α → Text} {g : α → List (Nat × Line)} {as : List α}
    (h : ∀ a ∈ as, Reads (f a) (g a)) : Reads (as.flatMap f) (as.flatMap g) :=
  related_flatMap .nil .append h

theorem lines_append (h : .char '\n' ∉ ts) : lines (ts ++ .char '\n' :: us) = ts :: lines us := by
  induction ts with
  | nil => rw [List.nil_append, lines, if_pos rfl]
  | cons a ts ih =>
    obtain ⟨ha, hts⟩ := not_or.mp (mt List.mem_cons.mpr h)
    rw [List.cons_append, lines, if_neg (Ne.symm ha), ih hts]

/-- An empty line says nothing. -/
theorem reads_empty : Reads ['\n'] [] := by
  intro named s
  rw [read?, lexes_lineEnd, read?, Option.bind_map]
  cases tokens named s with
  | none => rfl
  | some us =>
    simp only [Option.bind_some, Function.comp_apply]
    rw [List.singleton_append, lines, if_pos rfl, said?, if_pos (by rfl)]
    simp

theorem strip_replicate {n : Nat} : strip (List.replicate n (.char ' ') ++ ts) = strip ts := by
  induction n with
  | zero => rfl
  | succ n ih => rw [List.replicate_succ, List.cons_append, strip_blank, ih]

theorem column_replicate {n : Nat} (h : ts.head? ≠ some (.char ' ')) :
    column (List.replicate n (.char ' ') ++ ts) = n := by
  have htake : ts.takeWhile (· = .char ' ') = [] := by
    cases ts with
    | nil => rfl
    | cons a ts =>
      have ha : a ≠ .char ' ' := fun ha => h (by rw [ha]; rfl)
      exact List.takeWhile_cons_of_neg (by simpa using ha)
  rw [column, List.takeWhile_append_of_pos (by simp), htake]
  simp

/-- **A line is read with its column.** -/
theorem reads_line {n : Nat} (hu : Lexes u ts) (hline : .char '\n' ∉ ts) (hne : ts ≠ [])
    (hblank : ts.head? ≠ some (.char ' ')) (hread : Line.read? ts = some l) :
    Reads (List.replicate n ' ' ++ (u ++ ['\n'])) [(n, l)] := by
  have hblanks : Lexes (List.replicate n ' ') (List.replicate n (.char ' ')) := by
    have hword := lexes_word (t := List.replicate n ' ') (by simp [isPlain])
    rwa [word, List.map_replicate] at hword
  have hlex := (hblanks.append (hu.append lexes_lineEnd))
  have hplain : Token.char '\n' ∉ List.replicate n (.char ' ') ++ ts := by
    simp [hline]
  intro named s
  rw [read?, hlex, read?, Option.bind_map]
  cases tokens named s with
  | none => rfl
  | some us =>
    simp only [Option.bind_some, Function.comp_apply]
    have hlines : lines (List.replicate n (.char ' ') ++ (ts ++ [.char '\n']) ++ us) =
        (List.replicate n (.char ' ') ++ ts) :: lines us := by
      rw [← lines_append hplain]
      simp
    have hstrip : strip (List.replicate n (.char ' ') ++ ts) = ts := by
      rw [strip_replicate, strip_of_head hblank]
    rw [hlines, said?, hstrip, if_neg (by simpa using hne), hread, column_replicate hblank]
    rfl

/-! ## 9. Suites -/

/-- Lines in the order of their suites, each with those that it stands within: `rs` are lines of the
suite that stands within `p`, with all that stands within them. -/
inductive Nested : List Line → List (List Line × Line) → Prop
  | nil {p : List Line} : Nested p []
  | leaf {p : List Line} {l : Line} {rs : List (List Line × Line)} :
    l.opens = false → Nested p rs → Nested p ((p, l) :: rs)
  | suite {p : List Line} {l : Line} {inner rs : List (List Line × Line)} :
    l.opens = true → Nested (p ++ [l]) inner → Nested p rs → Nested p ((p, l) :: (inner ++ rs))

variable {p : List Line} {rs qs : List (List Line × Line)} {opened : List (Nat × Line)}

theorem Nested.append (h : Nested p rs) (h' : Nested p qs) : Nested p (rs ++ qs) := by
  induction h with
  | nil => exact h'
  | leaf hl _ ih => exact .leaf hl (ih h')
  | suite hl hinner _ _ ih =>
    rw [List.cons_append, List.append_assoc]
    exact .suite hl hinner (ih h')

theorem Nested.flatMap {α : Type} {f : α → List (List Line × Line)} {as : List α}
    (h : ∀ a ∈ as, Nested p (f a)) : Nested p (as.flatMap f) :=
  flatMap_of_pieces .nil .append h

/-- A line at the column that fits: four blanks for each line that it stands within. -/
def indented (r : List Line × Line) : Nat × Line := (4 * r.1.length, r.2)

/-- The headers that a suite stands within, with their columns. -/
def headers (p : List Line) : List (Nat × Line) := p.mapIdx fun i l => (4 * i, l)

/-- Whether the lines that are open, as far as they are to the left of the suite within `p`, are
just those of `p`. -/
def Within (p : List Line) (opened : List (Nat × Line)) : Prop :=
  opened.takeWhile (·.1 < 4 * p.length) = headers p

theorem headers_concat : headers (p ++ [l]) = headers p ++ [(4 * p.length, l)] := by
  rw [headers, List.mapIdx_concat]
  rfl

theorem map_snd_headers : (headers p).map Prod.snd = p := by
  simp [headers, List.mapIdx_eq_zipIdx_map, Function.comp_def]

theorem headers_left : ∀ h ∈ headers p, decide (h.1 < 4 * p.length) = true := by
  intro h hh
  obtain ⟨i, hi, rfl⟩ := List.mem_mapIdx.mp hh
  simpa using hi

theorem within_headers : Within p (headers p) := by
  rw [Within, ← List.append_nil (headers p), List.takeWhile_append_of_pos headers_left]
  rfl

theorem within_headers_concat : Within p (headers (p ++ [l])) := by
  rw [Within, headers_concat, List.takeWhile_append_of_pos headers_left,
    List.takeWhile_cons_of_neg (by simp), List.append_nil]

/-- Behind a suite its header may stay open: it is as far to the right as the lines around it. -/
theorem Within.outer (h : Within (p ++ [l]) opened) : Within p opened := by
  have hboth : ∀ a : Nat × Line, a.1 < 4 * p.length ∧ a.1 < 4 * (p ++ [l]).length ↔
      a.1 < 4 * p.length := by
    intro a
    rw [List.length_append, List.length_singleton]
    omega
  have htwice := List.takeWhile_takeWhile (fun a : Nat × Line => decide (a.1 < 4 * p.length))
    (fun a => decide (a.1 < 4 * (p ++ [l]).length)) opened
  simp only [decide_eq_true_eq, hboth] at htwice
  rw [Within, ← htwice, h]
  exact within_headers_concat

/-- **Lines in the order of their suites are placed where they belong.** -/
theorem Nested.exists_place (h : Nested p rs) : ∀ opened more, Within p opened →
    ∃ opened', Within p opened' ∧
      place opened (rs.map indented ++ more) = rs ++ place opened' more := by
  induction h with
  | nil => exact fun opened more hopened => ⟨opened, hopened, rfl⟩
  | @leaf p l rs hl _ ih =>
    intro opened more hopened
    obtain ⟨opened', hopened', hplace⟩ := ih _ more within_headers
    refine ⟨opened', hopened', ?_⟩
    rw [List.map_cons, List.cons_append, indented, place, hopened, map_snd_headers, hl]
    simp [hplace]
  | @suite p l inner rs hl _ _ ihinner ih =>
    intro opened more hopened
    obtain ⟨opened₁, hopened₁, hplace₁⟩ :=
      ihinner (headers (p ++ [l])) (rs.map indented ++ more) within_headers
    obtain ⟨opened', hopened', hplace⟩ := ih opened₁ more hopened₁.outer
    refine ⟨opened', hopened', ?_⟩
    rw [List.map_cons, List.cons_append, indented, place, hopened, map_snd_headers, hl, if_pos rfl,
      ← headers_concat, List.map_append, List.append_assoc, hplace₁, hplace]
    simp

/-- **The layout of lines in the order of their suites**, if they are written at the columns that
fit. -/
theorem Nested.layout_eq (h : Nested [] rs) (ht : Reads t (rs.map indented))
    (named : Text → Option Char) : layout? named t = some rs := by
  have hread := ht named []
  rw [List.append_nil] at hread
  obtain ⟨opened, -, hplace⟩ := h.exists_place [] [] rfl
  rw [List.append_nil] at hplace
  rw [layout?, hread, read?, tokens]
  simp [lines, said?, hplace, place]

end StoredFunctions.Code
