/-
# Literals of generated code

How the generated module's language reads a literal.  It does so in two passes.  The first one
finds the end: the literal begins with a quote, or with three of them, and ends at the first place
where as many stand again, where a backslash takes the character behind it out of the count
(`untilClose`).  The second one decodes what is between, escape by escape (`decode`).

What is written for a text is read unit by unit: a unit neither closes the literal nor says
anything about the units beside it (`Encodes`).  `read_quoted` is the result for the quoted form of
a text: it is read as the text, and the reader stops behind its closing quote.

Both passes are about texts whose line ends are line feeds.  Before them, a module's reader has
written every line end of the module as a line feed, and it takes no module with the character
zero; `inModule` is the reader with that step in front.
-/
import Mathlib.Algebra.Group.Nat.Defs
import StoredFunctions.Proofs.Json.String
import StoredFunctions.Text.Blank
import StoredFunctions.Text.Quoted

namespace StoredFunctions

namespace Text

/-- What is said of all characters of a text is decided along the text, and not for every character
that there is. -/
instance (priority := high) decidableForallMem (p : Char → Prop) [DecidablePred p] (t : Text) :
    Decidable (∀ c ∈ t, p c) := List.decidableBAll p t

/-! ## 1. Hexadecimal digits -/

variable {n width : Nat}

/-- In front of the last digit one digit less is enough. -/
theorem div_sixteen_lt (h : n < 16 ^ (width + 2)) : n / 16 < 16 ^ (width + 1) := by
  rw [Nat.div_lt_iff_lt_mul (by decide), ← Nat.pow_succ]
  exact h

theorem length_hex_succ : n < 16 ^ (width + 1) → (hex (width + 1) n).length = width + 1 := by
  induction width generalizing n with
  | zero =>
    intro h
    rw [hex_one h, List.length_singleton]
  | succ width ih =>
    intro h
    rw [hex_succ, List.length_append, ih (div_sixteen_lt h), List.length_singleton]

/-- There is nothing but digits in hexadecimal digits. -/
theorem exists_digit_of_mem_hex {c : Char} :
    n < 16 ^ (width + 1) → c ∈ hex (width + 1) n → ∃ d < 16, c = Nat.digitChar d := by
  induction width generalizing n with
  | zero =>
    intro h hc
    rw [hex_one h, List.mem_singleton] at hc
    exact ⟨n, h, hc⟩
  | succ width ih =>
    intro h hc
    rw [hex_succ, List.mem_append, List.mem_singleton] at hc
    rcases hc with hc | hc
    · exact ih (div_sixteen_lt h) hc
    · exact ⟨n % 16, Nat.mod_lt n (by decide), hc⟩

theorem digitsToBase?_concat {digits : Text} {d : Nat} (hne : digits ≠ []) (hd : d < 16)
    (h : digitsToBase? 16 digits = some n) :
    digitsToBase? 16 (digits ++ [Nat.digitChar d]) = some (n * 16 + d) := by
  rw [digitsToBase?, if_neg (by simpa using hne)] at h
  rw [digitsToBase?, if_neg (by simp), List.foldlM_append, h]
  simp [hexDigit?_digitChar d hd, hd]

/-- **A number is read back from its hexadecimal digits.** -/
theorem digitsToBase?_hex :
    n < 16 ^ (width + 1) → digitsToBase? 16 (hex (width + 1) n) = some n := by
  induction width generalizing n with
  | zero =>
    intro h
    have hn : n < 16 := h
    rw [hex_one h]
    simp [digitsToBase?, hexDigit?_digitChar n hn, hn]
  | succ width ih =>
    intro h
    have hdiv : n / 16 < 16 ^ (width + 1) := div_sixteen_lt h
    have hne : hex (width + 1) (n / 16) ≠ [] := by
      refine List.ne_nil_of_length_pos ?_
      rw [length_hex_succ hdiv]
      exact Nat.succ_pos width
    rw [hex_succ, digitsToBase?_concat hne (Nat.mod_lt n (by decide)) (ih hdiv),
      Nat.div_add_mod' n 16]

end Text

namespace Literal

/-! ## 2. Where a literal ends -/

/-- The text in front of the first `delimiter` without a backslash before it, and the text behind
that.  A literal with one quote on either side ends on its own line. -/
def untilClose (delimiter : Text) : Text → Option (Text × Text)
  | [] => none
  | '\\' :: c :: more =>
    (untilClose delimiter more).map fun (inside, rest) => ('\\' :: c :: inside, rest)
  | c :: more =>
    if delimiter <+: c :: more then some ([], (c :: more).drop delimiter.length)
    else if c = '\n' && delimiter.length = 1 then none
    else (untilClose delimiter more).map fun (inside, rest) => (c :: inside, rest)

/-! ## 3. What a literal stands for -/

/-- The character with a number. -/
def charOf? (n : Nat) : Option Char := if n.isValidChar then some (Char.ofNat n) else none

/-- The character whose number the first `width` characters spell in hexadecimal digits. -/
def hexChar? (width : Nat) (t : Text) : Option Char :=
  if (t.take width).length = width then (Text.digitsToBase? 16 (t.take width)).bind charOf?
  else none

/-- What a character behind a backslash stands for by itself.  A line end stands for nothing. -/
def single? (c : Char) : Option Text :=
  if c = '\n' then some []
  else if c = '\\' || c = '\'' || c = '"' then some [c]
  else if c = 'a' then some ['\x07']
  else if c = 'b' then some ['\x08']
  else if c = 'f' then some ['\x0c']
  else if c = 'n' then some ['\n']
  else if c = 'r' then some ['\r']
  else if c = 't' then some ['\t']
  else if c = 'v' then some ['\x0b']
  else none

/-- Whether a character is one of the eight octal digits. -/
def isOctal (c : Char) : Bool := '0' ≤ c && c ≤ '7'

/-- What stands behind a backslash: the text that it stands for, and how many characters it takes.
The names of characters are the table `named`; characters that begin no escape keep their
backslash. -/
def escape (named : Text → Option Char) : Text → Option (Text × Nat)
  | [] => none
  | 'x' :: more => (hexChar? 2 more).map fun c => ([c], 3)
  | 'u' :: more => (hexChar? 4 more).map fun c => ([c], 5)
  | 'U' :: more => (hexChar? 8 more).map fun c => ([c], 9)
  | 'N' :: '\x7b' :: more =>
    let name := more.takeWhile (· != '\x7d')
    if name.length < more.length then (named name).map fun c => ([c], name.length + 3) else none
  | 'N' :: _ => none
  | c :: more =>
    if isOctal c then
      let digits := ((c :: more).take 3).takeWhile isOctal
      ((Text.digitsToBase? 8 digits).bind charOf?).map fun c => ([c], digits.length)
    else
      match single? c with
      | some t => some (t, 1)
      | none => some (['\\', c], 1)

/-- What the text between the quotes stands for.  The first `taken` characters belong to an
escape that has been decoded. -/
def decode (named : Text → Option Char) : Nat → Text → Option Text
  | _, [] => some []
  | taken + 1, _ :: more => decode named taken more
  | 0, '\\' :: more =>
    match escape named more with
    | none => none
    | some (t, n) => (decode named n more).map (t ++ ·)
  | 0, c :: more => (decode named 0 more).map (c :: ·)

/-- The value of the literal between two of `delimiter` at the start of a text, and the text
behind. -/
def delimited (named : Text → Option Char) (delimiter t : Text) : Option (Text × Text) :=
  if delimiter <+: t then
    match untilClose delimiter (t.drop delimiter.length) with
    | none => none
    | some (inside, rest) => (decode named 0 inside).map fun value => (value, rest)
  else none

/-- The quotes that a literal begins with: three if there are as many, and one otherwise. -/
def opening? : Text → Option Text
  | '"' :: more => some (if ['"', '"'] <+: more then ['"', '"', '"'] else ['"'])
  | '\'' :: more => some (if ['\'', '\''] <+: more then ['\'', '\'', '\''] else ['\''])
  | _ => none

/-- The value of the literal at the start of a text, and the text behind. -/
def read (named : Text → Option Char) (t : Text) : Option (Text × Text) :=
  (opening? t).bind fun delimiter => delimited named delimiter t

variable {named : Text → Option Char} {delimiter s t u v w : Text} {c x mark : Char} {n width : Nat}

/-! ## 4. Units -/

theorem untilClose_escaped : untilClose delimiter ('\\' :: c :: t) =
    (untilClose delimiter t).map fun (inside, rest) => ('\\' :: c :: inside, rest) := by
  rw [untilClose]

theorem untilClose_cons (hc : c ≠ '\\') : untilClose delimiter (c :: t) =
    if delimiter <+: c :: t then some ([], (c :: t).drop delimiter.length)
    else if c = '\n' && delimiter.length = 1 then none
    else (untilClose delimiter t).map fun (inside, rest) => (c :: inside, rest) := by
  rw [untilClose]
  exact fun _ _ h _ => hc h

theorem decode_cons (hc : c ≠ '\\') :
    decode named 0 (c :: t) = (decode named 0 t).map (c :: ·) := by
  rw [decode]
  exact hc

theorem decode_drop (n : Nat) (t : Text) : decode named n t = decode named 0 (t.drop n) := by
  induction n generalizing t with
  | zero => rfl
  | succ n ih =>
    cases t with
    | nil => rw [List.drop_nil, decode, decode]
    | cons c t => rw [decode, List.drop_succ_cons, ih]

/-- An escape is decoded, and then what stands behind it. -/
theorem decode_escape {e : Text} (h : escape named (e ++ s) = some (v, e.length)) :
    decode named 0 ('\\' :: (e ++ s)) = (decode named 0 s).map (v ++ ·) := by
  have hrest : decode named e.length (e ++ s) = decode named 0 s := by
    rw [decode_drop, List.drop_left]
  rw [decode, h]
  simp only [hrest]

/-- What `u` is between two of `delimiter`: a unit that is read as `v`, whatever stands behind it
and wherever that ends. -/
structure Encodes (delimiter u v : Text) : Prop where
  passed : ∀ s, untilClose delimiter (u ++ s) =
    (untilClose delimiter s).map fun (inside, rest) => (u ++ inside, rest)
  decoded : ∀ named s, decode named 0 (u ++ s) = (decode named 0 s).map (v ++ ·)

theorem Encodes.nil : Encodes delimiter [] [] where
  passed s := by simp
  decoded named s := by simp

theorem Encodes.append (hu : Encodes delimiter u v) (ht : Encodes delimiter t w) :
    Encodes delimiter (u ++ t) (v ++ w) where
  passed s := by
    rw [List.append_assoc, hu.passed, ht.passed, Option.map_map]
    simp [Function.comp_def]
  decoded named s := by
    rw [List.append_assoc, hu.decoded, ht.decoded, Option.map_map]
    simp [Function.comp_def]

/-- Units in a row. -/
theorem Encodes.flatMap {α : Type} {f g : α → Text} {as : List α}
    (h : ∀ a ∈ as, Encodes delimiter (f a) (g a)) :
    Encodes delimiter (as.flatMap f) (as.flatMap g) :=
  related_flatMap .nil .append h

/-- One unit for each character. -/
theorem Encodes.units {unit : Char → Text} (h : ∀ c ∈ t, Encodes delimiter (unit c) [c]) :
    Encodes delimiter (t.flatMap unit) t := by
  have hunits := Encodes.flatMap h
  rwa [List.flatMap_singleton'] at hunits

/-- Most characters stand for themselves. -/
theorem encodes_plain (hb : c ≠ '\\') (hd : ∀ x ∈ delimiter.head?, x ≠ c) (hne : delimiter ≠ [])
    (hline : c = '\n' → delimiter.length ≠ 1) : Encodes delimiter [c] [c] where
  passed s := by
    obtain ⟨x, more, rfl⟩ := List.exists_cons_of_ne_nil hne
    have hprefix : ¬ x :: more <+: c :: s := fun h => hd x rfl (List.cons_prefix_cons.mp h).1
    rw [List.singleton_append, untilClose_cons hb, if_neg hprefix, if_neg (by simpa using hline)]
    rfl
  decoded named s := by
    rw [List.singleton_append, decode_cons hb]
    rfl

/-- An escape is a unit: its first character never closes the literal, and the others do not. -/
theorem encodes_escape {e : Text} (he : Encodes delimiter e e)
    (h : ∀ named s, escape named (c :: (e ++ s)) = some (v, e.length + 1)) :
    Encodes delimiter ('\\' :: c :: e) v where
  passed s := by
    rw [List.cons_append, List.cons_append, untilClose_escaped, he.passed, Option.map_map]
    rfl
  decoded named s := decode_escape (e := c :: e) (h named s)

/-- Texts without quotes, backslashes and line ends stand for themselves. -/
theorem encodes_self (hne : delimiter ≠ []) (h : ∀ c ∈ t, c ≠ '\\' ∧ c ∉ delimiter ∧ c ≠ '\n') :
    Encodes delimiter t t := by
  have hunits : Encodes delimiter (t.flatMap fun c => [c]) t := by
    refine .units fun c hc => ?_
    obtain ⟨hb, hd, hline⟩ := h c hc
    refine encodes_plain hb (fun x hx => ?_) hne fun hc => absurd hc hline
    rintro rfl
    exact hd (List.mem_of_mem_head? hx)
  rwa [List.flatMap_singleton'] at hunits

theorem untilClose_delimiter (hm : mark ≠ '\\') :
    untilClose (mark :: u) (mark :: u ++ s) = some ([], s) := by
  have hprefix : mark :: u <+: mark :: (u ++ s) := List.prefix_append (mark :: u) s
  rw [List.cons_append, untilClose_cons hm, if_pos hprefix, ← List.cons_append, List.drop_left]

/-- The text between the quotes is read, and nothing behind the closing ones. -/
theorem delimited_of_encodes (hm : mark ≠ '\\') (h : Encodes (mark :: t) u v) :
    delimited named (mark :: t) (mark :: t ++ (u ++ (mark :: t ++ s))) = some (v, s) := by
  have hinside := h.decoded named []
  rw [List.append_nil, decode, Option.map_some, List.append_nil] at hinside
  rw [delimited, if_pos (List.prefix_append _ _), List.drop_left, h.passed, untilClose_delimiter hm]
  simp only [Option.map_some, List.append_nil, hinside]

/-! ## 5. Quoted texts -/

theorem escape_single (h : single? c = some v) (ho : isOctal c = false)
    (hc : c ≠ 'x' ∧ c ≠ 'u' ∧ c ≠ 'U' ∧ c ≠ 'N') :
    escape named (c :: s) = some (v, 1) := by
  obtain ⟨hx, hu, hU, hN⟩ := hc
  rw [escape, if_neg (by simp [ho]), h]
  · exact hx
  · exact hu
  · exact hU
  · exact fun _ h _ => hN h
  · exact hN

theorem encodes_single (h : single? c = some v) (ho : isOctal c = false)
    (hc : c ≠ 'x' ∧ c ≠ 'u' ∧ c ≠ 'U' ∧ c ≠ 'N') : Encodes delimiter ['\\', c] v :=
  encodes_escape .nil fun _ _ => escape_single h ho hc

theorem charOf?_toNat (c : Char) : charOf? c.toNat = some c := by
  have hvalid : c.toNat.isValidChar := c.valid
  rw [charOf?, if_pos hvalid, Char.ofNat_toNat]

theorem hexChar?_hex (h : c.toNat < 16 ^ (width + 1)) :
    hexChar? (width + 1) (Text.hex (width + 1) c.toNat ++ s) = some c := by
  have hlength := Text.length_hex_succ h
  have htake : (Text.hex (width + 1) c.toNat ++ s).take (width + 1) =
      Text.hex (width + 1) c.toNat := by
    rw [List.take_append_of_le_length (Nat.le_of_eq hlength.symm), List.take_of_length_le
      (Nat.le_of_eq hlength)]
  rw [hexChar?, htake, if_pos hlength, Text.digitsToBase?_hex h, Option.bind_some, charOf?_toNat]

/-- No hexadecimal digit is a quote, a backslash or a line end. -/
theorem plain_of_mem_hex (h : n < 16 ^ (width + 1)) (hc : c ∈ Text.hex (width + 1) n) :
    c ≠ '\\' ∧ c ≠ '"' ∧ c ≠ '\'' ∧ c ≠ '\n' := by
  have hdigit : ∀ d < 16, Nat.digitChar d ≠ '\\' ∧ Nat.digitChar d ≠ '"' ∧
      Nat.digitChar d ≠ '\'' ∧ Nat.digitChar d ≠ '\n' := by decide
  obtain ⟨d, hd, rfl⟩ := Text.exists_digit_of_mem_hex h hc
  exact hdigit d hd

theorem encodes_hex {e : Char} (width : Nat) (hm : mark = '"' ∨ mark = '\'')
    (h : x.toNat < 16 ^ (width + 1))
    (he : ∀ named s, escape named (e :: (Text.hex (width + 1) x.toNat ++ s)) =
      (hexChar? (width + 1) (Text.hex (width + 1) x.toNat ++ s)).map fun c => ([c], width + 2)) :
    Encodes [mark] ('\\' :: e :: Text.hex (width + 1) x.toNat) [x] := by
  refine encodes_escape (encodes_self (by simp) fun c hc => ?_) fun named s => ?_
  · obtain ⟨hb, hd, hq, hline⟩ := plain_of_mem_hex h hc
    refine ⟨hb, ?_, hline⟩
    rcases hm with rfl | rfl
    · simpa using hd
    · simpa using hq
  · rw [he, hexChar?_hex h, Text.length_hex_succ h]
    rfl

theorem encodes_numericEscape (hm : mark = '"' ∨ mark = '\'') :
    Encodes [mark] (Text.numericEscape c) [c] := by
  have hmax : c.toNat < 0x110000 := by
    rcases c.valid with h | h
    · have : c.toNat < 0xD800 := h
      omega
    · exact h.2
  rw [Text.numericEscape]
  split
  · rename_i h
    exact encodes_hex 1 hm h fun _ _ => by rw [escape]
  · split
    · rename_i h
      exact encodes_hex 3 hm h fun _ _ => by rw [escape]
    · exact encodes_hex 7 hm (by omega) fun _ _ => by rw [escape]

theorem quoteMark_cases (t : Text) : t.quoteMark = '"' ∨ t.quoteMark = '\'' := by
  rw [Text.quoteMark]
  split
  · exact .inl rfl
  · exact .inr rfl

/-- A character inside quotes is a unit that is read as itself. -/
theorem encodes_quotedChar (hm : mark = '"' ∨ mark = '\'') (c : Char) :
    Encodes [mark] (Text.quotedChar mark c) [c] := by
  rw [Text.quotedChar]
  split
  · rename_i h
    rcases hm with rfl | rfl <;> rcases (by simpa using h) with rfl | rfl <;>
      exact encodes_single (by decide) (by decide) (by decide)
  · rename_i hplain
    split
    · rename_i h
      rw [h]
      exact encodes_single (by decide) (by decide) (by decide)
    · rename_i hline
      split
      · rename_i h
        rw [h]
        exact encodes_single (by decide) (by decide) (by decide)
      · split
        · rename_i h
          rw [h]
          exact encodes_single (by decide) (by decide) (by decide)
        · split
          · simp only [Bool.or_eq_true, decide_eq_true_eq, not_or] at hplain
            refine encodes_plain hplain.2 ?_ (by simp) fun h => absurd h hline
            rintro x ⟨⟩
            exact fun h => hplain.1 h.symm
          · exact encodes_numericEscape hm

/-- No quote of its own kind stands at the start of a character inside quotes. -/
theorem head_quotedChar (hm : mark = '"' ∨ mark = '\'') :
    mark ∉ (Text.quotedChar mark c ++ s).head? := by
  have hb : mark ≠ '\\' := by rcases hm with rfl | rfl <;> decide
  have hescape : ∀ u : Text, mark ∉ ('\\' :: u).head? := by
    intro u h
    exact hb (Option.some.inj h).symm
  rw [Text.quotedChar]
  iterate 4
    split
    · exact hescape _
  rename_i hplain _ _ _
  simp only [Bool.or_eq_true, decide_eq_true_eq, not_or] at hplain
  split
  · intro h
    exact hplain.1 (Option.some.inj h)
  · rw [Text.numericEscape]
    split
    · exact hescape _
    · split
      · exact hescape _
      · exact hescape _

/-- A quote opens a literal by itself, if no two of its kind follow. -/
theorem opening?_cons (hm : mark = '"' ∨ mark = '\'') (h : ¬ [mark, mark] <+: s) :
    opening? (mark :: s) = some [mark] := by
  rcases hm with rfl | rfl
  · rw [opening?, if_neg h]
  · rw [opening?, if_neg h]

theorem not_two_marks (hm : mark = '"' ∨ mark = '\'') (hne : t ≠ []) :
    ¬ [mark, mark] <+: t.flatMap (Text.quotedChar mark) ++ s := by
  obtain ⟨c, t, rfl⟩ := List.exists_cons_of_ne_nil hne
  rintro ⟨u, hu⟩
  refine head_quotedChar (c := c) (s := t.flatMap (Text.quotedChar mark) ++ s) hm ?_
  rw [← List.append_assoc, ← List.flatMap_cons, ← hu]
  rfl

/-- **The quoted form of a text is read as the text**, if no further quote stands behind it. -/
theorem read_quoted (hs : '\'' ∉ s.head?) : read named (t.quoted ++ s) = some (t, s) := by
  have hm := quoteMark_cases t
  have hsingle : ¬ [t.quoteMark, t.quoteMark] <+:
      t.flatMap (Text.quotedChar t.quoteMark) ++ t.quoteMark :: s := by
    by_cases ht : t = []
    · subst ht
      intro h
      obtain ⟨-, u, hu⟩ := List.cons_prefix_cons.mp h
      exact hs (by rw [← hu]; rfl)
    · exact not_two_marks hm ht
  have hopening : opening? (t.quoted ++ s) = some [t.quoteMark] := by
    rw [Text.quoted, List.cons_append, List.cons_append, List.append_assoc]
    exact opening?_cons hm hsingle
  have hb : t.quoteMark ≠ '\\' := by
    rcases hm with h | h
    · rw [h]
      decide
    · rw [h]
      decide
  have hunits : Encodes [t.quoteMark] (t.flatMap (Text.quotedChar t.quoteMark)) t :=
    .units fun c _ => encodes_quotedChar hm c
  have htext : t.quoted ++ s = [t.quoteMark] ++
      (t.flatMap (Text.quotedChar t.quoteMark) ++ ([t.quoteMark] ++ s)) := by
    simp [Text.quoted]
  rw [read, hopening, Option.bind_some, htext]
  exact delimited_of_encodes hb hunits

/-! ## 6. Literals that stand for what is written in them -/

/-- Whether a character behind a backslash begins an escape. -/
def startsEscape (c : Char) : Bool :=
  isOctal c || (single? c).isSome || c = 'x' || c = 'u' || c = 'U' || c = 'N'

theorem length_single? (h : single? c = some v) : v.length ≤ 1 := by
  rw [single?] at h
  repeat' split at h
  all_goals cases h
  all_goals simp

/-- A backslash stands for itself in front of characters that begin no escape. -/
theorem escape_plain (h : startsEscape c = false) :
    escape named (c :: t) = some (['\\', c], 1) := by
  simp only [startsEscape, Bool.or_eq_false_iff, decide_eq_false_iff_not,
    Option.isSome_eq_false_iff, Option.isNone_iff_eq_none] at h
  obtain ⟨⟨⟨⟨⟨hoctal, hsingle⟩, hx⟩, hu⟩, hU⟩, hN⟩ := h
  rw [escape, if_neg (by simp [hoctal]), hsingle]
  · exact hx
  · exact hu
  · exact hU
  · exact fun _ h _ => hN h
  · exact hN

/-- **An escape stands for one character at most**, and takes one behind its backslash at least. -/
theorem escape_bounds (hc : startsEscape c = true) (h : escape named (c :: t) = some (v, n)) :
    v.length ≤ 1 ∧ 1 ≤ n := by
  have hone : ∀ {a : Option Char} {m : Nat}, 1 ≤ m →
      a.map (fun c => ([c], m)) = some (v, n) → v.length ≤ 1 ∧ 1 ≤ n := by
    intro a m hm hmap
    obtain ⟨y, -, heq⟩ := Option.map_eq_some_iff.mp hmap
    obtain ⟨rfl, rfl⟩ := Prod.mk.inj heq
    exact ⟨Nat.le_refl 1, hm⟩
  revert h
  generalize hct : c :: t = e
  fun_cases escape named e with
  | case1 => cases hct
  | case2 | case3 | case4 => exact hone (by decide)
  | case5 => exact hone (Nat.succ_pos _)
  | case6 | case7 => rintro ⟨⟩
  | case8 y more _ _ _ _ _ hoctal digits =>
    refine hone ?_
    have hdigits : digits = y :: (more.take 2).takeWhile isOctal :=
      List.takeWhile_cons_of_pos hoctal
    rw [hdigits]
    exact Nat.succ_pos _
  | case9 y more _ _ _ _ _ _ value hsingle =>
    rintro ⟨⟩
    exact ⟨length_single? hsingle, Nat.le_refl 1⟩
  | case10 y more hx hu hU _ hN hoctal hsingle =>
    obtain ⟨rfl, rfl⟩ := List.cons.inj hct
    simp only [startsEscape, hoctal, hsingle, Bool.or_eq_true, decide_eq_true_eq] at hc
    rcases hc with (((hc | rfl) | rfl) | rfl) | rfl
    · simp at hc
    · exact absurd rfl hx
    · exact absurd rfl hu
    · exact absurd rfl hU
    · exact absurd rfl hN

/-- A backslash and the character behind it stand for themselves, or for one character at most. -/
theorem escape_cases (h : escape named t = some (v, n)) : ∃ c more, t = c :: more ∧
    (v = ['\\', c] ∧ n = 1 ∨ v.length ≤ 1 ∧ 1 ≤ n) := by
  cases t with
  | nil => cases h
  | cons c more =>
    refine ⟨c, more, rfl, ?_⟩
    cases hc : startsEscape c with
    | true => exact .inr (escape_bounds hc h)
    | false =>
      obtain ⟨rfl, rfl⟩ := Prod.mk.inj (Option.some.inj ((escape_plain hc).symm.trans h))
      exact .inl ⟨rfl, rfl⟩

/-- **What is decoded is what is written, or is shorter.** -/
theorem decode_cases :
    decode named n t = some v → v = t.drop n ∨ v.length < (t.drop n).length := by
  fun_induction decode named n t generalizing v with
  | case1 n =>
    rintro ⟨⟩
    exact .inl List.drop_nil.symm
  | case2 n c more ih => exact ih
  | case3 => rintro ⟨⟩
  | case4 more value taken hescape ih =>
    intro h
    obtain ⟨w, hw, rfl⟩ := Option.map_eq_some_iff.mp h
    obtain ⟨c, more, rfl, ⟨rfl, rfl⟩ | ⟨hvalue, htaken⟩⟩ := escape_cases hescape
    · rcases ih hw with rfl | hshort
      · exact .inl rfl
      · exact .inr (Nat.add_lt_add_right hshort 2)
    · have hlength : w.length ≤ ((c :: more).drop taken).length :=
        (ih hw).elim (fun h => Nat.le_of_eq (congrArg List.length h)) Nat.le_of_lt
      simp only [List.length_append, List.length_drop, List.length_cons] at hlength ⊢
      omega
  | case5 c more _ ih =>
    intro h
    obtain ⟨w, hw, rfl⟩ := Option.map_eq_some_iff.mp h
    rcases ih hw with rfl | hshort
    · exact .inl rfl
    · exact .inr (Nat.succ_lt_succ hshort)

theorem length_decode_le (h : decode named n t = some v) : v.length ≤ (t.drop n).length :=
  (decode_cases h).elim (fun h => Nat.le_of_eq (congrArg List.length h)) Nat.le_of_lt

theorem infix_cons_of_ne (hc : c ≠ x) : x :: u <:+: c :: t ↔ x :: u <:+: t := by
  rw [List.infix_cons_iff, List.cons_prefix_cons]
  constructor
  · rintro (⟨h, -⟩ | h)
    · exact absurd h.symm hc
    · exact h
  · exact .inr

theorem infix_append_of_not_mem (h : x ∉ t) : x :: u <:+: t ++ s ↔ x :: u <:+: s := by
  induction t with
  | nil => rfl
  | cons c t ih =>
    obtain ⟨hc, ht⟩ := not_or.mp (mt List.mem_cons.mpr h)
    rw [List.cons_append, infix_cons_of_ne (Ne.symm hc), ih ht]

theorem not_mem_getLast?_tail (h : x ∉ (c :: t).getLast?) : x ∉ t.getLast? := by
  cases t with
  | nil => simp
  | cons d t => rwa [List.getLast?_cons_cons] at h

/-- An escape is not decoded to itself. -/
theorem decode_escape_ne (hc : startsEscape c = true) :
    decode named 0 ('\\' :: c :: t) ≠ some ('\\' :: c :: t) := by
  intro h
  rw [decode] at h
  split at h
  · cases h
  · rename_i v n hescape
    obtain ⟨w, hw, hvw⟩ := Option.map_eq_some_iff.mp h
    obtain ⟨hv, hn⟩ := escape_bounds hc hescape
    have hlength := length_decode_le hw
    have htotal := congrArg List.length hvw
    simp only [List.length_append, List.length_cons, List.length_drop] at hlength htotal
    omega

/-- **A text is decoded to itself just when no backslash in it begins an escape.** -/
theorem decode_eq_self_iff : ∀ {t : Text}, '\\' ∉ t.getLast? →
    (decode named 0 t = some t ↔ ∀ x, ['\\', x] <:+: t → startsEscape x = false)
  | [], _ => by simp [decode]
  | c :: t, hlast => by
    by_cases hb : c = '\\'
    · subst hb
      match t with
      | [] => exact absurd rfl hlast
      | c :: t =>
        have ih := decode_eq_self_iff (t := t) (not_mem_getLast?_tail (not_mem_getLast?_tail hlast))
        cases hc : startsEscape c with
        | true =>
          refine iff_of_false (decode_escape_ne hc) fun h => ?_
          have hfirst : ['\\', c] <:+: '\\' :: c :: t := ⟨[], t, rfl⟩
          rw [h c hfirst] at hc
          cases hc
        | false =>
          have hne : c ≠ '\\' := by
            rintro rfl
            exact absurd hc (by decide)
          have hdecode : decode named 0 ('\\' :: c :: t) =
              (decode named 0 t).map (['\\', c] ++ ·) :=
            decode_escape (e := [c]) (escape_plain hc)
          have hbegins : ∀ x, ['\\', x] <:+: '\\' :: c :: t ↔ x = c ∨ ['\\', x] <:+: t := by
            intro x
            rw [List.infix_cons_iff, infix_cons_of_ne hne]
            simp
          rw [hdecode]
          simp only [hbegins, forall_eq_or_imp, hc, true_and]
          rw [← ih]
          simp
    · have ih := decode_eq_self_iff (t := t) (not_mem_getLast?_tail hlast)
      rw [decode_cons hb]
      simp only [infix_cons_of_ne hb]
      rw [← ih]
      simp

/-- The text in front of the closing quotes, the quotes and what stands behind them are all there
is. -/
theorem eq_of_untilClose (h : untilClose delimiter t = some (u, s)) :
    t = u ++ (delimiter ++ s) := by
  fun_induction untilClose delimiter t generalizing u with
  | case1 => cases h
  | case2 c more ih =>
    obtain ⟨⟨inside, rest⟩, hmore, heq⟩ := Option.map_eq_some_iff.mp h
    obtain ⟨rfl, rfl⟩ := Prod.mk.inj heq
    rw [ih hmore]
    rfl
  | case3 c more _ hprefix =>
    obtain ⟨rfl, rfl⟩ := Prod.mk.inj (Option.some.inj h)
    exact (List.prefix_iff_eq_append.mp hprefix).symm
  | case4 => cases h
  | case5 c more _ _ _ ih =>
    obtain ⟨⟨inside, rest⟩, hmore, heq⟩ := Option.map_eq_some_iff.mp h
    obtain ⟨rfl, rfl⟩ := Prod.mk.inj heq
    rw [ih hmore]
    rfl

/-- Quotes that begin in a text end in it, if the text ends in no quote. -/
theorem prefix_of_prefix_append (hu : ∀ y ∈ u, y = mark) (ht : t ≠ []) (hlast : mark ∉ t.getLast?)
    (h : u <+: t ++ s) : u <+: t := by
  refine (List.prefix_or_prefix_of_prefix h (List.prefix_append t s)).resolve_right fun htu => ?_
  obtain rfl := hu _ (htu.subset (List.getLast_mem ht))
  exact hlast (List.getLast?_eq_some_getLast ht)

/-- **A literal without escaped quotes ends where it should** just when no three quotes stand side
by side in it, or as many as there are around it. -/
theorem untilClose_eq_self_iff (hm : mark ≠ '\\') (hu : ∀ y ∈ mark :: u, y = mark) (hne : u ≠ []) :
    ∀ {t : Text}, ¬ ['\\', mark] <:+: t → mark ∉ t.getLast? → '\\' ∉ t.getLast? →
      (untilClose (mark :: u) (t ++ (mark :: u ++ s)) = some (t, s) ↔ ¬ mark :: u <:+: t)
  | [], _, _, _ => by
    rw [List.nil_append, untilClose_delimiter hm]
    simp
  | c :: t, hescaped, hmark, hlast => by
    by_cases hb : c = '\\'
    · subst hb
      match t with
      | [] => exact absurd rfl hlast
      | c :: t =>
        have hc : c ≠ mark := by
          rintro rfl
          exact hescaped ⟨[], t, rfl⟩
        have ih := untilClose_eq_self_iff hm hu hne (t := t)
          (fun h => hescaped (h.trans ⟨['\\', c], [], by simp⟩))
          (not_mem_getLast?_tail (not_mem_getLast?_tail hmark))
          (not_mem_getLast?_tail (not_mem_getLast?_tail hlast))
        rw [List.cons_append, List.cons_append, untilClose_escaped, infix_cons_of_ne hm.symm,
          infix_cons_of_ne hc, ← ih]
        simp
    · have ih := untilClose_eq_self_iff hm hu hne (t := t)
        (fun h => hescaped (h.trans ⟨[c], [], by simp⟩))
        (not_mem_getLast?_tail hmark) (not_mem_getLast?_tail hlast)
      rw [List.cons_append, untilClose_cons hb]
      by_cases hprefix : mark :: u <+: c :: (t ++ (mark :: u ++ s))
      · have hinside : mark :: u <+: c :: t :=
          prefix_of_prefix_append hu (by simp) hmark hprefix
        rw [if_pos hprefix]
        refine iff_of_false (by simp) fun h => h hinside.isInfix
      · have hinside : ¬ mark :: u <+: c :: t := fun h =>
          hprefix (h.trans (List.prefix_append (c :: t) _))
        rw [if_neg hprefix, if_neg (by simpa using fun _ => hne), List.infix_cons_iff, not_or,
          ← ih]
        simp [hinside]

theorem delimited_append (h : delimited named delimiter t = some (v, s)) :
    ∃ u, t = delimiter ++ (u ++ (delimiter ++ s)) := by
  rw [delimited] at h
  split at h
  · rename_i hprefix
    obtain ⟨behind, rfl⟩ := hprefix
    rw [List.drop_left] at h
    split at h
    · cases h
    · rename_i u rest hclose
      obtain ⟨value, -, heq⟩ := Option.map_eq_some_iff.mp h
      obtain ⟨rfl, rfl⟩ := Prod.mk.inj heq
      exact ⟨u, by rw [eq_of_untilClose hclose]⟩
  · cases h

theorem ne_nil_of_opening? (h : opening? t = some delimiter) : delimiter ≠ [] := by
  revert h
  fun_cases opening? t with
  | case1 more | case2 more =>
    intro h
    obtain rfl := Option.some.inj h
    split <;> simp
  | case3 => rintro ⟨⟩

/-- Something is read whenever a literal is. -/
theorem length_lt_of_read (h : read named t = some (v, s)) : s.length < t.length := by
  obtain ⟨delimiter, hopening, hread⟩ := Option.bind_eq_some_iff.mp h
  obtain ⟨u, rfl⟩ := delimited_append hread
  have hlength := List.length_pos_iff.mpr (ne_nil_of_opening? hopening)
  simp only [List.length_append]
  omega

/-- What is between the quotes, where a text begins with a literal. -/
theorem delimited_eq_some_iff : delimited named delimiter (delimiter ++ (u ++ (delimiter ++ s))) =
    some (v, s) ↔
      untilClose delimiter (u ++ (delimiter ++ s)) = some (u, s) ∧ decode named 0 u = some v := by
  rw [delimited, if_pos (List.prefix_append _ _), List.drop_left]
  constructor
  · intro h
    cases hclose : untilClose delimiter (u ++ (delimiter ++ s)) with
    | none =>
      rw [hclose] at h
      cases h
    | some p =>
      obtain ⟨inside, rest⟩ := p
      rw [hclose] at h
      obtain ⟨value, hvalue, heq⟩ := Option.map_eq_some_iff.mp h
      obtain ⟨rfl, rfl⟩ := Prod.mk.inj heq
      obtain rfl : u = inside := List.append_cancel_right (eq_of_untilClose hclose)
      exact ⟨rfl, hvalue⟩
  · rintro ⟨hclose, hvalue⟩
    rw [hclose]
    simp only [hvalue, Option.map_some]

end Literal

namespace Text

variable {c : Char} {s t : Text}

/-! ## 7. Line ends -/

theorem unifyLines_cons (hc : c ≠ '\r') : unifyLines (c :: t) = c :: unifyLines t := by
  rw [unifyLines]
  · rintro rfl
    exact absurd rfl hc
  · rintro d more rfl
    exact absurd rfl hc

/-- A carriage return without a line feed behind it is a line end by itself. -/
theorem unifyLines_return (ht : '\n' ∉ t.head?) :
    unifyLines ('\r' :: t) = '\n' :: unifyLines t := by
  cases t with
  | nil => rfl
  | cons d t =>
    rw [unifyLines, if_neg]
    rintro rfl
    exact ht rfl

/-- A text is nothing, a line end with a text behind, or another character with a text behind. -/
@[elab_as_elim]
theorem unifyLines_induction {P : Text → Prop} (nil : P [])
    (pair : ∀ t, P t → P ('\r' :: '\n' :: t))
    (lone : ∀ t, '\n' ∉ t.head? → P t → P ('\r' :: t))
    (other : ∀ c t, c ≠ '\r' → P t → P (c :: t)) (t : Text) : P t := by
  fun_induction unifyLines t with
  | case1 => exact nil
  | case2 => exact lone [] (by simp) nil
  | case3 more ih => exact pair more ih
  | case4 c more hc ih => exact lone (c :: more) (by simpa using hc) ih
  | case5 c more hone htwo ih =>
    refine other c more ?_ ih
    rintro rfl
    cases more with
    | nil => exact hone rfl rfl
    | cons d more => exact htwo d more rfl rfl

theorem not_mem_unifyLines (t : Text) : '\r' ∉ t.unifyLines := by
  induction t using unifyLines_induction with
  | nil => simp [unifyLines]
  | pair t ih => simpa [unifyLines] using ih
  | lone t ht ih => simpa [unifyLines_return ht] using ih
  | other c t hc ih => simpa [unifyLines_cons hc, hc.symm] using ih

/-- **A text stays as it is just when it has no carriage return.** -/
theorem unifyLines_eq_self_iff : t.unifyLines = t ↔ '\r' ∉ t := by
  constructor
  · intro h
    rw [← h]
    exact not_mem_unifyLines t
  · intro h
    induction t with
    | nil => rfl
    | cons c t ih =>
      obtain ⟨hc, ht⟩ := not_or.mp (mt List.mem_cons.mpr h)
      rw [unifyLines_cons (Ne.symm hc), ih ht]

theorem length_unifyLines_le (t : Text) : t.unifyLines.length ≤ t.length := by
  induction t using unifyLines_induction with
  | nil => exact Nat.le_refl _
  | pair t ih =>
    simp only [unifyLines, if_true, List.length_cons]
    omega
  | lone t ht ih => simpa [unifyLines_return ht] using ih
  | other c t hc ih => simpa [unifyLines_cons hc] using ih

/-- No characters but those of line ends come or go. -/
theorem mem_unifyLines_iff (hr : c ≠ '\r') (hn : c ≠ '\n') : c ∈ t.unifyLines ↔ c ∈ t := by
  induction t using unifyLines_induction with
  | nil => rfl
  | pair t ih => simp [unifyLines, hr, hn, ih]
  | lone t ht ih => simp [unifyLines_return ht, hr, hn, ih]
  | other d t hd ih => simp [unifyLines_cons hd, ih]

/-- Texts are unified one by one where no line end lies across the seam. -/
theorem unifyLines_append (h : '\r' ∈ s.getLast? → '\n' ∉ t.head?) :
    (s ++ t).unifyLines = s.unifyLines ++ t.unifyLines := by
  have htail : ∀ {c : Char} {s : Text}, ('\r' ∈ (c :: s).getLast? → '\n' ∉ t.head?) →
      '\r' ∈ s.getLast? → '\n' ∉ t.head? := by
    intro c s h hs
    cases s with
    | nil => exact absurd hs (by simp)
    | cons d s => exact h (by rwa [List.getLast?_cons_cons])
  induction s using unifyLines_induction with
  | nil => rfl
  | pair s ih =>
    rw [List.cons_append, List.cons_append, unifyLines, unifyLines, if_pos rfl, if_pos rfl,
      ih (htail (htail h)), List.cons_append]
  | lone s hhead ih =>
    have hseam : '\n' ∉ (s ++ t).head? := by
      cases s with
      | nil => exact h rfl
      | cons d s => exact hhead
    rw [List.cons_append, unifyLines_return hseam, unifyLines_return hhead, ih (htail h),
      List.cons_append]
  | other c s hc ih =>
    rw [List.cons_append, unifyLines_cons hc, unifyLines_cons hc, ih (htail h), List.cons_append]

end Text

namespace Literal

variable {named : Text → Option Char} {delimiter s t u v : Text}

/-! ## 8. Literals in the text of a module -/

/-- The value of the literal between two of `delimiter` at the start of the text of a module, and
the text behind.  All line ends are line feeds there, and the character zero is not allowed. -/
def inModule (named : Text → Option Char) (delimiter t : Text) : Option (Text × Text) :=
  (delimited named delimiter t.unifyLines).filter fun (_, rest) =>
    !(t.unifyLines.take (t.unifyLines.length - rest.length)).contains '\x00'

theorem inModule_of_delimited (h : t.unifyLines = u ++ s)
    (hread : delimited named delimiter t.unifyLines = some (v, s)) :
    inModule named delimiter t = if '\x00' ∈ u then none else some (v, s) := by
  rw [inModule, hread, h]
  by_cases hzero : '\x00' ∈ u
  · simp [Option.filter_some, hzero]
  · simp [Option.filter_some, hzero]

theorem inModule_eq_some_iff (h : t.unifyLines = u ++ s) :
    inModule named delimiter t = some (v, s) ↔
      delimited named delimiter t.unifyLines = some (v, s) ∧ '\x00' ∉ u := by
  rw [inModule, Option.filter_eq_some_iff]
  simp [h]

end Literal

end StoredFunctions
