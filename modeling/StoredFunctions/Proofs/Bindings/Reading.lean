/-
# Reading the lines of wrappers and classes

What the lines of the generated module say, as its language reads them (`visitLayout`): the header
of a class names the last segment of its path; a wrapper is static just when it stands in a class;
its signature has the connection and then the arguments in the order of the parameters; its query
is the text that calls the function, whatever characters are in it, and binds the name of each
parameter to the argument at its place.

`layout?_walkLines`: that is what is read of the lines of the walk, and each of them stands within
the classes of its path, outermost first.
-/
import StoredFunctions.Proofs.Bindings.Acceptance
import StoredFunctions.Proofs.Bindings.Code
import StoredFunctions.Proofs.Bindings.Docstring

namespace StoredFunctions.Bindings

open Code

variable {rule : NamingRule} {name argument t u : Text} {statements : List Statement} {depth : Nat}
  {s : Statement} {path : List Text}

/-! ## 1. Names and type hints in code -/

/-- The characters that mean something in code. -/
def marks : Text :=
  [' ', ':', '"', '\'', '\\', '#', '\n', '(', '[', '\x7b', ')', ']', '\x7d', ',']

/-- A text that is one word of code. -/
structure Spelt (name : Text) : Prop where
  ne_nil : name ≠ []
  free : ∀ c ∈ name, c ∉ marks

theorem colon_eq : Text.of ":" = [':'] := by rw [Text.of_eq]; rfl

theorem not_mem_marks {c : Char} (h : isNameStart c = true ∨ isNameContinue c = true) :
    c ∉ marks := by
  have hmarks : ∀ x ∈ marks, isNameStart x = false ∧ isNameContinue x = false := by decide
  intro hc
  obtain ⟨hstart, hcontinue⟩ := hmarks c hc
  rcases h with h | h
  · rw [hstart] at h
    cases h
  · rw [hcontinue] at h
    cases h

theorem spelt_of_isUsable (h : isUsable name = true) : Spelt name := by
  rw [isUsable, Bool.and_eq_true] at h
  cases name with
  | nil => exact absurd h.1 (by simp [Text.isName])
  | cons c name =>
    have hname := h.1
    rw [Text.isName, Bool.and_eq_true, List.all_eq_true] at hname
    refine ⟨by simp, List.forall_mem_cons.mpr ⟨not_mem_marks (.inl hname.1), fun x hx => ?_⟩⟩
    exact not_mem_marks (.inr (hname.2 x hx))

theorem isPlain_of_not_mem_marks {c : Char} (h : c ∉ marks) : isPlain c = true := by
  simp only [marks, List.mem_cons, not_or] at h
  simp [isPlain, h]

theorem isFlat_of_not_mem_marks {c : Char} (h : c ∉ marks) : isFlat c = true := by
  simp only [marks, List.mem_cons, not_or] at h
  simp [isFlat, h]

theorem Spelt.isPlain (h : Spelt name) : ∀ c ∈ name, isPlain c = true :=
  fun c hc => isPlain_of_not_mem_marks (h.free c hc)

theorem Spelt.whole (h : Spelt name) : Whole (word name) :=
  whole_word fun c hc => isFlat_of_not_mem_marks (h.free c hc)

theorem Spelt.not_mem (h : Spelt name) {c : Char} (hc : c ∈ marks) : c ∉ name :=
  fun hmem => h.free c hmem hc

theorem Spelt.head_ne (h : Spelt name) (ts : List Token) :
    (word name ++ ts).head? ≠ some (.char ' ') := by
  obtain ⟨c, name, rfl⟩ := List.exists_cons_of_ne_nil h.ne_nil
  intro hhead
  obtain rfl := Token.char.inj (Option.some.inj hhead)
  exact h.free ' ' (by simp) (by decide)

/-- Code without literals that can be an element of a list. -/
structure Element (t : Text) : Prop where
  plain : ∀ c ∈ t, isPlain c = true
  whole : Whole (word t)

theorem Element.append (ht : Element t) (hu : Element u) : Element (t ++ u) where
  plain := List.forall_mem_append.mpr ⟨ht.plain, hu.plain⟩
  whole := by
    rw [word_append]
    exact ht.whole.append hu.whole

theorem element_of_flat (h : ∀ c ∈ t, isPlain c = true ∧ isFlat c = true) : Element t where
  plain := fun c hc => (h c hc).1
  whole := whole_word fun c hc => (h c hc).2

theorem Spelt.element (h : Spelt name) : Element name := ⟨h.isPlain, h.whole⟩

/-- A hint with something between its brackets. -/
theorem element_bracketed (ht : Element t) (hplain : ∀ c ∈ u, isPlain c = true)
    (h : Inner (word u)) : Element (t ++ ('[' :: (u ++ [']']))) := by
  refine ht.append ⟨?_, ?_⟩
  · refine List.forall_mem_cons.mpr ⟨by decide, List.forall_mem_append.mpr ⟨hplain, ?_⟩⟩
    decide
  · rw [word_cons, word_append]
    exact h.bracketed (.inr (.inl rfl)) (.inr (.inl rfl))

/-- A hint with two names between its brackets. -/
theorem element_pair {first second : Text} (ht : Element t) (hfirst : Element first)
    (hsecond : Element second) :
    Element (t ++ ('[' :: ((first ++ (',' :: second)) ++ [']']))) := by
  refine element_bracketed ht ?_ ?_
  · refine List.forall_mem_append.mpr ⟨hfirst.plain, List.forall_mem_cons.mpr ⟨by decide, ?_⟩⟩
    exact hsecond.plain
  · rw [word_append, word_cons]
    exact hfirst.whole.inner.append (inner_comma.append hsecond.whole.inner)

theorem element_of_literal {literal : String}
    (h : ∀ c ∈ literal.toList, isPlain c = true ∧ isFlat c = true) : Element literal := by
  rw [Text.of_eq]
  exact element_of_flat h

theorem element_dictionary : Element "dict[str, Any]" := by
  have hparts : Text.of "dict[str, Any]" = Text.of "dict" ++ ('[' :: ((Text.of "str" ++
      (',' :: Text.of " Any")) ++ [']'])) := by cbv
  rw [hparts]
  exact element_pair (element_of_literal (by decide)) (element_of_literal (by decide))
    (element_of_literal (by decide))

theorem element_point : Element "tuple[float, float]" := by
  have hparts : Text.of "tuple[float, float]" = Text.of "tuple" ++ ('[' :: ((Text.of "float" ++
      (',' :: Text.of " float")) ++ [']'])) := by cbv
  rw [hparts]
  exact element_pair (element_of_literal (by decide)) (element_of_literal (by decide))
    (element_of_literal (by decide))

theorem element_primitive (p : Primitive) : Element p.hint := by
  cases p with
  | object => exact element_dictionary
  | point => exact element_point
  | _ => exact element_of_literal (by decide)

theorem element_collection (keyword : Text) {front : Text} (hfront : front = keyword ++ ['['])
    (hkeyword : Element keyword) (ht : Element t) : Element (front ++ t ++ "]") := by
  have hclose : Text.of "]" = [']'] := by rw [Text.of_eq]; rfl
  have hsplit : front ++ t ++ Text.of "]" = keyword ++ ('[' :: (t ++ [']'])) := by
    simp [hfront, hclose]
  rw [hsplit]
  exact element_bracketed hkeyword ht.plain ht.whole.inner

theorem element_list (ht : Element t) : Element ("list[" ++ t ++ "]") :=
  element_collection "list" (by cbv) (element_of_literal (by decide)) ht

theorem Element.flatMap {α : Type} {f : α → Text} {as : List α} (h : ∀ a ∈ as, Element (f a)) :
    Element (as.flatMap f) :=
  flatMap_of_pieces ⟨by simp, .nil⟩ .append h

mutual

/-- **Every type hint is an element**: its commas are between brackets. -/
theorem element_hint : ∀ k : Kind, Element k.hint
  | .primitive p => element_primitive p
  | .geometry _ _ => element_dictionary
  | .record _ => element_of_literal (by decide)
  | .option inner =>
    element_collection "Optional" (by cbv) (element_of_literal (by decide))
      (element_hint inner)
  | .array inner _ => element_list (element_hint inner)
  | .set inner _ => element_list (element_hint inner)
  | .either first second more => by
    rw [Kind.hint, Text.join_cons]
    refine (element_hint first).append (.flatMap ?_)
    refine List.forall_mem_cons.mpr ⟨?_, fun t ht => ?_⟩
    · exact (element_of_literal (by decide)).append (element_hint second)
    · exact (element_of_literal (by decide)).append (element_hints more t ht)

theorem element_hints : ∀ ks : List Kind, ∀ t ∈ Kind.hints ks, Element t
  | [] => by simp [Kind.hints]
  | k :: more => by
    rw [Kind.hints]
    exact List.forall_mem_cons.mpr ⟨element_hint k, element_hints more⟩

end

/-! ## 2. Headers -/

theorem lineEnd_not_mem_word (h : ∀ c ∈ t, isPlain c = true) : .char '\n' ∉ word t := by
  intro hmem
  obtain ⟨x, hx, hxn⟩ := List.mem_map.mp hmem
  obtain rfl := Token.char.inj hxn
  exact absurd (h _ hx) (by decide)

/-- A line without literals is read when its words are. -/
theorem reads_words {l : Line} {c : Char} (hplain : ∀ c ∈ t, isPlain c = true)
    (hc : t.head? = some c) (hblank : c ≠ ' ') (hread : Line.read? (word t) = some l) :
    Reads (line depth t ++ ['\n']) [(4 * depth, l)] := by
  have hhead := head?_word hc
  rw [line, List.append_assoc]
  refine reads_line (lexes_word hplain) (lineEnd_not_mem_word hplain) ?_ ?_ hread
  · intro hnil
    rw [hnil] at hhead
    cases hhead
  · rw [hhead]
    intro h
    exact hblank (Token.char.inj (Option.some.inj h))

theorem reads_static : Reads (line depth "@staticmethod" ++ ['\n']) [(4 * depth, .static)] := by
  have hhead : (Text.of "@staticmethod").head? = some '@' := by rw [Text.of_eq]; rfl
  have hplain : ∀ c ∈ Text.of "@staticmethod", isPlain c = true := by
    rw [Text.of_eq]
    decide
  refine reads_words hplain hhead (by decide) ?_
  rw [Line.read?, docstring?_of_char (head?_word hhead), static?, if_pos rfl]
  rfl

/-- The header of a class. -/
theorem reads_opening (depth : Nat) (h : Spelt name) :
    Reads (line depth ("class " ++ name ++ ":") ++ ['\n']) [(4 * depth, .opening name)] := by
  have hhead : (Text.of "class " ++ name ++ Text.of ":").head? = some 'c' := by
    rw [Text.of_eq]
    rfl
  have hplain : ∀ c ∈ Text.of "class " ++ name ++ Text.of ":", isPlain c = true :=
    (((element_of_literal (by decide)).append h.element).append
      (element_of_literal (by decide))).plain
  have hopening : opening? (word (Text.of "class " ++ name ++ Text.of ":")) =
      some (.opening name) := by
    have hname : ':' ∉ name := h.not_mem (by decide)
    rw [colon_eq, List.append_assoc, word_append, word_append, opening?]
    simp [after?_word, upTo?_word hname]
  refine reads_words hplain hhead (by decide) ?_
  have hfirst := head?_word hhead
  rw [Line.read?, docstring?_of_char hfirst, static?_of_char hfirst (by decide), hopening]
  rfl

/-- What the signature writes for an argument. -/
def hinted (argument : Text) (k : Kind) : Text := argument ++ ":" ++ " " ++ k.hint

theorem element_hinted (h : Spelt argument) (k : Kind) : Element (hinted argument k) :=
  ((h.element.append (element_of_literal (by decide))).append
    (element_of_literal (by decide))).append (element_hint k)

theorem argument?_hinted (h : Spelt argument) (behind : Text) :
    argument? (word (argument ++ ':' :: behind)) = some argument := by
  rw [argument?, word_append, strip_of_head (h.head_ne _), word_cons,
    upTo?_word (h.not_mem (by decide))]
  rfl

/-- What stands between two commas of a signature. -/
def hintedPart (a : Text × Parameter) : List Token := .char ' ' :: word (hinted a.1 a.2.kind)

theorem mapM_hintedPart {arguments : List (Text × Parameter)}
    (h : ∀ a ∈ arguments, Spelt a.1) :
    (arguments.map hintedPart).mapM argument? = some (arguments.map Prod.fst) := by
  induction arguments with
  | nil => rfl
  | cons a arguments ih =>
    obtain ⟨ha, harguments⟩ := List.forall_mem_cons.mp h
    have hfirst : argument? (hintedPart a) = some a.1 := by
      have hname := argument?_hinted ha (" " ++ a.2.kind.hint)
      rw [argument?] at hname ⊢
      rw [hintedPart, strip_blank, hinted, colon_eq, List.append_assoc, List.append_assoc]
      exact hname
    rw [List.map_cons, List.mapM_cons, hfirst, ih harguments]
    rfl

/-- The header of a wrapper, cut where its reader cuts it. -/
theorem headerLine_eq {arguments : List (Text × Parameter)} : headerLine name arguments =
    "async def " ++ (name ++ '(' :: ("db: Any" ++
      (arguments.flatMap (fun a => ',' :: ' ' :: hinted a.1 a.2.kind) ++ ')' :: " -> Any:"))) := by
  have hopen : Text.of "(" = ['('] := by rw [Text.of_eq]; rfl
  have hclose : Text.of ") -> Any:" = ')' :: Text.of " -> Any:" := by cbv
  have hcomma : Text.of ", " = [',', ' '] := by rw [Text.of_eq]; rfl
  have hconnection : connectionName ++ Text.of ":" ++ Text.of " Any" = Text.of "db: Any" := by cbv
  rw [headerLine, hconnection, Text.join_cons, hopen, hclose, hcomma, List.flatMap_map]
  simp [hinted]

theorem head?_headerLine {arguments : List (Text × Parameter)} :
    (headerLine name arguments).head? = some 'a' := by
  rw [headerLine_eq, Text.of_eq]
  rfl

/-- There are no literals in the header of a wrapper. -/
theorem plain_headerLine {arguments : List (Text × Parameter)} (hname : Spelt name)
    (h : ∀ a ∈ arguments, Spelt a.1) : ∀ c ∈ headerLine name arguments, isPlain c = true := by
  have hresult : ∀ c ∈ Text.of " -> Any:", isPlain c = true := by
    rw [Text.of_eq]
    decide
  have harguments : ∀ c ∈ arguments.flatMap (fun a => ',' :: ' ' :: hinted a.1 a.2.kind),
      isPlain c = true := by
    intro c hc
    obtain ⟨a, ha, hca⟩ := List.mem_flatMap.mp hc
    rcases List.mem_cons.mp hca with rfl | hca
    · decide
    · rcases List.mem_cons.mp hca with rfl | hca
      · decide
      · exact (element_hinted (h a ha) a.2.kind).plain c hca
  rw [headerLine_eq]
  refine List.forall_mem_append.mpr ⟨(element_of_literal (by decide)).plain, ?_⟩
  refine List.forall_mem_append.mpr ⟨hname.isPlain, List.forall_mem_cons.mpr ⟨by decide, ?_⟩⟩
  refine List.forall_mem_append.mpr ⟨(element_of_literal (by decide)).plain, ?_⟩
  exact List.forall_mem_append.mpr ⟨harguments, List.forall_mem_cons.mpr ⟨by decide, hresult⟩⟩

/-- The reader of signatures cuts the header of a wrapper at the commas between its arguments. -/
theorem signature?_headerLine {arguments : List (Text × Parameter)} (hname : Spelt name)
    (h : ∀ a ∈ arguments, Spelt a.1) : signature? (word (headerLine name arguments)) =
      some (.signature name (connectionName :: arguments.map Prod.fst)) := by
  have hopen : '(' ∉ name := hname.not_mem (by decide)
  have hdb : Element "db: Any" := element_of_literal (by decide)
  have hparts : word (arguments.flatMap fun a => ',' :: ' ' :: hinted a.1 a.2.kind) =
      (arguments.map hintedPart).flatMap (.char ',' :: ·) := by
    rw [word, List.map_flatMap, List.flatMap_map]
    rfl
  have hwhole : ∀ p ∈ arguments.map hintedPart, Whole p := by
    intro p hp
    obtain ⟨a, ha, rfl⟩ := List.mem_map.mp hp
    exact (whole_word (t := [' ']) (by decide)).append (element_hinted (h a ha) a.2.kind).whole
  have hconnection : argument? (word "db: Any") = some connectionName := by
    rw [connectionName, Text.of_eq, Text.of_eq]
    rfl
  rw [headerLine_eq, word_append, word_append, word_cons, word_append, word_append, word_cons,
    hparts, signature?, after?_word]
  simp only [Option.bind_eq_bind, Option.bind_some]
  rw [upTo?_word hopen]
  simp only [Option.bind_some]
  rw [parts?_list (.inl rfl) hdb.whole hwhole]
  simp only [Option.bind_some, if_true]
  rw [List.mapM_cons, hconnection, mapM_hintedPart h]
  rfl

/-- **The header of a wrapper** has the arguments in their order, behind the connection. -/
theorem reads_headerLine {arguments : List (Text × Parameter)} (depth : Nat) (hname : Spelt name)
    (h : ∀ a ∈ arguments, Spelt a.1) :
    Reads (line depth (headerLine name arguments) ++ ['\n'])
      [(4 * depth, .signature name (connectionName :: arguments.map Prod.fst))] := by
  have hfirst : (word (headerLine name arguments)).head? = some (.char 'a') :=
    head?_word head?_headerLine
  refine reads_words (plain_headerLine hname h) head?_headerLine (by decide) ?_
  rw [Line.read?, docstring?_of_char hfirst, static?_of_char hfirst (by decide),
    opening?_of_char hfirst (by decide), signature?_headerLine hname h]
  rfl

/-! ## 3. Queries -/

/-- An entry of the dictionary of a query. -/
def entry (a : Text × Parameter) : Text := a.2.ident.name.quoted ++ ":" ++ " " ++ a.1

/-- What an entry is read as. -/
def entryTokens (a : Text × Parameter) : List Token :=
  .literal a.2.ident.name :: .char ':' :: .char ' ' :: word a.1

/-- What the entries of a dictionary are read as. -/
def contentTokens : List (Text × Parameter) → List Token
  | [] => []
  | a :: more => entryTokens a ++ more.flatMap fun b => .char ',' :: .char ' ' :: entryTokens b

variable {a : Text × Parameter} {arguments : List (Text × Parameter)}

theorem lexes_entry (h : Spelt a.1) : Lexes (entry a) (entryTokens a) := by
  have hspace : Text.of " " = [' '] := by rw [Text.of_eq]; rfl
  have hname : Lexes (' ' :: a.1) (word (' ' :: a.1)) :=
    lexes_word (List.forall_mem_cons.mpr ⟨by decide, h.isPlain⟩)
  have hpieces : entry a = (a.2.ident.name.quoted ++ [':']) ++ (' ' :: a.1) := by
    simp [entry, colon_eq, hspace]
  rw [hpieces]
  exact (lexes_quoted (by decide)).append hname

theorem lexes_content (h : ∀ a ∈ arguments, Spelt a.1) :
    Lexes (Text.join ", " (arguments.map entry)) (contentTokens arguments) := by
  cases arguments with
  | nil => exact .nil
  | cons a more =>
    obtain ⟨ha, hmore⟩ := List.forall_mem_cons.mp h
    have hcomma : Lexes (Text.of ", ") (word ", ") := lexes_word (by rw [Text.of_eq]; decide)
    have hword : word (Text.of ", ") = [.char ',', .char ' '] := by rw [Text.of_eq]; rfl
    rw [hword] at hcomma
    rw [List.map_cons, Text.join_cons, List.flatMap_map]
    exact (lexes_entry ha).append (.flatMap fun b hb => hcomma.append (lexes_entry (hmore b hb)))

theorem whole_entryTokens (h : Spelt a.1) : Whole (entryTokens a) :=
  (whole_literal _).append ((whole_word (t := [':', ' ']) (by decide)).append h.whole)

theorem pair?_entryTokens (h : Spelt a.1) :
    pair? (entryTokens a) = some (a.2.ident.name, a.1) := by
  have hstrip : strip (entryTokens a) = entryTokens a :=
    strip_of_head (by simp [entryTokens])
  have hname : strip (.char ' ' :: word a.1) = word a.1 := by
    rw [strip_blank, strip_of_head]
    have hhead := h.head_ne []
    rwa [List.append_nil] at hhead
  rw [pair?, hstrip, entryTokens]
  simp only [hname, spelt?_word, Option.map_some]

theorem lineEnd_not_mem_entryTokens (h : Spelt a.1) : .char '\n' ∉ entryTokens a := by
  simp [entryTokens, lineEnd_not_mem_word h.isPlain]

theorem lineEnd_not_mem_content (h : ∀ a ∈ arguments, Spelt a.1) :
    .char '\n' ∉ contentTokens arguments := by
  cases arguments with
  | nil => exact List.not_mem_nil
  | cons a more =>
    obtain ⟨ha, hmore⟩ := List.forall_mem_cons.mp h
    rw [contentTokens, List.mem_append, not_or]
    refine ⟨lineEnd_not_mem_entryTokens ha, fun hmem => ?_⟩
    obtain ⟨b, hb, hline⟩ := List.mem_flatMap.mp hmem
    refine lineEnd_not_mem_entryTokens (hmore b hb) ?_
    simpa using hline

theorem mapM_entries (h : ∀ a ∈ arguments, Spelt a.1) :
    (arguments.map fun a => .char ' ' :: entryTokens a).mapM pair? =
      some (arguments.map fun a => (a.2.ident.name, a.1)) := by
  induction arguments with
  | nil => rfl
  | cons a arguments ih =>
    obtain ⟨ha, harguments⟩ := List.forall_mem_cons.mp h
    have hfirst : pair? (.char ' ' :: entryTokens a) = some (a.2.ident.name, a.1) := by
      rw [pair?, strip_blank]
      exact pair?_entryTokens ha
    rw [List.map_cons, List.mapM_cons, hfirst, ih harguments]
    rfl

/-- **A dictionary binds each name to its argument**, in the order of the entries. -/
theorem dictionary?_content (h : ∀ a ∈ arguments, Spelt a.1) :
    dictionary? (.char ' ' :: .char '\x7b' :: (contentTokens arguments ++ [.char '\x7d'])) =
      some (arguments.map fun a => (a.2.ident.name, a.1)) := by
  have hbrace : Text.of "\x7b" = ['\x7b'] := by rw [Text.of_eq]; rfl
  rw [dictionary?, strip_blank, strip_of_head (by simp), hbrace, after?, if_pos rfl, after?]
  simp only [Option.bind_eq_bind, Option.bind_some]
  cases arguments with
  | nil => rfl
  | cons a more =>
    obtain ⟨ha, hmore⟩ := List.forall_mem_cons.mp h
    have hcontent : contentTokens (a :: more) ++ [.char '\x7d'] = entryTokens a ++
        ((more.map fun b => .char ' ' :: entryTokens b).flatMap (.char ',' :: ·) ++
          .char '\x7d' :: []) := by
      rw [contentTokens, List.flatMap_map, List.append_assoc]
    have hothers : ∀ p ∈ more.map fun b => .char ' ' :: entryTokens b, Whole p := by
      intro p hp
      obtain ⟨b, hb, rfl⟩ := List.mem_map.mp hp
      exact (whole_word (t := [' ']) (by decide)).append (whole_entryTokens (hmore b hb))
    have hstrip : strip (entryTokens a) = entryTokens a :=
      strip_of_head (by simp [entryTokens])
    rw [hcontent, parts?_list (.inr (.inr rfl)) (whole_entryTokens ha) hothers]
    simp only [Option.bind_some, hstrip]
    rw [if_pos (by rfl), if_neg (by simp [entryTokens]), List.mapM_cons, pair?_entryTokens ha,
      mapM_entries hmore]
    rfl

theorem inner_content (h : ∀ a ∈ arguments, Spelt a.1) : Inner (contentTokens arguments) := by
  cases arguments with
  | nil => exact Whole.nil.inner
  | cons a more =>
    obtain ⟨ha, hmore⟩ := List.forall_mem_cons.mp h
    refine (whole_entryTokens ha).inner.append (.flatMap fun b hb => ?_)
    exact inner_comma.append
      ((whole_word (t := [' ']) (by decide)).append (whole_entryTokens (hmore b hb))).inner

/-- What the call of a query is read as. -/
def queryTokens (s : Statement) (arguments : List (Text × Parameter)) : List Token :=
  word "return await db.query(" ++ ([.literal s.callQuery, .char ','] ++
    (word [' ', '\x7b'] ++ (contentTokens arguments ++ word ['\x7d', ')'])))

theorem lexes_queryLine (h : ∀ a ∈ arguments, Spelt a.1) :
    Lexes (queryLine s arguments) (queryTokens s arguments) := by
  have hconnection : Text.of "return await " ++ connectionName ++ Text.of ".query(" =
      Text.of "return await db.query(" := by cbv
  have hopen : Text.of ", \x7b" = [','] ++ [' ', '\x7b'] := by rw [Text.of_eq]; rfl
  have hclose : Text.of "\x7d)" = ['\x7d', ')'] := by rw [Text.of_eq]; rfl
  have hfront : Lexes (Text.of "return await db.query(") (word "return await db.query(") :=
    lexes_word (by rw [Text.of_eq]; decide)
  have hpieces : queryLine s arguments = Text.of "return await db.query(" ++
      ((s.callQuery.quoted ++ [',']) ++ ([' ', '\x7b'] ++
        (Text.join ", " (arguments.map entry) ++ ['\x7d', ')']))) := by
    have hentries : queryLine s arguments = Text.of "return await " ++ connectionName ++
        Text.of ".query(" ++ s.callQuery.quoted ++ Text.of ", \x7b" ++
          Text.join ", " (arguments.map entry) ++ Text.of "\x7d)" := rfl
    rw [hentries, hconnection, hopen, hclose]
    simp
  rw [hpieces]
  exact hfront.append ((lexes_quoted (by decide)).append ((lexes_word (by decide)).append
    ((lexes_content h).append (lexes_word (by decide)))))

theorem head?_queryTokens : (queryTokens s arguments).head? = some (.char 'r') := by
  rw [queryTokens, Text.of_eq]
  rfl

/-- The reader of queries cuts the call behind its first argument, and the dictionary at the commas
between its entries. -/
theorem query?_queryTokens (h : ∀ a ∈ arguments, Spelt a.1) :
    query? (queryTokens s arguments) = some (.query (connectionName ++ ".query") s.callQuery
      (arguments.map fun a => (a.2.ident.name, a.1))) := by
  have hcut : Text.of "return await db.query(" =
      Text.of "return await " ++ ((connectionName ++ Text.of ".query") ++ '(' :: []) := by cbv
  have hcallee : '(' ∉ connectionName ++ Text.of ".query" := by
    rw [connectionName, Text.of_eq, Text.of_eq]
    decide
  have htokens : queryTokens s arguments = word "return await " ++
      (word (connectionName ++ ".query") ++ .char '(' :: ([.literal s.callQuery] ++
        ([.char ' ' :: .char '\x7b' :: (contentTokens arguments ++ [.char '\x7d'])].flatMap
          (.char ',' :: ·) ++ .char ')' :: []))) := by
    rw [queryTokens, hcut, word_append, word_append, word_cons]
    simp
  have hdictionary : Whole (.char ' ' :: .char '\x7b' ::
      (contentTokens arguments ++ [.char '\x7d'])) :=
    (whole_word (t := [' ']) (by decide)).append
      ((inner_content h).bracketed (.inr (.inr rfl)) (.inr (.inr rfl)))
  rw [htokens, query?, after?_word]
  simp only [Option.bind_eq_bind, Option.bind_some]
  rw [upTo?_word hcallee]
  simp only [Option.bind_some]
  rw [parts?_list (.inl rfl) (whole_literal _) (by simpa using hdictionary)]
  simp only [Option.bind_some]
  rw [dictionary?_content h]
  rfl

/-- **The query of a wrapper** is the text of the call, and binds each name to its argument. -/
theorem reads_queryLine (depth : Nat) (s : Statement) (h : ∀ a ∈ arguments, Spelt a.1) :
    Reads (line depth (queryLine s arguments) ++ ['\n']) [(4 * depth,
      .query (connectionName ++ ".query") s.callQuery
        (arguments.map fun a => (a.2.ident.name, a.1)))] := by
  have hhead : (queryTokens s arguments).head? = some (.char 'r') := head?_queryTokens
  rw [line, List.append_assoc]
  refine reads_line (lexes_queryLine h) ?_ ?_ ?_ ?_
  · have hfront : Token.char '\n' ∉ word (Text.of "return await db.query(") := by
      rw [Text.of_eq]
      decide
    simp [queryTokens, hfront, lineEnd_not_mem_content h]
  · intro hnil
    rw [hnil] at hhead
    cases hhead
  · rw [hhead]
    decide
  · rw [Line.read?, docstring?_of_char hhead, static?_of_char hhead (by decide),
      opening?_of_char hhead (by decide), signature?_of_char hhead (by decide),
      query?_queryTokens h]
    rfl

/-! ## 4. Docstrings -/

/-- A docstring is one line of code, however many lines it is written in. -/
theorem reads_docstring {v : Text} (depth : Nat) (h : Literal.Encodes docQuotes u v) :
    Reads (line depth (docQuotes ++ (u ++ docQuotes)) ++ ['\n']) [(4 * depth, .docstring v)] := by
  rw [line, List.append_assoc]
  exact reads_line (lexes_delimited h) (by simp) (by simp) (by simp) rfl

/-! ## 5. Wrappers and classes -/

/-- The signature of the wrapper of a function. -/
def signatureOf (rule : NamingRule) (s : Statement) : Line :=
  .signature (rule.apply s.name) (connectionName :: s.parameterNames.map argumentName)

/-- The query of the wrapper of a function, with the names of the parameters beside the arguments
that stand at their places in the signature. -/
def queryOf (s : Statement) : Line :=
  .query (connectionName ++ ".query") s.callQuery
    (s.parameterNames.zip (s.parameterNames.map argumentName))

/-- What is read of a wrapper that stands within the classes with the headers `within`. -/
def wrapperLayout (rule : NamingRule) (within : List Line) (s : Statement) :
    List (List Line × Line) :=
  (if within.isEmpty then [] else [(within, .static)]) ++
    (within, signatureOf rule s) ::
      ((if s.comments.isEmpty then []
        else [(within ++ [signatureOf rule s],
          .docstring (docValue (within.length + 1) s.comments))]) ++
        [(within ++ [signatureOf rule s], queryOf s)])

/-- What the docstring of a class says. -/
def classTitle (name : Text) : Text :=
  "Functions under \x60\x60fn::...::" ++ name ++ "\x60\x60."

/-- What is read of the header of the class at a path. -/
def openingLayout (path : List Text) : List (List Line × Line) :=
  match path.getLast? with
  | none => []
  | some name =>
    [(path.dropLast.map .opening, .opening name),
      (path.map .opening, .docstring (classTitle name))]

/-- What is read of the lines that a namespace contributes to the walk. -/
def visitLayout (rule : NamingRule) (visit : List Text × Namespace) : List (List Line × Line) :=
  openingLayout visit.1 ++
    visit.2.functions.flatMap (wrapperLayout rule (visit.1.map .opening))

theorem nested_wrapperLayout {within : List Line} :
    Nested within (wrapperLayout rule within s) := by
  have hquery : Nested (within ++ [signatureOf rule s])
      [(within ++ [signatureOf rule s], queryOf s)] := .leaf rfl .nil
  have hbody : Nested (within ++ [signatureOf rule s])
      ((if s.comments.isEmpty then []
        else [(within ++ [signatureOf rule s],
          .docstring (docValue (within.length + 1) s.comments))]) ++
        [(within ++ [signatureOf rule s], queryOf s)]) := by
    refine .append ?_ hquery
    split
    · exact .nil
    · exact .leaf rfl .nil
  have hsuite := Nested.suite (l := signatureOf rule s) rfl hbody .nil
  rw [List.append_nil] at hsuite
  refine .append ?_ hsuite
  split
  · exact .nil
  · exact .leaf rfl .nil

mutual

/-- What is in a namespace stands within the classes of its path. -/
theorem nested_walk (rule : NamingRule) : ∀ (t : Namespace) (path : List Text),
    Nested (path.map .opening) (t.functions.flatMap (wrapperLayout rule (path.map .opening)) ++
      (Namespace.walkModules path t.modules).flatMap (visitLayout rule))
  | .node _ modules, path =>
    (Nested.flatMap fun _ _ => nested_wrapperLayout).append (nested_walkModules rule modules path)

theorem nested_walkModules (rule : NamingRule) :
    ∀ (modules : List (Text × Namespace)) (path : List Text),
      Nested (path.map .opening) ((Namespace.walkModules path modules).flatMap (visitLayout rule))
  | [], path => .nil
  | (name, .node functions modules) :: more, path => by
    have hbelow := nested_walk rule (.node functions modules) (path ++ [name])
    have hmore := nested_walkModules rule more path
    rw [List.map_append, List.map_singleton] at hbelow
    have hsuite := Nested.suite (l := .opening name) rfl
      (.leaf (l := .docstring (classTitle name)) rfl hbelow) hmore
    have hopening : openingLayout (path ++ [name]) =
        [(path.map .opening, .opening name),
          (path.map .opening ++ [.opening name], .docstring (classTitle name))] := by
      simp [openingLayout]
    rw [Namespace.walkModules, Namespace.walk, List.flatMap_append, List.flatMap_cons, visitLayout,
      hopening, List.map_append, List.map_singleton, List.append_assoc, List.append_assoc]
    rw [List.cons_append, List.append_assoc] at hsuite
    exact hsuite

end

/-! ## 6. What bindable statements write -/

theorem map_fst_arguments : ((s.parameterNames.map argumentName).zip s.parameters).map Prod.fst =
    s.parameterNames.map argumentName :=
  List.map_fst_zip (by simp [Statement.parameterNames])

theorem bound_eq : ((s.parameterNames.map argumentName).zip s.parameters).map
      (fun a => (a.2.ident.name, a.1)) =
    s.parameterNames.zip (s.parameterNames.map argumentName) := by
  rw [Statement.parameterNames]
  induction s.parameters with
  | nil => rfl
  | cons p parameters ih => simp only [List.map_cons, List.zip_cons_cons, ih]

theorem Bindable.spelt_name (h : Bindable rule statements) (hs : s ∈ statements) :
    Spelt (rule.apply s.name) := spelt_of_isUsable (h.usable_name hs)

theorem Bindable.spelt_segment (h : Bindable rule statements) (hs : s ∈ statements)
    (hpath : path ++ [name] <+: s.scope) : Spelt name := by
  have hbelow : path <+: s.scope := (List.prefix_append path [name]).trans hpath
  refine spelt_of_isUsable ((h.scopes s hs path hbelow).2 _ ?_)
  rw [namesIn, List.mem_append, Namespace.segments, Text.mem_distinct, List.mem_filterMap]
  exact .inr ⟨s, hs, Namespace.next?_eq_some_iff.mpr hpath⟩

theorem Bindable.spelt_argument (h : Bindable rule statements) (hs : s ∈ statements) :
    ∀ a ∈ s.parameterNames.map argumentName, Spelt a :=
  fun a ha => spelt_of_isUsable ((h.arguments s hs).2 a ha)

theorem reads_line_unlines {l : Text} {ls : List (Nat × Line)} (h : Reads (l ++ ['\n']) ls) :
    Reads (Text.unlines [l]) ls := by
  rwa [Text.unlines_cons, Text.unlines_nil]

/-- The docstring of a wrapper, if it has comments. -/
theorem reads_docLines (depth : Nat) (comments : List Text) :
    Reads (Text.unlines (docLines depth comments))
    (if comments.isEmpty then [] else [(4 * depth, .docstring (docValue depth comments))]) := by
  cases comments with
  | nil => exact .nil
  | cons first more =>
    have hne : docLines depth (first :: more) ≠ [] := by
      cases more with
      | nil => simp [docLines]
      | cons second more => simp [docLines]
    rw [← Text.join_lineFeed hne, join_docLines, Text.lineFeed_eq]
    exact reads_docstring depth (encodes_docText _)

/-- **A wrapper is read** as its layout says. -/
theorem reads_wrapper (within : List Line) (h : Bindable rule statements) (hs : s ∈ statements) :
    Reads (Text.unlines ((Wrapper.ofStatement rule s).lines within.length))
      ((wrapperLayout rule within s).map indented) := by
  have harguments : ∀ a ∈ (s.parameterNames.map argumentName).zip s.parameters, Spelt a.1 :=
    fun a ha => h.spelt_argument hs a.1 (List.of_mem_zip ha).1
  have hstatic : Reads
      (Text.unlines (if within.length = 0 then [] else [line within.length "@staticmethod"]))
      ((if within.isEmpty then [] else [(within, .static)]).map indented) := by
    cases within with
    | nil => exact .nil
    | cons l within => exact reads_line_unlines reads_static
  have hheader := reads_headerLine within.length (h.spelt_name hs) harguments
  have hquery := reads_queryLine (within.length + 1) s harguments
  rw [map_fst_arguments] at hheader
  rw [bound_eq] at hquery
  have hdoc := reads_docLines (within.length + 1) s.comments
  have hall := ((hstatic.append (reads_line_unlines hheader)).append hdoc).append
    (reads_line_unlines hquery)
  rw [← Text.unlines_append, ← Text.unlines_append, ← Text.unlines_append] at hall
  have hlayout : (wrapperLayout rule within s).map indented =
      (if within.isEmpty then [] else [(within, Line.static)]).map indented ++
        [(4 * within.length, signatureOf rule s)] ++
        (if s.comments.isEmpty then [] else [(4 * (within.length + 1),
          .docstring (docValue (within.length + 1) s.comments))]) ++
        [(4 * (within.length + 1), queryOf s)] := by
    rw [wrapperLayout, List.map_append, List.map_cons, List.map_append]
    cases s.comments.isEmpty with
    | true => simp [indented]
    | false => simp [indented]
  rw [hlayout]
  exact hall

theorem reads_gapLines : Reads (Text.unlines (gapLines depth)) [] := by
  rw [gapLines]
  split
  · exact reads_empty.append reads_empty
  · exact reads_empty

theorem encodes_classTitle (h : Spelt name) :
    Literal.Encodes docQuotes (classTitle name) (classTitle name) := by
  have hfront : ∀ c ∈ Text.of "Functions under \x60\x60fn::...::",
      c ≠ '\\' ∧ c ∉ docQuotes ∧ c ≠ '\n' := by
    rw [Text.of_eq]
    decide
  have hback : ∀ c ∈ Text.of "\x60\x60.", c ≠ '\\' ∧ c ∉ docQuotes ∧ c ≠ '\n' := by
    rw [Text.of_eq]
    decide
  have hplain : ∀ c, c ∉ marks → c ≠ '\\' ∧ c ∉ docQuotes ∧ c ≠ '\n' := by
    intro c hc
    simp only [marks, List.mem_cons, not_or] at hc
    simp [docQuotes, hc]
  refine Literal.encodes_self (by decide) ?_
  exact List.forall_mem_append.mpr ⟨List.forall_mem_append.mpr
    ⟨hfront, fun c hc => hplain c (h.free c hc)⟩, hback⟩

/-- The header of a class is read, with its docstring. -/
theorem reads_openingLines (h : ∀ name ∈ path.getLast?, Spelt name) :
    Reads (Text.unlines (openingLines path)) ((openingLayout path).map indented) := by
  rcases List.eq_nil_or_concat path with rfl | ⟨path, name, rfl⟩
  · exact .nil
  · have hname : Spelt name := h name (by simp)
    have hopening := reads_opening path.length hname
    have hdoc := reads_docstring (path.length + 1) (encodes_classTitle hname)
    have hlines : openingLines (path.concat name) = gapLines path.length ++
        ([line path.length ("class " ++ name ++ ":")] ++
          [line (path.length + 1) (docQuotes ++ (classTitle name ++ docQuotes))]) := by
      simp [openingLines, classLines, classTitle]
    have hlayout : (openingLayout (path.concat name)).map indented =
        [] ++ ([(4 * path.length, .opening name)] ++
          [(4 * (path.length + 1), .docstring (classTitle name))]) := by
      simp [openingLayout, indented]
    rw [hlines, hlayout, Text.unlines_append, Text.unlines_append]
    exact reads_gapLines.append ((reads_line_unlines hopening).append (reads_line_unlines hdoc))

theorem reads_unlines_flatMap {α : Type} {f : α → List Text} {g : α → List (List Line × Line)}
    {as : List α} (h : ∀ a ∈ as, Reads (Text.unlines (f a)) ((g a).map indented)) :
    Reads (Text.unlines (as.flatMap f)) ((as.flatMap g).map indented) := by
  have hlines : Text.unlines (as.flatMap f) = as.flatMap fun a => Text.unlines (f a) := by
    rw [Text.unlines, List.flatMap_assoc]
    rfl
  rw [hlines, List.map_flatMap]
  exact .flatMap h

/-- **What a namespace contributes is read** as its layout says. -/
theorem reads_visitLines {visit : List Text × Namespace} (h : Bindable rule statements)
    (hname : ∀ name ∈ visit.1.getLast?, Spelt name)
    (hfunctions : ∀ s ∈ visit.2.functions, s ∈ statements) :
    Reads (Text.unlines (visitLines rule visit)) ((visitLayout rule visit).map indented) := by
  rw [visitLines, visitLayout, Text.unlines_append, List.map_append]
  refine (reads_openingLines hname).append (reads_unlines_flatMap fun s hs => ?_)
  have hwrapper := reads_wrapper (visit.1.map .opening) h (hfunctions s hs)
  rw [List.length_map] at hwrapper
  rw [Text.unlines_append]
  exact reads_gapLines.append hwrapper

/-- A walk meets a namespace because a statement is in it or below it. -/
theorem exists_scope_of_mem_walk {visit : List Text × Namespace}
    (h : visit ∈ Namespace.walk [] (Namespace.ofStatements statements)) (hne : visit.1 ≠ []) :
    ∃ s ∈ statements, visit.1 <+: s.scope := by
  obtain ⟨way, hway, hat⟩ := (Namespace.mem_walk_iff Namespace.proper_ofStatements).mp h
  rw [List.nil_append] at hway
  rw [hway] at hne ⊢
  have hsome := Namespace.at?_ofStatements_isSome_iff.mp (Option.isSome_iff_exists.mpr ⟨_, hat⟩)
  exact hsome.resolve_left hne

/-- The layout of the lines behind the preamble, visit by visit. -/
def walkLayout (rule : NamingRule) (statements : List Statement) : List (List Line × Line) :=
  (Namespace.walk [] (Namespace.ofStatements statements)).flatMap (visitLayout rule)

/-- **The lines of the walk are read** as the layout of the walk says. -/
theorem layout?_walkLines (h : Bindable rule statements) (named : Text → Option Char) :
    layout? named (Text.unlines (walkLines rule statements)) =
      some (walkLayout rule statements) := by
  have hnested : Nested [] (walkLayout rule statements) := by
    have hwalk := nested_walk rule (Namespace.ofStatements statements) []
    cases ht : Namespace.ofStatements statements with
    | node functions modules =>
      rw [ht] at hwalk
      rw [walkLayout, ht, Namespace.walk, List.flatMap_cons]
      exact hwalk
  refine hnested.layout_eq (reads_unlines_flatMap fun visit hvisit => ?_) named
  refine reads_visitLines h (fun name hname => ?_) fun s hs => Namespace.mem_of_mem_walk hvisit hs
  obtain ⟨path, hpath⟩ := List.getLast?_eq_some_iff.mp hname
  obtain ⟨s, hs, hscope⟩ := exists_scope_of_mem_walk hvisit (by simp [hpath])
  rw [hpath] at hscope
  exact h.spelt_segment hs hscope

end StoredFunctions.Bindings
