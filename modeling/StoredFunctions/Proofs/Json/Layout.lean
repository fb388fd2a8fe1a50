/-
# Values read back

The indented layout of a value is read as that value (`parse_indented`), whichever characters its
strings escape.  The values are those without fractions (`Plain`): their integers are short enough
to be read, no name stands twice in an object, and nothing is torn.

A reader is given a depth that bounds its nesting, and it uses one up for each item as well as for
each container.  Every item stands on a line of its own, so the length of the text suffices
(`readValue_indented`).
-/
import StoredFunctions.Proofs.Json.Number
import StoredFunctions.Proofs.Json.String

namespace StoredFunctions.Json

variable {asciiOnly : Bool} {fuel depth : Nat} {t u r rest more after inside name : Text} {v : Json}
  {vs : List Json} {ms : List (Text × Json)} {x : Char}

/-! ## 1. Values that are read back -/

mutual

/-- Whether a value holds no fraction, no integer that is too long and no name twice. -/
def Plain : Json → Prop
  | null => True
  | bool _ => True
  | int n => (Text.ofNat n.natAbs).length ≤ digitLimit
  | float _ => False
  | string _ => True
  | array items => PlainItems items
  | object members => (members.map Prod.fst).Nodup ∧ PlainMembers members
  | torn _ => False

/-- Whether all items are plain. -/
def PlainItems : List Json → Prop
  | [] => True
  | v :: more => v.Plain ∧ PlainItems more

/-- Whether the values of all members are plain. -/
def PlainMembers : List (Text × Json) → Prop
  | [] => True
  | (_, v) :: more => v.Plain ∧ PlainMembers more

end

/-! ## 2. Members with different names -/

theorem set_of_new (h : name ∉ ms.map Prod.fst) : set ms name v = ms ++ [(name, v)] := by
  induction ms with
  | nil => rfl
  | cons m ms ih =>
    rw [List.map_cons, List.mem_cons, not_or] at h
    rw [set, if_neg (Ne.symm h.1), ih h.2]
    rfl

/-- **Members with different names are kept as they are.** -/
theorem ofMembers_of_nodup (h : (ms.map Prod.fst).Nodup) : ofMembers ms = object ms := by
  have hfold : ∀ known, ((known ++ ms).map Prod.fst).Nodup →
      ms.foldl (fun known m => set known m.1 m.2) known = known ++ ms := by
    clear h
    induction ms with
    | nil => simp
    | cons m ms ih =>
      intro known hknown
      have hnew : m.1 ∉ known.map Prod.fst := by
        intro hm
        rw [List.map_append, List.nodup_append] at hknown
        exact hknown.2.2 m.1 hm m.1 (by simp) rfl
      rw [List.foldl_cons, set_of_new hnew, ih _ (by simpa using hknown), List.append_assoc]
      rfl
  rw [ofMembers, hfold [] h, List.nil_append]

/-! ## 3. White space -/

theorem skipSpace_newline : skipSpace (newline depth ++ t) = skipSpace t := by
  have hspaces : ∀ n, (List.replicate n ' ' ++ t).dropWhile isLayout = t.dropWhile isLayout := by
    intro n
    induction n with
    | zero => rfl
    | succ n ih =>
      rw [List.replicate_succ, List.cons_append, List.dropWhile_cons_of_pos (by decide), ih]
  rw [newline, skipSpace, List.cons_append, List.dropWhile_cons_of_pos (by decide), hspaces]
  rfl

theorem skipSpace_cons (h : isLayout x = false) : skipSpace (x :: t) = x :: t := by
  rw [skipSpace, List.dropWhile_cons_of_neg (by simp [h])]

/-- What a value begins with: no white space, and no closing bracket. -/
theorem exists_head (asciiOnly : Bool) (depth : Nat) (v : Json) (hv : v.Plain) :
    ∃ x u, indented asciiOnly depth v = x :: u ∧ isLayout x = false ∧ x ≠ ']' := by
  cases v with
  | null => exact ⟨'n', _, by rw [indented, scalarText, Text.of_eq]; rfl, by decide, by decide⟩
  | bool b =>
    cases b with
    | true => exact ⟨'t', _, by rw [indented, scalarText, Text.of_eq]; rfl, by decide, by decide⟩
    | false => exact ⟨'f', _, by rw [indented, scalarText, Text.of_eq]; rfl, by decide, by decide⟩
  | int i =>
    rw [indented, scalarText]
    cases i with
    | ofNat n =>
      obtain ⟨x, u, hx, hdigit⟩ := exists_digit n
      refine ⟨x, u, hx, ?_, ?_⟩
      · refine Bool.eq_false_iff.mpr fun hx => ?_
        simp only [isLayout, Bool.or_eq_true, beq_iff_eq] at hx
        rcases hx with ((rfl | rfl) | rfl) | rfl
        all_goals exact absurd hdigit (by decide)
      · rintro rfl
        exact absurd hdigit (by decide)
    | negSucc n => exact ⟨'-', _, rfl, by decide, by decide⟩
  | float x => exact absurd hv (by simp [Plain])
  | string t => exact ⟨'"', _, by rw [indented, scalarText, stringText]; rfl, by decide, by decide⟩
  | array items =>
    cases items with
    | nil => exact ⟨'[', _, by rw [indented], by decide, by decide⟩
    | cons _ _ => exact ⟨'[', _, by rw [indented]; rfl, by decide, by decide⟩
  | object members =>
    cases members with
    | nil => exact ⟨'\x7b', _, by rw [indented], by decide, by decide⟩
    | cons _ _ => exact ⟨'\x7b', _, by rw [indented]; rfl, by decide, by decide⟩
  | torn v => exact absurd hv (by simp [Plain])

/-! ## 4. Steps of the readers -/

theorem readValue_atom (hquote : x ≠ '"') (hbracket : x ≠ '[') (hbrace : x ≠ '\x7b') :
    readValue (fuel + 1) (x :: t) = readAtom (x :: t) := by
  rw [readValue.eq_5 _ _ (by simp [hquote]) (by simp [hbracket]) (by simp [hbrace])]

theorem readValue_string (h : readString none more = .ok (numbers t, rest)) :
    readValue (fuel + 1) ('"' :: more) = .ok (string t, rest) := by
  rw [readValue, h]
  simp only [ofNumbers_numbers]

theorem readValue_emptyArray :
    readValue (fuel + 1) ('[' :: ']' :: rest) = .ok (array [], rest) := by
  rw [readValue, skipSpace_cons (by decide)]
  rfl

theorem readValue_emptyObject :
    readValue (fuel + 1) ('\x7b' :: '\x7d' :: rest) = .ok (object [], rest) := by
  rw [readValue, skipSpace_cons (by decide)]
  rfl

theorem readValue_array (hinside : skipSpace more = x :: u) (hx : x ≠ ']')
    (h : readItems fuel (x :: u) = .ok (vs, rest)) :
    readValue (fuel + 1) ('[' :: more) = .ok (array vs, rest) := by
  rw [readValue, hinside]
  split
  · rename_i heq
    exact absurd (List.cons.inj heq).1 hx
  · rw [h]

theorem readValue_object (hinside : skipSpace more = x :: u) (hx : x ≠ '\x7d')
    (h : readMembers fuel (x :: u) = .ok (numbered ms, rest)) :
    readValue (fuel + 1) ('\x7b' :: more) = .ok (ofMembers ms, rest) := by
  rw [readValue, hinside]
  split
  · rename_i heq
    exact absurd (List.cons.inj heq).1 hx
  · simp only [h, ofNumberedMembers_numbered]

theorem readItems_last (hv : readValue fuel t = .ok (v, after))
    (h : skipSpace after = ']' :: rest) : readItems (fuel + 1) t = .ok ([v], rest) := by
  rw [readItems, hv]
  simp only [h]

theorem readItems_more (hv : readValue fuel t = .ok (v, after))
    (h : skipSpace after = ',' :: more) (hvs : readItems fuel (skipSpace more) = .ok (vs, rest)) :
    readItems (fuel + 1) t = .ok (v :: vs, rest) := by
  rw [readItems, hv]
  simp only [h, hvs]

theorem readMembers_last (hname : readString none t = .ok (numbers name, r))
    (hcolon : skipSpace r = ':' :: u) (hv : readValue fuel (skipSpace u) = .ok (v, after))
    (h : skipSpace after = '\x7d' :: rest) :
    readMembers (fuel + 1) ('"' :: t) = .ok (numbered [(name, v)], rest) := by
  rw [readMembers, hname]
  simp only [hcolon, hv, h]
  rfl

theorem readMembers_more (hname : readString none t = .ok (numbers name, r))
    (hcolon : skipSpace r = ':' :: u) (hv : readValue fuel (skipSpace u) = .ok (v, after))
    (h : skipSpace after = ',' :: more)
    (hms : readMembers fuel (skipSpace more) = .ok (numbered ms, rest)) :
    readMembers (fuel + 1) ('"' :: t) = .ok (numbered ((name, v) :: ms), rest) := by
  rw [readMembers, hname]
  simp only [hcolon, hv, h, hms]
  rfl

/-! ## 5. Layouts -/

theorem afterWord?_append {word : Text} : afterWord? word (word ++ t) = some t := by
  rw [afterWord?, if_pos (by simp), List.drop_left]

theorem readAtom_null : readAtom (Text.of "null" ++ rest) = .ok (null, rest) := by
  unfold readAtom
  rw [afterWord?_append]

theorem readAtom_true : readAtom (Text.of "true" ++ rest) = .ok (bool true, rest) := by
  have hword : Text.of "true" ++ rest = 't' :: (['r', 'u', 'e'] ++ rest) := by
    rw [Text.of_eq]
    rfl
  have hsome : afterWord? "true" (Text.of "true" ++ rest) = some rest := afterWord?_append
  rw [hword] at hsome ⊢
  unfold readAtom
  rw [afterWord?_eq_none rfl (by decide), hsome]

theorem readAtom_false : readAtom (Text.of "false" ++ rest) = .ok (bool false, rest) := by
  have hword : Text.of "false" ++ rest = 'f' :: (['a', 'l', 's', 'e'] ++ rest) := by
    rw [Text.of_eq]
    rfl
  have hsome : afterWord? "false" (Text.of "false" ++ rest) = some rest := afterWord?_append
  rw [hword] at hsome ⊢
  unfold readAtom
  rw [afterWord?_eq_none rfl (by decide), afterWord?_eq_none rfl (by decide), hsome]

theorem endsNumber_newline : EndsNumber (newline depth ++ t) := by
  rintro x ⟨⟩
  decide

theorem endsNumber_comma : EndsNumber (',' :: t) := by
  rintro x ⟨⟩
  decide

/-- The lines of items, without the white space in front, begin like the first of them. -/
theorem exists_head_items (asciiOnly : Bool) (depth : Nat) (hv : v.Plain) (after : Text) :
    ∃ x u, skipSpace (indentedItems asciiOnly depth (v :: vs) ++ after) = x :: u ∧ x ≠ ']' := by
  obtain ⟨x, u, hx, hlayout, hne⟩ := exists_head asciiOnly depth v hv
  cases vs with
  | nil =>
    refine ⟨x, u ++ after, ?_, hne⟩
    rw [indentedItems, List.append_assoc, skipSpace_newline, hx, List.cons_append,
      skipSpace_cons hlayout]
  | cons w vs =>
    refine ⟨x, u ++ (',' :: indentedItems asciiOnly depth (w :: vs) ++ after), ?_, hne⟩
    rw [indentedItems, List.append_assoc, List.append_assoc, skipSpace_newline, hx,
      List.cons_append, skipSpace_cons hlayout]

/-- The lines of members, without the white space in front, begin with a name. -/
theorem exists_head_members (asciiOnly : Bool) (depth : Nat) (after : Text) :
    ∃ u, skipSpace (indentedMembers asciiOnly depth ((name, v) :: ms) ++ after) = '"' :: u := by
  cases ms with
  | nil =>
    simp only [indentedMembers, stringText, List.append_assoc, List.cons_append]
    rw [skipSpace_newline, skipSpace_cons (by decide)]
    exact ⟨_, rfl⟩
  | cons m ms =>
    simp only [indentedMembers, stringText, List.append_assoc, List.cons_append]
    rw [skipSpace_newline, skipSpace_cons (by decide)]
    exact ⟨_, rfl⟩

theorem skipSpace_value (hv : v.Plain) :
    skipSpace (indented asciiOnly depth v ++ after) = indented asciiOnly depth v ++ after := by
  obtain ⟨x, u, hx, hlayout, -⟩ := exists_head asciiOnly depth v hv
  rw [hx, List.cons_append, skipSpace_cons hlayout]

/-- The line of a member, without the white space in front and up to its value. -/
theorem skipSpace_member :
    skipSpace (newline depth ++ stringText asciiOnly name ++ ": " ++ t) =
      '"' :: (name.flatMap (stringChar asciiOnly) ++ '"' :: ':' :: ' ' :: t) := by
  rw [List.append_assoc, List.append_assoc, skipSpace_newline, stringText, Text.of_eq,
    List.append_assoc]
  simp only [List.cons_append]
  exact skipSpace_cons (by decide)

theorem skipSpace_space (hv : v.Plain) :
    skipSpace (' ' :: (indented asciiOnly depth v ++ after)) =
      indented asciiOnly depth v ++ after := by
  rw [skipSpace, List.dropWhile_cons_of_pos (by decide)]
  exact skipSpace_value hv

/-- The text of a value is not empty, so there is a depth to read it. -/
theorem exists_fuel (hv : v.Plain) (h : (indented asciiOnly depth v).length ≤ fuel) :
    ∃ fuel', fuel = fuel' + 1 := by
  obtain ⟨x, u, hx, -, -⟩ := exists_head asciiOnly depth v hv
  rw [hx, List.length_cons] at h
  exact ⟨fuel - 1, by omega⟩

/-- A line break is not empty either, and the depth that is left suffices for what is behind it. -/
theorem exists_fuel_newline (h : (newline depth ++ t).length ≤ fuel) :
    ∃ fuel', fuel = fuel' + 1 ∧ t.length ≤ fuel' := by
  simp only [List.length_append, newline, List.length_cons] at h
  exact ⟨fuel - 1, by omega, by omega⟩

/-- A word or a number in front of `rest`. -/
theorem readValue_scalar (hv : v.Plain) (htext : indented asciiOnly depth v = t)
    (hlength : (indented asciiOnly depth v).length ≤ fuel)
    (hx : ∀ x ∈ t.head?, x ≠ '"' ∧ x ≠ '[' ∧ x ≠ '\x7b')
    (h : readAtom (t ++ rest) = .ok (v, rest)) :
    readValue fuel (indented asciiOnly depth v ++ rest) = .ok (v, rest) := by
  obtain ⟨fuel, rfl⟩ := exists_fuel hv hlength
  obtain ⟨x, u, hhead, -, -⟩ := exists_head asciiOnly depth v hv
  obtain rfl : t = x :: u := htext.symm.trans hhead
  obtain ⟨hquote, hbracket, hbrace⟩ := hx x rfl
  rw [htext, List.cons_append, readValue_atom hquote hbracket hbrace]
  exact h

/-- A word begins like neither a string nor a container. -/
theorem head_word {word : String} (hword : word.toList = x :: t)
    (hx : x ≠ '"' ∧ x ≠ '[' ∧ x ≠ '\x7b') :
    ∀ y ∈ (Text.of word).head?, y ≠ '"' ∧ y ≠ '[' ∧ y ≠ '\x7b' := by
  rw [Text.of_eq, hword]
  rintro y ⟨⟩
  exact hx

mutual

/-- **A printed value is read as that value**, in front of anything that could not belong to a
number, if the depth is at least the length of the text. -/
theorem readValue_indented (asciiOnly : Bool) :
    (v : Json) → v.Plain → ∀ (depth fuel : Nat) (rest : Text),
      (indented asciiOnly depth v).length ≤ fuel → EndsNumber rest →
        readValue fuel (indented asciiOnly depth v ++ rest) = .ok (v, rest)
  | .null, hv, depth, fuel, rest, hlength, _ =>
    readValue_scalar hv (by rw [indented, scalarText]) hlength (head_word rfl (by decide))
      readAtom_null
  | .bool true, hv, depth, fuel, rest, hlength, _ =>
    readValue_scalar hv (by rw [indented, scalarText]) hlength (head_word rfl (by decide))
      readAtom_true
  | .bool false, hv, depth, fuel, rest, hlength, _ =>
    readValue_scalar hv (by rw [indented, scalarText]) hlength (head_word rfl (by decide))
      readAtom_false
  | .int i, hv, depth, fuel, rest, hlength, hrest =>
    readValue_scalar hv (by rw [indented, scalarText]) hlength (head_ofInt i)
      (readAtom_ofInt (by simpa [Plain] using hv) hrest)
  | .float x, hv, _, _, _, _, _ => absurd hv (by simp [Plain])
  | .string t, hv, depth, fuel, rest, hlength, _ => by
    obtain ⟨fuel, rfl⟩ := exists_fuel hv hlength
    rw [indented, scalarText, stringText, List.append_assoc, List.cons_append]
    exact readValue_string (readString_stringText asciiOnly t)
  | .array [], hv, depth, fuel, rest, hlength, _ => by
    obtain ⟨fuel, rfl⟩ := exists_fuel hv hlength
    rw [indented]
    exact readValue_emptyArray
  | .array (v :: more), hv, depth, fuel, rest, hlength, _ => by
    -- The bracket is one character and takes one off the depth, as does each line break behind it.
    obtain ⟨fuel, rfl⟩ := exists_fuel hv hlength
    rw [Plain] at hv
    rw [indented] at hlength ⊢
    simp only [List.cons_append, List.append_assoc, List.length_cons, List.length_append]
      at hlength ⊢
    obtain ⟨x, u, hx, hne⟩ := exists_head_items asciiOnly (depth + 1) hv.1
      (newline depth ++ ([']'] ++ rest))
    have hitems := readItems_indented asciiOnly (v :: more) hv (by simp) (depth + 1) fuel
      (newline depth ++ ([']'] ++ rest)) rest (by omega) (by
        rw [skipSpace_newline]
        exact skipSpace_cons (by decide)) endsNumber_newline
    rw [hx] at hitems
    exact readValue_array hx hne hitems
  | .object [], hv, depth, fuel, rest, hlength, _ => by
    obtain ⟨fuel, rfl⟩ := exists_fuel hv hlength
    rw [indented]
    exact readValue_emptyObject
  | .object ((name, v) :: more), hv, depth, fuel, rest, hlength, _ => by
    obtain ⟨fuel, rfl⟩ := exists_fuel hv hlength
    rw [Plain] at hv
    rw [indented] at hlength ⊢
    simp only [List.cons_append, List.append_assoc, List.length_cons, List.length_append]
      at hlength ⊢
    obtain ⟨u, hx⟩ := exists_head_members asciiOnly (depth + 1)
      (newline depth ++ (['\x7d'] ++ rest))
    have hmembers := readMembers_indented asciiOnly ((name, v) :: more) hv.2 (by simp) (depth + 1)
      fuel (newline depth ++ (['\x7d'] ++ rest)) rest (by omega) (by
        rw [skipSpace_newline]
        exact skipSpace_cons (by decide)) endsNumber_newline
    rw [hx] at hmembers
    have hobject := readValue_object hx (by decide) hmembers
    rw [ofMembers_of_nodup hv.1] at hobject
    exact hobject

theorem readItems_indented (asciiOnly : Bool) :
    (vs : List Json) → PlainItems vs → vs ≠ [] → ∀ (depth fuel : Nat) (after rest : Text),
      (indentedItems asciiOnly depth vs).length ≤ fuel → skipSpace after = ']' :: rest →
        EndsNumber after →
          readItems fuel (skipSpace (indentedItems asciiOnly depth vs ++ after)) = .ok (vs, rest)
  | [], _, hne, _, _, _, _, _, _, _ => absurd rfl hne
  | [v], hvs, _, depth, fuel, after, rest, hlength, hafter, hends => by
    rw [PlainItems] at hvs
    rw [indentedItems] at hlength ⊢
    obtain ⟨fuel, rfl, hitem⟩ := exists_fuel_newline hlength
    have hv := readValue_indented asciiOnly v hvs.1 depth fuel after hitem hends
    rw [List.append_assoc, skipSpace_newline, skipSpace_value hvs.1]
    exact readItems_last hv hafter
  | v :: w :: more, hvs, _, depth, fuel, after, rest, hlength, hafter, hends => by
    rw [PlainItems] at hvs
    rw [indentedItems, List.append_assoc] at hlength ⊢
    obtain ⟨fuel, rfl, hlines⟩ := exists_fuel_newline hlength
    rw [List.length_append, List.length_cons] at hlines
    have hv := readValue_indented asciiOnly v hvs.1 depth fuel
      (',' :: (indentedItems asciiOnly depth (w :: more) ++ after)) (by omega) endsNumber_comma
    have hmore := readItems_indented asciiOnly (w :: more) hvs.2 (by simp) depth fuel after rest
      (by omega) hafter hends
    rw [List.append_assoc, skipSpace_newline, skipSpace_value hvs.1]
    exact readItems_more hv (skipSpace_cons (by decide)) hmore

theorem readMembers_indented (asciiOnly : Bool) :
    (ms : List (Text × Json)) → PlainMembers ms → ms ≠ [] →
      ∀ (depth fuel : Nat) (after rest : Text),
        (indentedMembers asciiOnly depth ms).length ≤ fuel → skipSpace after = '\x7d' :: rest →
          EndsNumber after → readMembers fuel
            (skipSpace (indentedMembers asciiOnly depth ms ++ after)) = .ok (numbered ms, rest)
  | [], _, hne, _, _, _, _, _, _, _ => absurd rfl hne
  | [(name, v)], hms, _, depth, fuel, after, rest, hlength, hafter, hends => by
    rw [PlainMembers] at hms
    rw [indentedMembers] at hlength ⊢
    simp only [List.append_assoc] at hlength
    obtain ⟨fuel, rfl, hlines⟩ := exists_fuel_newline hlength
    simp only [List.length_append] at hlines
    have hv := readValue_indented asciiOnly v hms.1 depth fuel after (by omega) hends
    rw [← skipSpace_space hms.1] at hv
    rw [List.append_assoc, skipSpace_member]
    exact readMembers_last (readString_stringText asciiOnly name) (skipSpace_cons (by decide)) hv
      hafter
  | (name, v) :: m :: more, hms, _, depth, fuel, after, rest, hlength, hafter, hends => by
    rw [PlainMembers] at hms
    rw [indentedMembers] at hlength ⊢
    simp only [List.append_assoc] at hlength
    obtain ⟨fuel, rfl, hlines⟩ := exists_fuel_newline hlength
    simp only [List.length_append, List.length_cons] at hlines
    have hv := readValue_indented asciiOnly v hms.1 depth fuel
      (',' :: (indentedMembers asciiOnly depth (m :: more) ++ after)) (by omega) endsNumber_comma
    have hmore := readMembers_indented asciiOnly (m :: more) hms.2 (by simp) depth fuel after rest
      (by omega) hafter hends
    rw [← skipSpace_space hms.1] at hv
    rw [List.append_assoc, List.append_assoc, skipSpace_member]
    exact readMembers_more (readString_stringText asciiOnly name) (skipSpace_cons (by decide)) hv
      (skipSpace_cons (by decide)) hmore

end

/-- **A printed value is read as that value**, as a whole text, whichever characters are
escaped. -/
theorem parse_indented (hv : v.Plain) : parse (indented asciiOnly depth v) = .ok v := by
  have hends : EndsNumber [] := by simp [EndsNumber]
  have hspace : skipSpace (indented asciiOnly depth v ++ []) = indented asciiOnly depth v ++ [] :=
    skipSpace_value hv
  have hvalue := readValue_indented asciiOnly v hv depth
    (2 * (indented asciiOnly depth v).length + 2) [] (by omega) hends
  rw [List.append_nil] at hspace hvalue
  rw [parse, hspace, hvalue]
  rfl

end StoredFunctions.Json
