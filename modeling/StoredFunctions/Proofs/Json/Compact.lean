/-
# Compact values read back

The compact layout, which has no white space, is read as the value it was made from, in front of
anything that could not belong to a number (`readValue_compact`); so no two plain values share a
compact text (`compact_inj`).

A value that is no container has the same text in both layouts (`compact_scalar`), and only the
two containers are read anew.  Here an item stands behind a bracket or a comma and not on a line
of its own; this one character in front of each item is what the depth of the readers is paid with.
-/
import StoredFunctions.Proofs.Json.Layout

namespace StoredFunctions.Json

variable {asciiOnly : Bool} {t u rest after name : Text} {v w : Json} {vs : List Json}
  {ms : List (Text × Json)} {x : Char}

/-! ## 1. Beginnings and ends -/

theorem endsNumber_bracket : EndsNumber (']' :: t) := by
  rintro x ⟨⟩
  decide

theorem endsNumber_brace : EndsNumber ('\x7d' :: t) := by
  rintro x ⟨⟩
  decide

/-- A value that is no container has one text. -/
theorem compact_scalar (hv : v.Plain) (h : v.depth = 0) :
    compact asciiOnly v = indented asciiOnly 0 v := by
  cases v with
  | array items => exact absurd h (by simp [depth])
  | object members => exact absurd h (by simp [depth])
  | null => rw [compact, indented]
  | bool b => rw [compact, indented]
  | int n => rw [compact, indented]
  | float y => rw [compact, indented]
  | string s => rw [compact, indented]
  | torn v => exact absurd hv (by simp [Plain])

/-- What a compact value begins with: no white space, and no closing bracket. -/
theorem exists_head_compact (asciiOnly : Bool) (hv : v.Plain) :
    ∃ x u, compact asciiOnly v = x :: u ∧ isLayout x = false ∧ x ≠ ']' := by
  by_cases hdepth : v.depth = 0
  · rw [compact_scalar hv hdepth]
    exact exists_head asciiOnly 0 v hv
  · cases v with
    | array items => exact ⟨'[', _, by rw [compact]; rfl, by decide, by decide⟩
    | object members => exact ⟨'\x7b', _, by rw [compact]; rfl, by decide, by decide⟩
    | torn v => exact absurd hv (by simp [Plain])
    | _ => exact absurd (by rw [depth]) hdepth

theorem skipSpace_compact (hv : v.Plain) :
    skipSpace (compact asciiOnly v ++ t) = compact asciiOnly v ++ t := by
  obtain ⟨x, u, hx, hlayout, -⟩ := exists_head_compact asciiOnly hv
  rw [hx, List.cons_append, skipSpace_cons hlayout]

/-- Items begin like the first of them. -/
theorem exists_head_compactItems (asciiOnly : Bool) (hv : v.Plain) (vs : List Json)
    (after : Text) :
    ∃ x u, compactItems asciiOnly (v :: vs) ++ after = x :: u ∧ isLayout x = false ∧ x ≠ ']' := by
  obtain ⟨x, u, hx, hlayout, hne⟩ := exists_head_compact asciiOnly hv
  cases vs with
  | nil => exact ⟨x, u ++ after, by rw [compactItems, hx, List.cons_append], hlayout, hne⟩
  | cons w vs =>
    refine ⟨x, u ++ (',' :: compactItems asciiOnly (w :: vs) ++ after), ?_, hlayout, hne⟩
    rw [compactItems, hx, List.cons_append, List.cons_append, List.append_assoc]

/-- Members begin with a name. -/
theorem exists_head_compactMembers (asciiOnly : Bool) (name : Text) (v : Json)
    (ms : List (Text × Json)) (after : Text) :
    ∃ u, compactMembers asciiOnly ((name, v) :: ms) ++ after = '"' :: u := by
  cases ms with
  | nil => exact ⟨_, by rw [compactMembers, stringText]; rfl⟩
  | cons m ms => exact ⟨_, by rw [compactMembers, stringText]; rfl⟩

/-! ## 2. Reading -/

theorem readValue_compact_scalar (hv : v.Plain) (hdepth : v.depth = 0) {fuel : Nat}
    (hfuel : (compact asciiOnly v).length ≤ fuel) (hrest : EndsNumber rest) :
    readValue fuel (compact asciiOnly v ++ rest) = .ok (v, rest) := by
  rw [compact_scalar hv hdepth] at hfuel ⊢
  exact readValue_indented asciiOnly v hv 0 fuel rest hfuel hrest

mutual

/-- **A compact value is read as that value**, in front of anything that could not belong to a
number, if the depth is at least the length of the text. -/
theorem readValue_compact (asciiOnly : Bool) :
    (v : Json) → v.Plain → ∀ (fuel : Nat) (rest : Text),
      (compact asciiOnly v).length ≤ fuel → EndsNumber rest →
        readValue fuel (compact asciiOnly v ++ rest) = .ok (v, rest)
  | .null, hv, _, _, hfuel, hrest => readValue_compact_scalar hv rfl hfuel hrest
  | .bool _, hv, _, _, hfuel, hrest => readValue_compact_scalar hv rfl hfuel hrest
  | .int _, hv, _, _, hfuel, hrest => readValue_compact_scalar hv rfl hfuel hrest
  | .float _, hv, _, _, hfuel, hrest => readValue_compact_scalar hv rfl hfuel hrest
  | .string _, hv, _, _, hfuel, hrest => readValue_compact_scalar hv rfl hfuel hrest
  | .array [], _, 0, _, hfuel, _ => absurd hfuel (by simp [compact])
  | .array [], _, fuel + 1, rest, _, _ => readValue_emptyArray
  | .array (v :: more), _, 0, _, hfuel, _ => absurd hfuel (by simp [compact])
  | .array (v :: more), hv, fuel + 1, rest, hfuel, _ => by
    rw [Plain] at hv
    rw [compact] at hfuel ⊢
    simp only [List.cons_append, List.append_assoc, List.length_cons, List.length_append]
      at hfuel ⊢
    -- The reader looks for the closing bracket first, and no item begins with it.
    obtain ⟨x, u, hx, hlayout, hne⟩ := exists_head_compactItems asciiOnly hv.1 more
      (']' :: rest)
    have hitems := readItems_compact asciiOnly (v :: more) hv (by simp) fuel rest (by omega)
    rw [hx] at hitems
    refine readValue_array ?_ hne hitems
    rw [List.nil_append, hx]
    exact skipSpace_cons hlayout
  | .object [], _, 0, _, hfuel, _ => absurd hfuel (by simp [compact])
  | .object [], _, fuel + 1, rest, _, _ => readValue_emptyObject
  | .object ((name, v) :: more), _, 0, _, hfuel, _ => absurd hfuel (by simp [compact])
  | .object ((name, v) :: more), hv, fuel + 1, rest, hfuel, _ => by
    rw [Plain] at hv
    rw [compact] at hfuel ⊢
    simp only [List.cons_append, List.append_assoc, List.length_cons, List.length_append]
      at hfuel ⊢
    obtain ⟨u, hx⟩ := exists_head_compactMembers asciiOnly name v more ('\x7d' :: rest)
    have hmembers := readMembers_compact asciiOnly ((name, v) :: more) hv.2 (by simp) fuel rest
      (by omega)
    rw [hx] at hmembers
    rw [← ofMembers_of_nodup hv.1]
    refine readValue_object ?_ (by decide) hmembers
    rw [List.nil_append, hx]
    exact skipSpace_cons (by decide)

/-- Items up to the closing bracket. -/
theorem readItems_compact (asciiOnly : Bool) :
    (vs : List Json) → PlainItems vs → vs ≠ [] → ∀ (fuel : Nat) (rest : Text),
      (compactItems asciiOnly vs).length < fuel →
        readItems fuel (compactItems asciiOnly vs ++ ']' :: rest) = .ok (vs, rest)
  | [], _, hne, _, _, _ => absurd rfl hne
  | _ :: _, _, _, 0, _, hfuel => absurd hfuel (Nat.not_lt_zero _)
  | [v], hvs, _, fuel + 1, rest, hfuel => by
    rw [PlainItems] at hvs
    rw [compactItems] at hfuel ⊢
    have hv := readValue_compact asciiOnly v hvs.1 fuel (']' :: rest) (by omega) endsNumber_bracket
    exact readItems_last hv (skipSpace_cons (by decide))
  | v :: w :: more, hvs, _, fuel + 1, rest, hfuel => by
    rw [PlainItems] at hvs
    rw [compactItems] at hfuel ⊢
    rw [List.length_append, List.length_cons] at hfuel
    rw [List.append_assoc, List.cons_append]
    have hv := readValue_compact asciiOnly v hvs.1 fuel
      (',' :: (compactItems asciiOnly (w :: more) ++ ']' :: rest)) (by omega) endsNumber_comma
    have hmore := readItems_compact asciiOnly (w :: more) hvs.2 (by simp) fuel rest (by omega)
    obtain ⟨x, u, hx, hlayout, -⟩ := exists_head_compactItems asciiOnly hvs.2.1 more
      (']' :: rest)
    refine readItems_more hv (skipSpace_cons (by decide)) ?_
    rw [hx, skipSpace_cons hlayout, ← hx]
    exact hmore

/-- Members up to the closing brace. -/
theorem readMembers_compact (asciiOnly : Bool) :
    (ms : List (Text × Json)) → PlainMembers ms → ms ≠ [] → ∀ (fuel : Nat) (rest : Text),
      (compactMembers asciiOnly ms).length < fuel →
        readMembers fuel (compactMembers asciiOnly ms ++ '\x7d' :: rest) =
          .ok (numbered ms, rest)
  | [], _, hne, _, _, _ => absurd rfl hne
  | _ :: _, _, _, 0, _, hfuel => absurd hfuel (Nat.not_lt_zero _)
  | [(name, v)], hms, _, fuel + 1, rest, hfuel => by
    rw [PlainMembers] at hms
    rw [compactMembers] at hfuel ⊢
    rw [List.length_append, List.length_cons] at hfuel
    have hv := readValue_compact asciiOnly v hms.1 fuel ('\x7d' :: rest) (by omega)
      endsNumber_brace
    rw [← skipSpace_compact hms.1] at hv
    rw [stringText]
    simp only [List.append_assoc, List.cons_append, List.nil_append]
    exact readMembers_last (readString_stringText asciiOnly name) (skipSpace_cons (by decide)) hv
      (skipSpace_cons (by decide))
  | (name, v) :: (name', w) :: more, hms, _, fuel + 1, rest, hfuel => by
    rw [PlainMembers] at hms
    rw [compactMembers] at hfuel ⊢
    simp only [List.length_append, List.length_cons] at hfuel
    have hv := readValue_compact asciiOnly v hms.1 fuel
      (',' :: (compactMembers asciiOnly ((name', w) :: more) ++ '\x7d' :: rest)) (by omega)
      endsNumber_comma
    have hmore := readMembers_compact asciiOnly ((name', w) :: more) hms.2 (by simp) fuel rest
      (by omega)
    obtain ⟨u, hx⟩ := exists_head_compactMembers asciiOnly name' w more ('\x7d' :: rest)
    rw [← skipSpace_compact hms.1] at hv
    rw [stringText]
    simp only [List.append_assoc, List.cons_append, List.nil_append]
    refine readMembers_more (readString_stringText asciiOnly name) (skipSpace_cons (by decide)) hv
      (skipSpace_cons (by decide)) ?_
    rw [hx, skipSpace_cons (by decide), ← hx]
    exact hmore

end

/-- **A compact text spells one plain value.** -/
theorem compact_inj (hv : v.Plain) (hw : w.Plain)
    (h : compact asciiOnly v = compact asciiOnly w) : v = w := by
  have hends : EndsNumber [] := by simp [EndsNumber]
  have hreadv := readValue_compact asciiOnly v hv _ [] (Nat.le_refl _) hends
  have hreadw := readValue_compact asciiOnly w hw _ [] (Nat.le_refl _) hends
  rw [h, hreadw] at hreadv
  exact (Prod.mk.inj (Except.ok.inj hreadv)).1.symm

end StoredFunctions.Json
