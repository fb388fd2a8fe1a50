/-
# Archives read back

What is written for statements is read as their entries, and these are entries of no other
statements; so nothing is lost, and what is written again is the same text (`read_write`).

The value of an archive is read whatever stands in it (`readValue_value`): no identifier in it was
altered.  Only the way through the text needs bounds that are short enough to be read.
-/
import StoredFunctions.Proofs.Archive.Alteration

namespace StoredFunctions

namespace Archive

open Json

variable {statements : List Statement}

/-- The value of an archive is read as the entries of its statements. -/
theorem readValue_value (statements : List Statement) :
    readValue (value statements) = .ok (statements.map Statement.entry) :=
  (vets_value rfl).ok rfl

theorem parse_write (h : ∀ s ∈ statements, s.Bounded) (asciiOnly : Bool) :
    Json.parse (write asciiOnly statements) = .ok (value statements) :=
  parse_indented (plain_value h)

theorem statements?_entry (statements : List Statement) :
    statements? (statements.map Statement.entry) = some statements := by
  rw [statements?, List.mapM_map, show StatementEntry.statement? ∘ Statement.entry = some from
    funext Statement.statement?_entry]
  exact (List.mapM_pure (f := id)).trans (by simp)

/-- **Nothing is lost in an archive.**  Its text is read as entries that are the given statements,
and written again these have the same text; and both ways of escaping spell one value, so with the
same identifiers. -/
theorem read_write (h : ∀ s ∈ statements, s.Bounded) :
    ∃ entries, statements? entries = some statements ∧ ∀ asciiOnly,
      read (write asciiOnly statements) = .ok entries ∧
      (statements? entries).map (write asciiOnly) = some (write asciiOnly statements) ∧
      Json.parse (write asciiOnly statements) = .ok (value statements) := by
  have hentries := statements?_entry statements
  refine ⟨statements.map Statement.entry, hentries, fun asciiOnly => ⟨?_, ?_, ?_⟩⟩
  · rw [read, parse_write h asciiOnly]
    exact readValue_value statements
  · rw [hentries]
    rfl
  · exact parse_write h asciiOnly

/-- A statement with a bound of as many digits as can be read, and with names that are escaped: a
quote, a control, and a character beyond the first 65536. -/
def delicate : List Statement :=
  [⟨["a"], "\"\\",
    [⟨⟨"\x00"⟩, .set (.array (.record [⟨"\n𝄞"⟩]) (some (Nat.pow 10 4299))) none⟩], ["é"]⟩]

/-- Nothing of it is lost. -/
theorem read_write_delicate : (∀ s ∈ delicate, s.Bounded) ∧
    ∃ entries, statements? entries = some delicate ∧ ∀ asciiOnly,
      read (write asciiOnly delicate) = .ok entries ∧
      (statements? entries).map (write asciiOnly) = some (write asciiOnly delicate) ∧
      Json.parse (write asciiOnly delicate) = .ok (value delicate) := by
  have h : ∀ s ∈ delicate, s.Bounded := by
    have hdigits : (Text.ofNat (Nat.pow 10 4299)).length ≤ digitLimit := by decide +kernel
    have hbound : Kind.IsBound (some (Nat.pow 10 4299)) := by
      intro n hn
      rwa [← Option.mem_some.mp hn]
    intro s hs p hp
    obtain rfl := List.mem_singleton.mp hs
    obtain rfl := List.mem_singleton.mp hp
    exact ⟨⟨trivial, hbound⟩, by simp [Kind.IsBound]⟩
  exact ⟨h, read_write h⟩

end Archive

end StoredFunctions
