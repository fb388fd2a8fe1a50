/-
# Blanks

Two sets of blank characters are in use.  The grammar of documents skips exactly four: space,
tab, carriage return and line feed (`isLayout`).  Texts that people wrote for people -- the body
of a comment, a naming rule, a number in a setting -- are trimmed of every blank that the Unicode
standard knows (`isBlank`).
-/
import StoredFunctions.Text.Basic

namespace StoredFunctions

/-! ## 1. The two sets -/

/-- The white space of the grammar. -/
def isLayout (c : Char) : Bool := c == ' ' || c == '\t' || c == '\r' || c == '\n'

/-- The characters that end a line comment. -/
def isLineEnd (c : Char) : Bool := c == '\r' || c == '\n'

/-- The code points of all blanks. -/
def blankRanges : CodePointRanges :=
  [(0x9, 0xD), (0x1C, 0x20), (0x85, 0x85), (0xA0, 0xA0), (0x1680, 0x1680), (0x2000, 0x200A),
   (0x2028, 0x2029), (0x202F, 0x202F), (0x205F, 0x205F), (0x3000, 0x3000)]

/-- Whether a character is a blank of any kind. -/
def isBlank (c : Char) : Bool := blankRanges.contains c.toNat

theorem isLayout_of_isLineEnd {c : Char} (h : isLineEnd c = true) : isLayout c = true := by
  simp only [isLineEnd, Bool.or_eq_true, beq_iff_eq] at h
  rcases h with rfl | rfl <;> decide

/-! ## 2. Trimming -/

namespace Text

/-- The text without the blanks at its start. -/
def trimStart (t : Text) : Text := t.dropWhile isBlank

/-- The text without the blanks at its end. -/
def trimEnd (t : Text) : Text := (t.reverse.dropWhile isBlank).reverse

/-- The text without the blanks at both ends. -/
def trim (t : Text) : Text := t.trimStart.trimEnd

theorem trimStart_eq_self {t : Text} (h : ∀ x ∈ t.head?, isBlank x = false) : t.trimStart = t := by
  cases t with
  | nil => rfl
  | cons x t => exact List.dropWhile_cons_of_neg (by simp [h x rfl])

/-- No text begins with a blank behind its trimmed start. -/
theorem head_trimStart (t : Text) : ∀ x ∈ t.trimStart.head?, isBlank x = false := by
  intro x hx
  have h := List.head?_dropWhile_not isBlank t
  rw [trimStart] at hx
  rw [Option.mem_def.mp hx] at h
  exact h

theorem trimEnd_eq (t : Text) : t.trimEnd = (trimStart t.reverse).reverse := rfl

/-- **Trimming once is enough.** -/
theorem trim_trim (t : Text) : t.trim.trim = t.trim := by
  have hprefix : t.trim <+: t.trimStart := by
    rw [← List.reverse_suffix, trim, trimEnd_eq, List.reverse_reverse]
    exact List.dropWhile_suffix isBlank
  have hhead : ∀ x ∈ t.trim.head?, isBlank x = false := by
    intro x hx
    obtain ⟨more, hmore⟩ := hprefix
    refine head_trimStart t x ?_
    rw [← hmore, List.head?_append, Option.mem_def.mp hx]
    rfl
  have hlast : ∀ x ∈ t.trim.reverse.head?, isBlank x = false := by
    rw [trim, trimEnd_eq, List.reverse_reverse]
    exact head_trimStart _
  rw [trim, trimStart_eq_self hhead, trimEnd_eq, trimStart_eq_self hlast, List.reverse_reverse]

/-! ## 3. Line ends -/

/-- The text with every line end written as a line feed. -/
def unifyLines : Text → Text
  | [] => []
  | ['\r'] => ['\n']
  | '\r' :: c :: more =>
    if c = '\n' then '\n' :: unifyLines more else '\n' :: unifyLines (c :: more)
  | c :: more => c :: unifyLines more

end Text

end StoredFunctions
