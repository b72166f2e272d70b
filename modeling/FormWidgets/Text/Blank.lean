/-!
# White space

The characters with the Unicode property `White_Space`, and trimming and
blankness of texts with respect to them.

Expressions, ids and names count as absent when they are blank, so the table
decides what the engine evaluates and what validation rejects.  Zero-width
characters such as U+200B and U+FEFF do not have the property.
-/

namespace FormWidgets.Text

/-- The inclusive ranges of code points with the property `White_Space`. -/
def whiteSpaceRanges : List (Nat × Nat) :=
  [(0x9, 0xD), (0x20, 0x20), (0x85, 0x85), (0xA0, 0xA0), (0x1680, 0x1680),
    (0x2000, 0x200A), (0x2028, 0x2029), (0x202F, 0x202F), (0x205F, 0x205F),
    (0x3000, 0x3000)]

/-- Whether a character has the property `White_Space`. -/
def isWhiteSpace (char : Char) : Bool :=
  whiteSpaceRanges.any fun (first, last) =>
    decide (first ≤ char.toNat) && decide (char.toNat ≤ last)

/-- Drop white space at the start of a list of characters. -/
def trimStart (chars : List Char) : List Char :=
  chars.dropWhile isWhiteSpace

/-- Drop white space at both ends of a list of characters. -/
def trimChars (chars : List Char) : List Char :=
  (trimStart (trimStart chars).reverse).reverse

/-- Drop white space at both ends of a text. -/
def trim (text : String) : String :=
  String.ofList (trimChars text.toList)

/-- A text is blank when it holds nothing but white space. -/
def isBlank (text : String) : Bool :=
  text.toList.all isWhiteSpace

/-- An optional text is blank when it is absent or holds nothing but white space. -/
def isBlank? (text : Option String) : Bool :=
  text.all isBlank

@[simp]
theorem isBlank?_none : isBlank? none = true := rfl

@[simp]
theorem isBlank?_some (text : String) : isBlank? (some text) = isBlank text := rfl

@[simp]
theorem trimStart_nil : trimStart [] = [] := rfl

/-- Nothing is left of the start exactly when every character is white space. -/
theorem trimStart_eq_nil_iff (chars : List Char) :
    trimStart chars = [] ↔ ∀ char ∈ chars, isWhiteSpace char = true := by
  induction chars with
  | nil => simp
  | cons char rest step =>
      by_cases white : isWhiteSpace char = true
      · simp_all [trimStart]
      · simp [trimStart, white]

/-- What remains after dropping white space at the start begins with a visible character. -/
theorem not_isWhiteSpace_head_trimStart {chars rest : List Char} {char : Char}
    (start : trimStart chars = char :: rest) :
    isWhiteSpace char = false := by
  induction chars with
  | nil => simp at start
  | cons first others step =>
      by_cases white : isWhiteSpace first = true
      · exact step (by simpa [trimStart, white] using start)
      · simp only [trimStart, white, Bool.false_eq_true, not_false_eq_true,
          List.dropWhile_cons_of_neg, List.cons.injEq] at start
        simpa [start.1] using white

/-- A list of characters is trimmed to nothing exactly when all of it is white space. -/
theorem trimChars_eq_nil_iff (chars : List Char) :
    trimChars chars = [] ↔ ∀ char ∈ chars, isWhiteSpace char = true := by
  rw [trimChars, List.reverse_eq_nil_iff, trimStart_eq_nil_iff]
  cases start : trimStart chars with
  | nil => simpa using (trimStart_eq_nil_iff chars).mp start
  | cons char rest =>
      have visible := not_isWhiteSpace_head_trimStart start
      constructor
      · intro blank
        simp [blank char (by simp)] at visible
      · intro blank
        rw [(trimStart_eq_nil_iff chars).mpr blank] at start
        cases start

end FormWidgets.Text
