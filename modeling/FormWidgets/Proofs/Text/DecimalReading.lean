import FormWidgets.Proofs.Text.Splitting
import FormWidgets.Value
import Mathlib

/-!
# Reading integers

Which texts denote an integer is said here by a grammar: a sign or none, and then
digits with the value that the library gives them.  Texts are read against it, and the
range of 64-bit integers cuts off what is denoted but cannot be held; nothing is
wrapped into the range.

Printing an integer gives one of these texts, also at the lower end of the range,
whose absolute value is out of range.
-/

namespace FormWidgets

namespace Text

/-- One or more ASCII digits, and the natural number that they denote in base ten. -/
structure IsNumeral (digits : List Char) (value : Nat) : Prop where
  nonempty : digits ≠ []
  isDigit : ∀ char ∈ digits, char.isDigit = true
  value_eq : value = Nat.ofDigitChars 10 digits 0

/-- A numeral denotes its value, and so it does behind a plus sign; behind a minus sign it denotes the opposite. -/
inductive Denotes : List Char → Int → Prop where
  | plain {digits : List Char} {value : Nat} (numeral : IsNumeral digits value) :
      Denotes digits value
  | plus {digits : List Char} {value : Nat} (numeral : IsNumeral digits value) :
      Denotes ('+' :: digits) value
  | minus {digits : List Char} {value : Nat} (numeral : IsNumeral digits value) :
      Denotes ('-' :: digits) (-value)

/-! ## Digits -/

theorem digitValue?_eq_some_iff {char : Char} {digit : Nat} :
    digitValue? char = some digit ↔
      char.isDigit = true ∧ char.toNat - '0'.toNat = digit := by
  have isDigit_iff : char.isDigit = true ↔ '0' ≤ char ∧ char ≤ '9' := by
    rw [Char.isDigit, Bool.and_eq_true, decide_eq_true_eq, decide_eq_true_eq]
    rfl
  rw [digitValue?, Option.ite_none_right_eq_some, Option.some.injEq, isDigit_iff]

/-- The digits that follow are read when all of them are digits, each as the next place. -/
theorem digitsFrom?_eq_some_iff {start value : Nat} {digits : List Char} :
    digitsFrom? start digits = some value ↔
      (∀ char ∈ digits, char.isDigit = true) ∧ value = Nat.ofDigitChars 10 digits start := by
  induction digits generalizing start with
  | nil =>
      rw [digitsFrom?, Nat.ofDigitChars_nil, Option.some.injEq, eq_comm]
      exact (and_iff_right (List.forall_mem_nil _)).symm
  | cons char rest step =>
      rw [digitsFrom?, Option.bind_eq_bind, Option.bind_eq_some_iff, List.forall_mem_cons,
        Nat.ofDigitChars_cons]
      constructor
      · rintro ⟨digit, read, continued⟩
        obtain ⟨isDigit, rfl⟩ := digitValue?_eq_some_iff.mp read
        obtain ⟨digits, whole⟩ := step.mp continued
        exact ⟨⟨isDigit, digits⟩, whole⟩
      · rintro ⟨⟨isDigit, digits⟩, whole⟩
        exact ⟨_, digitValue?_eq_some_iff.mpr ⟨isDigit, rfl⟩, step.mpr ⟨digits, whole⟩⟩

theorem natural?_eq_some_iff {digits : List Char} {value : Nat} :
    natural? digits = some value ↔ IsNumeral digits value := by
  cases digits with
  | nil => exact iff_of_false (Option.some_ne_none _).symm fun numeral => numeral.nonempty rfl
  | cons char rest =>
      rw [natural?, digitsFrom?_eq_some_iff]
      · constructor
        · rintro ⟨digits, whole⟩
          exact ⟨List.cons_ne_nil _ _, digits, whole⟩
        · rintro ⟨_, digits, whole⟩
          exact ⟨digits, whole⟩
      · exact List.cons_ne_nil _ _

/-! ## Signs -/

/-- A numeral begins with no sign. -/
theorem IsNumeral.head_ne {char : Char} {rest : List Char} {value : Nat}
    (numeral : IsNumeral (char :: rest) value) : char ≠ '-' ∧ char ≠ '+' := by
  have isDigit := numeral.isDigit char List.mem_cons_self
  constructor
  · rintro rfl
    exact absurd isDigit (by decide)
  · rintro rfl
    exact absurd isDigit (by decide)

/-- What is made of the number that digits denote, when they denote one. -/
theorem map_natural?_eq_some_iff {digits : List Char} {number : Int} (make : Int → Int) :
    Option.map make (natural? digits) = some number ↔
      ∃ value : Nat, IsNumeral digits value ∧ make value = number := by
  cases read : natural? digits with
  | none =>
      refine iff_of_false (Option.some_ne_none _).symm ?_
      rintro ⟨value, numeral, _⟩
      rw [natural?_eq_some_iff.mpr numeral] at read
      cases read
  | some size =>
      constructor
      · rintro ⟨⟩
        exact ⟨size, natural?_eq_some_iff.mp read, rfl⟩
      · rintro ⟨value, numeral, rfl⟩
        rw [natural?_eq_some_iff.mpr numeral] at read
        rw [Option.some.inj read]
        rfl

theorem signed?_eq_some_iff {chars : List Char} {value : Int} :
    signed? chars = some value ↔ Denotes chars value := by
  constructor
  · intro read
    fun_cases signed? chars with
    | case1 digits =>
        obtain ⟨size, numeral, rfl⟩ := (map_natural?_eq_some_iff _).mp read
        exact .minus numeral
    | case2 digits =>
        obtain ⟨size, numeral, rfl⟩ := (map_natural?_eq_some_iff _).mp read
        exact .plus numeral
    | case3 _ noMinus noPlus =>
        rw [signed?] at read
        · obtain ⟨size, numeral, rfl⟩ := (map_natural?_eq_some_iff _).mp read
          exact .plain numeral
        · exact noMinus
        · exact noPlus
  · rintro (numeral | numeral | numeral)
    · obtain ⟨char, rest, rfl⟩ := List.exists_cons_of_ne_nil numeral.nonempty
      obtain ⟨noMinus, noPlus⟩ := numeral.head_ne
      rw [signed?]
      · exact (map_natural?_eq_some_iff _).mpr ⟨_, numeral, rfl⟩
      · rintro digits ⟨⟩
        exact noMinus rfl
      · rintro digits ⟨⟩
        exact noPlus rfl
    · exact (map_natural?_eq_some_iff _).mpr ⟨_, numeral, rfl⟩
    · exact (map_natural?_eq_some_iff _).mpr ⟨_, numeral, rfl⟩

theorem Denotes.unique {chars : List Char} {left right : Int}
    (asLeft : Denotes chars left) (asRight : Denotes chars right) : left = right :=
  Option.some.inj ((signed?_eq_some_iff.mpr asLeft).symm.trans (signed?_eq_some_iff.mpr asRight))

/-! ## The range of 64-bit integers -/

/-- Whether an integer can be held in 64 bits. -/
def FitsInt64 (value : Int) : Prop :=
  -2 ^ 63 ≤ value ∧ value < 2 ^ 63

theorem inInt64Range_eq_true_iff {value : Int} :
    inInt64Range value = true ↔ FitsInt64 value := by
  rw [inInt64Range, Bool.and_eq_true, decide_eq_true_eq, decide_eq_true_eq,
    Int64.toInt_minValue, Int64.toInt_maxValue, FitsInt64]
  omega

theorem fitsInt64_toInt (number : Int64) : FitsInt64 number.toInt :=
  ⟨number.le_toInt, number.toInt_lt⟩

theorem FitsInt64.toInt_ofInt {value : Int} (fits : FitsInt64 value) :
    (Int64.ofInt value).toInt = value :=
  Int64.toInt_ofInt_of_le fits.1 fits.2

theorem int64?_eq_some_iff {text : String} {number : Int64} :
    int64? text = some number ↔ Denotes (trimChars text.toList) number.toInt := by
  simp only [int64?, Option.map_eq_some_iff, Option.filter_eq_some_iff, signed?_eq_some_iff,
    inInt64Range_eq_true_iff]
  constructor
  · rintro ⟨value, ⟨denoted, fits⟩, rfl⟩
    rwa [fits.toInt_ofInt]
  · intro denoted
    exact ⟨_, ⟨denoted, fitsInt64_toInt number⟩, Int64.ofInt_toInt number⟩

theorem int64?_eq_none_iff {text : String} :
    int64? text = none ↔ ∀ value, Denotes (trimChars text.toList) value → ¬ FitsInt64 value := by
  simp only [int64?, Option.map_eq_none_iff, Option.filter_eq_none_iff, signed?_eq_some_iff,
    inInt64Range_eq_true_iff]

/-! ## Printed integers -/

theorem isNumeral_toDigits (value : Nat) : IsNumeral (Nat.toDigits 10 value) value where
  nonempty := Nat.toDigits_ne_nil
  isDigit _ member := Nat.isDigit_of_mem_toDigits (by decide) (by decide) member
  value_eq := Nat.ofDigitChars_ten_toDigits.symm

theorem denotes_toString (number : Int) : Denotes (toString number).toList number := by
  rw [Int.toString_eq_repr, Int.repr_eq_if]
  split
  · rename_i positive
    have printed := Denotes.plain (isNumeral_toDigits number.toNat)
    rwa [← Nat.toList_repr, Int.toNat_of_nonneg positive] at printed
  · rename_i negative
    have printed := Denotes.minus (isNumeral_toDigits (-number).toNat)
    rw [← Nat.toList_repr, Int.toNat_of_nonneg (by omega), Int.neg_neg] at printed
    rwa [String.toList_append]

theorem isWhiteSpace_of_isDigit {char : Char} (isDigit : char.isDigit = true) :
    isWhiteSpace char = false := by
  rw [Char.isDigit, Bool.and_eq_true, decide_eq_true_eq, decide_eq_true_eq] at isDigit
  have lower : 48 ≤ char.toNat := isDigit.1
  have upper : char.toNat ≤ 57 := isDigit.2
  simp [isWhiteSpace, whiteSpaceRanges]
  omega

/-- Nothing that denotes an integer holds white space. -/
theorem Denotes.isWhiteSpace_eq_false {chars : List Char} {value : Int}
    (denoted : Denotes chars value) : ∀ char ∈ chars, isWhiteSpace char = false := by
  cases denoted with
  | plain numeral => exact fun char member => isWhiteSpace_of_isDigit (numeral.isDigit char member)
  | plus numeral =>
      rw [List.forall_mem_cons]
      exact ⟨by decide, fun char member => isWhiteSpace_of_isDigit (numeral.isDigit char member)⟩
  | minus numeral =>
      rw [List.forall_mem_cons]
      exact ⟨by decide, fun char member => isWhiteSpace_of_isDigit (numeral.isDigit char member)⟩

theorem Denotes.isTrimmed {chars : List Char} {value : Int} (denoted : Denotes chars value) :
    IsTrimmed chars where
  first char first := denoted.isWhiteSpace_eq_false char (List.mem_of_mem_head? first)
  last char last := denoted.isWhiteSpace_eq_false char (List.mem_of_mem_getLast? last)

theorem isBlank_iff {text : String} :
    isBlank text = true ↔ ∀ char ∈ text.toList, isWhiteSpace char = true :=
  List.all_eq_true

/-- White space around a printed integer does not matter. -/
theorem int64?_append_toString {before after : String} (blankBefore : isBlank before = true)
    (blankAfter : isBlank after = true) (number : Int64) :
    int64? (before ++ toString number.toInt ++ after) = some number := by
  have printed := denotes_toString number.toInt
  rw [int64?_eq_some_iff, String.toList_append, String.toList_append,
    printed.isTrimmed.trimChars_append (isBlank_iff.mp blankBefore) (isBlank_iff.mp blankAfter)]
  exact printed

end Text

namespace Answer

open Text (Denotes FitsInt64 isBlank)

/--
A text is read as an integer of 64 bits exactly when, white space around it aside, it
denotes that integer; it is read as none exactly when it denotes none that fits.  The
text of an integer is read as that integer, whatever white space is put around it.
-/
theorem int?_reads_decimal :
    (∀ content number, (of (.text content)).int? = some number ↔
      Denotes (Text.trim content).toList number.toInt) ∧
    (∀ content, (of (.text content)).int? = none ↔
      ∀ value, Denotes (Text.trim content).toList value → ¬ FitsInt64 value) ∧
    ∀ number before after, isBlank before = true → isBlank after = true →
      ∃ printed, (of (.int number)).text? = some printed ∧
        (of (.text (before ++ printed ++ after))).int? = some number := by
  refine ⟨?_, ?_, ?_⟩
  · intro content number
    rw [Text.trim, String.toList_ofList]
    exact Text.int64?_eq_some_iff
  · intro content
    rw [Text.trim, String.toList_ofList]
    exact Text.int64?_eq_none_iff
  · intro number before after blankBefore blankAfter
    exact ⟨_, rfl, Text.int64?_append_toString blankBefore blankAfter number⟩

/-- The least integer is read back, the greatest one is read with a sign and a zero, and the next is refused. -/
theorem int?_reads_ends_of_range :
    isBlank "\u3000" = true ∧ isBlank "\n" = true ∧
      (of (.text "\u3000-9223372036854775808\n")).int? = some Int64.minValue ∧
      (of (.text "+09223372036854775807")).int? = some Int64.maxValue ∧
      (of (.text "9223372036854775808")).int? = none := by
  obtain ⟨reads, refuses, readsBack⟩ := int?_reads_decimal
  have blankBefore : isBlank "\u3000" = true := by decide
  have blankAfter : isBlank "\n" = true := by decide
  obtain ⟨printed, isPrinted, readBack⟩ :=
    readsBack Int64.minValue "\u3000" "\n" blankBefore blankAfter
  obtain rfl : "-9223372036854775808" = printed := Option.some.inj isPrinted
  refine ⟨blankBefore, blankAfter, readBack, ?_, ?_⟩
  · exact (reads _ _).mpr (.plus ⟨by decide, List.all_eq_true.mp (by decide), by decide⟩)
  · apply (refuses _).mpr
    intro value denoted fits
    have one : Denotes "9223372036854775808".toList 9223372036854775808 :=
      .plain ⟨by decide, List.all_eq_true.mp (by decide), by decide⟩
    obtain rfl := denoted.unique one
    exact absurd fits.2 (by decide)

end Answer

end FormWidgets
