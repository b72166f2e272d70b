import FormWidgets.Text.Blank
import FormWidgets.Text.Cut
import Mathlib.Data.List.Infix

/-!
# Splitting and trimming

A cut fails only when the separator does not occur, is made where it stands furthest
to the left, and, into exactly two parts, says where it occurs.  A list of characters
is trimmed when neither end is white space; trimming gives such a list, changes no
other, and takes off all white space around one.
-/

namespace FormWidgets.Text

variable {separator chars : List Char}

theorem cut?_eq_none_iff (nonempty : separator ≠ []) :
    cut? separator chars = none ↔ ¬ separator <:+: chars := by
  induction chars with
  | nil => simp [cut?, nonempty]
  | cons char rest step =>
      rw [cut?, List.infix_cons_iff, ← List.isPrefixOf_iff_prefix]
      split
      · rename_i here
        simp [here]
      · rename_i notHere
        simp [notHere, step]

theorem occursIn_eq_true_iff (nonempty : separator ≠ []) :
    occursIn separator chars = true ↔ separator <:+: chars := by
  rw [occursIn, Option.isSome_iff_ne_none, ne_eq, cut?_eq_none_iff nonempty, not_not]

/-- A text is cut at the separator that stands furthest to the left. -/
theorem cut?_eq_some_iff_first (nonempty : separator ≠ []) {before after : List Char} :
    cut? separator chars = some (before, after) ↔
      chars = before ++ separator ++ after ∧
        ∀ earlier rest, chars = earlier ++ separator ++ rest →
          before.length ≤ earlier.length := by
  have positive := List.length_pos_iff.mpr nonempty
  rw [cut?_eq_some_iff nonempty]
  constructor
  · rintro ⟨whole, unseparated⟩
    refine ⟨whole, fun earlier rest other => ?_⟩
    by_contra tooEarly
    have reaches : before ++ separator.dropLast <+: chars :=
      whole ▸ append_dropLast_prefix before separator after
    have here : earlier ++ separator <+: chars := ⟨rest, other.symm⟩
    have fits : (earlier ++ separator).length ≤ (before ++ separator.dropLast).length := by
      simp only [List.length_append, List.length_dropLast]
      omega
    have inside := List.prefix_of_prefix_length_le here reaches fits
    exact unseparated ((List.suffix_append earlier separator).isInfix.trans inside.isInfix)
  · rintro ⟨whole, first⟩
    refine ⟨whole, ?_⟩
    rintro ⟨earlier, rest, occurs⟩
    have other : chars = earlier ++ separator ++ (rest ++ [separator.getLast nonempty] ++ after) := by
      calc
        chars = before ++ (separator.dropLast ++ [separator.getLast nonempty]) ++ after := by
          rw [List.dropLast_append_getLast nonempty]
          exact whole
        _ = (before ++ separator.dropLast) ++ [separator.getLast nonempty] ++ after := by
          simp only [List.append_assoc]
        _ = earlier ++ separator ++ (rest ++ [separator.getLast nonempty] ++ after) := by
          rw [← occurs]
          simp only [List.append_assoc]
    have notEarlier := first _ _ other
    have lengths := congrArg List.length occurs
    simp only [List.length_append, List.length_dropLast] at lengths
    omega

/-- Two parts are all that a separator leaves when it stands between them and nowhere else. -/
theorem cutOnce?_eq_some_iff (nonempty : separator ≠ []) {before after : List Char} :
    cutOnce? separator chars = some (before, after) ↔
      chars = before ++ separator ++ after ∧
        ¬ separator <:+: before ++ separator.dropLast ∧ ¬ separator <:+: after := by
  rw [cutOnce?, Option.filter_eq_some_iff, cut?_eq_some_iff nonempty, Option.isNone_iff_eq_none,
    cut?_eq_none_iff nonempty, and_assoc]

/-! ## Trimming -/

/-- Neither end is white space. -/
structure IsTrimmed (chars : List Char) : Prop where
  first : ∀ char ∈ chars.head?, isWhiteSpace char = false
  last : ∀ char ∈ chars.getLast?, isWhiteSpace char = false

theorem first_trimStart (chars : List Char) :
    ∀ char ∈ (trimStart chars).head?, isWhiteSpace char = false := by
  intro char first
  cases start : trimStart chars with
  | nil =>
      rw [start] at first
      cases first
  | cons head rest =>
      rw [start] at first
      cases first
      exact not_isWhiteSpace_head_trimStart start

theorem trimStart_eq_self (first : ∀ char ∈ chars.head?, isWhiteSpace char = false) :
    trimStart chars = chars := by
  cases chars with
  | nil => rfl
  | cons char rest =>
      have visible := first char rfl
      simp [trimStart, visible]

theorem isTrimmed_trimChars (chars : List Char) : IsTrimmed (trimChars chars) := by
  rw [trimChars]
  constructor
  case first =>
    intro char first
    have kept : (trimStart (trimStart chars).reverse).reverse <+: trimStart chars := by
      rw [← List.reverse_suffix, List.reverse_reverse]
      exact List.dropWhile_suffix _
    obtain ⟨dropped, equality⟩ := kept
    apply first_trimStart chars char
    rw [← equality, List.head?_append, Option.mem_def.mp first]
    rfl
  case last =>
    intro char last
    rw [List.getLast?_reverse] at last
    exact first_trimStart _ char last

theorem IsTrimmed.trimChars_eq (trimmed : IsTrimmed chars) : trimChars chars = chars := by
  rw [trimChars, trimStart_eq_self trimmed.first, trimStart_eq_self, List.reverse_reverse]
  intro char last
  rw [List.head?_reverse] at last
  exact trimmed.last char last

/-- White space around a trimmed text is all that is trimmed off. -/
theorem IsTrimmed.trimChars_append {before after : List Char} (trimmed : IsTrimmed chars)
    (blankBefore : ∀ char ∈ before, isWhiteSpace char = true)
    (blankAfter : ∀ char ∈ after, isWhiteSpace char = true) :
    trimChars (before ++ chars ++ after) = chars := by
  have start : trimStart (before ++ chars ++ after) = trimStart (chars ++ after) := by
    rw [List.append_assoc]
    exact List.dropWhile_append_of_pos blankBefore
  cases chars with
  | nil =>
      apply (trimChars_eq_nil_iff _).mpr
      intro char member
      rw [List.append_nil] at member
      exact (List.mem_append.mp member).elim (blankBefore char) (blankAfter char)
  | cons head rest =>
      have kept : trimStart (head :: rest ++ after) = head :: rest ++ after :=
        trimStart_eq_self trimmed.first
      have blankEnd : ∀ char ∈ after.reverse, isWhiteSpace char = true :=
        fun char member => blankAfter char (List.mem_reverse.mp member)
      have final : trimStart (head :: rest).reverse = (head :: rest).reverse := by
        apply trimStart_eq_self
        intro char last
        rw [List.head?_reverse] at last
        exact trimmed.last char last
      rw [trimChars, start, kept, List.reverse_append]
      rw [trimStart, List.dropWhile_append_of_pos blankEnd, ← trimStart, final,
        List.reverse_reverse]

/-- Whether two parts are trimmed around a middle does not depend on the middle. -/
theorem isTrimmed_append_iff {before middle after : List Char} (before_ne : before ≠ [])
    (after_ne : after ≠ []) :
    IsTrimmed (before ++ middle ++ after) ↔
      (∀ char ∈ before.head?, isWhiteSpace char = false) ∧
        ∀ char ∈ after.getLast?, isWhiteSpace char = false := by
  have head : (before ++ middle ++ after).head? = before.head? := by
    rw [List.append_assoc, List.head?_append_of_ne_nil _ before_ne]
  have last : (before ++ middle ++ after).getLast? = after.getLast? := by
    rw [List.getLast?_append_of_ne_nil _ after_ne]
  constructor
  · rintro ⟨first, final⟩
    exact ⟨head ▸ first, last ▸ final⟩
  · rintro ⟨first, final⟩
    exact ⟨head.symm ▸ first, last.symm ▸ final⟩

end FormWidgets.Text
