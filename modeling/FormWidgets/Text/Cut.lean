/-!
# Cutting texts at a separator

Splitting a list of characters at the first occurrence of a separator.  The
main statement is that a cut is exact: the two parts and the separator between
them are the input, and the separator occurs nowhere earlier.
-/

namespace FormWidgets.Text

/-- The parts before and after the first occurrence of a separator. -/
def cut? (separator : List Char) : List Char → Option (List Char × List Char)
  | [] => if separator.isEmpty then some ([], []) else none
  | char :: rest =>
      if separator.isPrefixOf (char :: rest) then
        some ([], (char :: rest).drop separator.length)
      else
        (cut? separator rest).map fun (before, after) => (char :: before, after)

/-- The two parts of a list of characters that holds the separator once, counting occurrences from the left without overlap. -/
def cutOnce? (separator chars : List Char) : Option (List Char × List Char) :=
  (cut? separator chars).filter fun (_, after) => (cut? separator after).isNone

/-- Whether a separator occurs in a list of characters. -/
def occursIn (separator chars : List Char) : Bool :=
  (cut? separator chars).isSome

/-- Putting the separator back between the parts of a cut restores the input. -/
theorem eq_append_of_cut? {separator chars before after : List Char}
    (parts : cut? separator chars = some (before, after)) :
    chars = before ++ separator ++ after := by
  induction chars generalizing before with
  | nil =>
      simp only [cut?] at parts
      split at parts
      · rename_i empty
        obtain ⟨rfl, rfl⟩ := Prod.mk.inj (Option.some.inj parts)
        simp [List.isEmpty_iff.mp empty]
      · cases parts
  | cons char rest step =>
      simp only [cut?] at parts
      split at parts
      · rename_i here
        obtain ⟨rfl, rfl⟩ := Prod.mk.inj (Option.some.inj parts)
        obtain ⟨tail, equality⟩ := List.isPrefixOf_iff_prefix.mp here
        simp [← equality]
      · obtain ⟨⟨before', after'⟩, cutRest, equality⟩ := Option.map_eq_some_iff.mp parts
        obtain ⟨rfl, rfl⟩ := Prod.mk.inj equality
        simp [step cutRest]

theorem append_dropLast_prefix (before separator after : List Char) :
    before ++ separator.dropLast <+: before ++ separator ++ after := by
  rw [List.append_assoc, List.prefix_append_right_inj]
  exact (List.dropLast_prefix separator).trans (List.prefix_append separator after)

/-- The separator does not begin before the place of a cut, nor in the part that it shares with it. -/
theorem not_infix_of_cut? {separator chars before after : List Char}
    (nonempty : separator ≠ []) (parts : cut? separator chars = some (before, after)) :
    ¬ separator <:+: before ++ separator.dropLast := by
  induction chars generalizing before with
  | nil => simp [cut?, nonempty] at parts
  | cons char rest step =>
      have whole := eq_append_of_cut? parts
      simp only [cut?] at parts
      split at parts
      · obtain ⟨rfl, rfl⟩ := Prod.mk.inj (Option.some.inj parts)
        intro early
        have shorter := early.length_le
        have positive := List.length_pos_iff.mpr nonempty
        simp only [List.nil_append, List.length_dropLast] at shorter
        omega
      · rename_i notHere
        obtain ⟨⟨before', after'⟩, cutRest, equality⟩ := Option.map_eq_some_iff.mp parts
        obtain ⟨rfl, rfl⟩ := Prod.mk.inj equality
        intro early
        rcases List.infix_cons_iff.mp early with here | later
        · have reaches : char :: before' ++ separator.dropLast <+: char :: rest :=
            whole ▸ append_dropLast_prefix (char :: before') separator after'
          exact notHere (List.isPrefixOf_iff_prefix.mpr (here.trans reaches))
        · exact step cutRest later

/--
A text is cut between two parts exactly when the separator stands between them
and does not occur earlier, not even where it would overlap that place.
-/
theorem cut?_eq_some_iff {separator chars before after : List Char}
    (nonempty : separator ≠ []) :
    cut? separator chars = some (before, after) ↔
      chars = before ++ separator ++ after ∧
        ¬ separator <:+: before ++ separator.dropLast := by
  constructor
  · intro parts
    exact ⟨eq_append_of_cut? parts, not_infix_of_cut? nonempty parts⟩
  · rintro ⟨rfl, first⟩
    induction before with
    | nil =>
        obtain ⟨head, tail, rfl⟩ := List.exists_cons_of_ne_nil nonempty
        simp [cut?]
    | cons char rest step =>
        have notHere : ¬ separator <+: char :: (rest ++ separator ++ after) := by
          intro here
          have reaches := append_dropLast_prefix (char :: rest) separator after
          have fits : separator.length ≤ (char :: rest ++ separator.dropLast).length := by
            simp only [List.length_append, List.length_cons, List.length_dropLast]
            omega
          exact first (List.prefix_of_prefix_length_le here reaches fits).isInfix
        have later : ¬ separator <:+: rest ++ separator.dropLast :=
          fun occurs => first (List.infix_cons_iff.mpr (.inr occurs))
        simp only [List.cons_append, cut?, List.isPrefixOf_iff_prefix, notHere, ↓reduceIte,
          step later, Option.map_some]

end FormWidgets.Text
