import FormWidgets.Proofs.ChildCreation.KeyReading
import FormWidgets.Proofs.Text.Splitting
import FormWidgets.TypeSystem.TypeName

/-!
# Reading type names

Two notations are read and one is written, so the text of a name that was read
need not be what it was read from.  The separator of that text is the one of
keys, and as in keys a colon at its left end belongs to the first separator that
can be seen: a namespace that ends in a colon is not read back.

The main statement gives the two notations as a grammar: what is read, white space
around it aside, is what the grammar has, and no text has two readings.
-/

namespace FormWidgets.TypeName

open ChildCreation

/-- The parts of a name in the notation that is also written. -/
structure IsWrittenApart (chars space name : List Char) : Prop where
  whole : chars = encodeChars space name
  noColon : ¬ [':'] <:+ space
  spaceUnseparated : ¬ keySeparator <:+: space
  nameUnseparated : ¬ keySeparator <:+: name

/-- The parts of a name in the notation with a point. -/
structure IsPointedApart (chars space name : List Char) : Prop where
  unseparated : ¬ keySeparator <:+: chars
  whole : chars = space ++ ['.'] ++ name
  spacePointless : '.' ∉ space
  namePointless : '.' ∉ name

theorem cutOnce?_separator_eq_some_iff {chars space name : List Char} :
    Text.cutOnce? keySeparator chars = some (space, name) ↔ IsWrittenApart chars space name := by
  rw [Text.cutOnce?_eq_some_iff keySeparator_ne_nil, show keySeparator.dropLast = [':'] from rfl,
    keySeparator_infix_append_colon_iff, not_or]
  constructor
  · rintro ⟨whole, ⟨noColon, spaceUnseparated⟩, nameUnseparated⟩
    exact ⟨whole, noColon, spaceUnseparated, nameUnseparated⟩
  · rintro ⟨whole, noColon, spaceUnseparated, nameUnseparated⟩
    exact ⟨whole, ⟨noColon, spaceUnseparated⟩, nameUnseparated⟩

theorem cutOnce?_point_eq_some_iff {chars space name : List Char} :
    Text.cutOnce? ['.'] chars = some (space, name) ↔
      chars = space ++ ['.'] ++ name ∧ '.' ∉ space ∧ '.' ∉ name := by
  rw [Text.cutOnce?_eq_some_iff (List.cons_ne_nil _ _), List.dropLast_singleton,
    List.append_nil, List.singleton_infix_iff, List.singleton_infix_iff]

/-- The separator that a name is cut at. -/
theorem parts?_eq_filter_cutOnce? (chars : List Char) :
    parts? chars =
      (Text.cutOnce? (if keySeparator <:+: chars then keySeparator else ['.']) chars).filter
        fun parts => !parts.1.isEmpty && !parts.2.isEmpty := by
  have occurs : Text.occursIn keySeparator chars = true ↔ keySeparator <:+: chars :=
    Text.occursIn_eq_true_iff keySeparator_ne_nil
  rw [parts?, show "::".toList = keySeparator from rfl]
  by_cases separated : keySeparator <:+: chars
  · rw [if_pos separated, if_pos (occurs.mpr separated)]
    rfl
  · rw [if_neg separated, if_neg (mt occurs.mp separated)]
    rfl

/--
A name is read from its two parts with the double colon between them, or from
its two parts with a point between them when there is no double colon at all.
-/
theorem parts?_eq_some_iff {chars space name : List Char} :
    parts? chars = some (space, name) ↔
      space ≠ [] ∧ name ≠ [] ∧
        (IsWrittenApart chars space name ∨ IsPointedApart chars space name) := by
  simp only [parts?_eq_filter_cutOnce?, Option.filter_eq_some_iff, Bool.and_eq_true,
    Bool.not_eq_true', List.isEmpty_eq_false_iff]
  by_cases separated : keySeparator <:+: chars
  · rw [if_pos separated, cutOnce?_separator_eq_some_iff]
    constructor
    · rintro ⟨written, space_ne, name_ne⟩
      exact ⟨space_ne, name_ne, .inl written⟩
    · rintro ⟨space_ne, name_ne, written | pointed⟩
      · exact ⟨written, space_ne, name_ne⟩
      · exact absurd separated pointed.unseparated
  · rw [if_neg separated, cutOnce?_point_eq_some_iff]
    constructor
    · rintro ⟨⟨whole, spacePointless, namePointless⟩, space_ne, name_ne⟩
      exact ⟨space_ne, name_ne, .inr ⟨separated, whole, spacePointless, namePointless⟩⟩
    · rintro ⟨space_ne, name_ne, written | pointed⟩
      · exact absurd ⟨space, name, written.whole.symm⟩ separated
      · exact ⟨⟨pointed.whole, pointed.spacePointless, pointed.namePointless⟩, space_ne, name_ne⟩

/-! ## Texts -/

theorem parse?_eq_some_iff {text : String} {typeName : TypeName} :
    parse? text = some typeName ↔
      parts? (Text.trimChars text.toList) =
        some (typeName.space.toList, typeName.name.toList) := by
  rw [parse?, Option.map_eq_some_iff]
  constructor
  · rintro ⟨⟨space, name⟩, read, rfl⟩
    rw [read, String.toList_ofList, String.toList_ofList]
  · intro read
    exact ⟨_, read, by simp only [String.ofList_toList]⟩

theorem text_eq_encodeKey (typeName : TypeName) :
    typeName.text = encodeKey typeName.space typeName.name := by
  rw [eq_encodeKey_iff, text, String.toList_append, String.toList_append]
  rfl

/-- What was read in either notation is, written out, a text with the two parts in it. -/
structure IsRead (typeName : TypeName) : Prop where
  space_ne : typeName.space.toList ≠ []
  name_ne : typeName.name.toList ≠ []
  spaceUnseparated : ¬ keySeparator <:+: typeName.space.toList
  nameUnseparated : ¬ keySeparator <:+: typeName.name.toList
  trimmed : Text.IsTrimmed typeName.text.toList

theorem isRead_of_parse? {text : String} {typeName : TypeName}
    (read : parse? text = some typeName) : typeName.IsRead := by
  obtain ⟨space_ne, name_ne, apart⟩ := parts?_eq_some_iff.mp (parse?_eq_some_iff.mp read)
  have trimmed := Text.isTrimmed_trimChars text.toList
  have written : typeName.text.toList = encodeChars typeName.space.toList typeName.name.toList :=
    eq_encodeKey_iff.mp typeName.text_eq_encodeKey
  rcases apart with apart | apart
  · rw [apart.whole, ← written] at trimmed
    exact ⟨space_ne, name_ne, apart.spaceUnseparated, apart.nameUnseparated, trimmed⟩
  · have unseparated := apart.unseparated
    rw [apart.whole] at trimmed unseparated
    have spaceInside := (List.prefix_append typeName.space.toList ['.']).trans
      (List.prefix_append _ typeName.name.toList)
    have nameInside := List.suffix_append (typeName.space.toList ++ ['.']) typeName.name.toList
    refine ⟨space_ne, name_ne, ?_, ?_, ?_⟩
    · exact fun occurs => unseparated (occurs.trans spaceInside.isInfix)
    · exact fun occurs => unseparated (occurs.trans nameInside.isInfix)
    · rw [written, encodeChars, Text.isTrimmed_append_iff space_ne name_ne]
      exact (Text.isTrimmed_append_iff space_ne name_ne).mp trimmed

/-- The text of a name that was read reads as the same name unless its namespace ends in a colon. -/
theorem parse?_text_eq_some_self_iff {typeName : TypeName} (isRead : typeName.IsRead) :
    parse? typeName.text = some typeName ↔ ¬ EndsInColon typeName.space := by
  have written := eq_encodeKey_iff.mp typeName.text_eq_encodeKey
  have separated : keySeparator <:+: typeName.text.toList := ⟨_, _, written.symm⟩
  rw [parse?_eq_some_iff, isRead.trimmed.trimChars_eq, parts?_eq_some_iff]
  constructor
  · rintro ⟨_, _, apart | apart⟩
    · exact apart.noColon
    · exact absurd separated apart.unseparated
  · intro noColon
    exact ⟨isRead.space_ne, isRead.name_ne,
      .inl ⟨written, noColon, isRead.spaceUnseparated, isRead.nameUnseparated⟩⟩

/-- All that the text of a name can be misread as is the name with a colon moved. -/
theorem eq_or_moved_of_parse?_text {typeName other : TypeName} (isRead : typeName.IsRead)
    (read : parse? typeName.text = some other) :
    other = typeName ∨
      typeName.space = other.space ++ ":" ∧ other.name = ":" ++ typeName.name := by
  have written := eq_encodeKey_iff.mp typeName.text_eq_encodeKey
  have separated : keySeparator <:+: typeName.text.toList := ⟨_, _, written.symm⟩
  rw [parse?_eq_some_iff, isRead.trimmed.trimChars_eq, parts?_eq_some_iff] at read
  obtain ⟨_, _, apart | apart⟩ := read
  · have sameKey : encodeKey typeName.space typeName.name = encodeKey other.space other.name := by
      rw [← typeName.text_eq_encodeKey]
      exact eq_encodeKey_iff.mpr apart.whole
    rcases (encodeKey_eq_iff isRead.spaceUnseparated apart.spaceUnseparated).mp sameKey with
      ⟨sameSpace, sameName⟩ | ⟨moved, _⟩ | moved
    · exact .inl (congr (congrArg TypeName.mk sameSpace) sameName)
    · have colon : [':'] <:+ other.space.toList := by
        rw [moved, String.toList_append]
        exact List.suffix_append _ _
      exact absurd colon apart.noColon
    · exact .inr moved
  · exact absurd separated apart.unseparated

/-! ## The notations as a grammar -/

/--
The texts that name a type.  Behind a double colon in the namespace, or a colon at its
end, the separator would begin earlier; a point counts only where no double colon does.
-/
inductive IsNotation : String → TypeName → Prop where
  | separated {space name : String} (space_ne : space ≠ "") (name_ne : name ≠ "")
      (noColon : ¬ EndsInColon space) (spaceUnseparated : ¬ keySeparator <:+: space.toList)
      (nameUnseparated : ¬ keySeparator <:+: name.toList) :
      IsNotation (space ++ "::" ++ name) ⟨space, name⟩
  | pointed {space name : String} (space_ne : space ≠ "") (name_ne : name ≠ "")
      (unseparated : ¬ keySeparator <:+: (space ++ "." ++ name).toList)
      (spacePointless : '.' ∉ space.toList) (namePointless : '.' ∉ name.toList) :
      IsNotation (space ++ "." ++ name) ⟨space, name⟩

theorem isNotation_iff {text : String} {typeName : TypeName} :
    IsNotation text typeName ↔
      parts? text.toList = some (typeName.space.toList, typeName.name.toList) := by
  rw [parts?_eq_some_iff, ne_eq, ne_eq, String.toList_eq_nil_iff, String.toList_eq_nil_iff]
  constructor
  · rintro (⟨space_ne, name_ne, noColon, spaceUnseparated, nameUnseparated⟩ |
      ⟨space_ne, name_ne, unseparated, spacePointless, namePointless⟩)
    · refine ⟨space_ne, name_ne, .inl ⟨?_, noColon, spaceUnseparated, nameUnseparated⟩⟩
      rw [String.toList_append, String.toList_append]
      rfl
    · refine ⟨space_ne, name_ne, .inr ⟨unseparated, ?_, spacePointless, namePointless⟩⟩
      rw [String.toList_append, String.toList_append]
      rfl
  · obtain ⟨space, name⟩ := typeName
    rintro ⟨space_ne, name_ne, apart | apart⟩
    · have whole : text = space ++ "::" ++ name := by
        rw [← String.toList_inj, String.toList_append, String.toList_append]
        exact apart.whole
      rw [whole]
      exact .separated space_ne name_ne apart.noColon apart.spaceUnseparated
        apart.nameUnseparated
    · have whole : text = space ++ "." ++ name := by
        rw [← String.toList_inj, String.toList_append, String.toList_append]
        exact apart.whole
      have unseparated := apart.unseparated
      rw [whole] at unseparated ⊢
      exact .pointed space_ne name_ne unseparated apart.spacePointless apart.namePointless

theorem parse?_eq_some_iff_isNotation {text : String} {typeName : TypeName} :
    parse? text = some typeName ↔ IsNotation (Text.trim text) typeName := by
  rw [parse?_eq_some_iff, isNotation_iff, Text.trim, String.toList_ofList]

theorem IsNotation.unique {text : String} {left right : TypeName}
    (asLeft : IsNotation text left) (asRight : IsNotation text right) : left = right := by
  have same := (isNotation_iff.mp asLeft).symm.trans (isNotation_iff.mp asRight)
  obtain ⟨sameSpace, sameName⟩ := Prod.mk.inj (Option.some.inj same)
  exact congr (congrArg TypeName.mk (String.toList_inj.mp sameSpace)) (String.toList_inj.mp sameName)

/--
A text is read as a type name exactly when, white space around it aside, it is the
name in one of the two notations; it is read as nothing when it is no name in either,
and it is never the notation of two names.
-/
theorem parse?_reads_notations (text : String) :
    (∀ typeName, parse? text = some typeName ↔ IsNotation (Text.trim text) typeName) ∧
      (parse? text = none ↔ ∀ typeName, ¬ IsNotation (Text.trim text) typeName) ∧
      ∀ left right, IsNotation (Text.trim text) left → IsNotation (Text.trim text) right →
        left = right := by
  refine ⟨fun _ => parse?_eq_some_iff_isNotation, ?_, fun _ _ => IsNotation.unique⟩
  rw [Option.eq_none_iff_forall_ne_some]
  exact forall_congr' fun _ => not_congr parse?_eq_some_iff_isNotation

/-- The points before a double colon belong to the namespace, and a third colon to the name. -/
theorem parse?_reads_core_book :
    let written := "\u3000lib.core:::Book\n"
    let book : TypeName := ⟨"lib.core", ":Book"⟩
    IsNotation (Text.trim written) book ∧ parse? written = some book ∧
      ∀ other, IsNotation (Text.trim written) other → other = book := by
  intro written book
  obtain ⟨reads, _, unique⟩ := parse?_reads_notations written
  have trimmed : Text.trim written = "lib.core" ++ "::" ++ ":Book" := by decide
  have named : IsNotation (Text.trim written) book := by
    rw [trimmed]
    exact .separated (by decide) (by decide) (by decide) (by decide) (by decide)
  exact ⟨named, (reads book).mpr named, fun other alike => unique other book alike named⟩

end FormWidgets.TypeName
