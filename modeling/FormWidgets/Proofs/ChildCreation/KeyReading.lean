import FormWidgets.ChildCreation.Key
import FormWidgets.Proofs.Text.Splitting

/-!
# Reading keys back

A key is cut at its first double colon.  Behind a relation whose name ends in a
colon, that is one place too early: the last colon of the relation is read as
part of the separator, and the type gets the colon that is left over.

The main statements say which pairs read back from their key, which pairs share
a key, namely only two that differ by a colon moved across the separator, and
which texts are keys at all.
-/

namespace FormWidgets.ChildCreation

/-- A name that may stand in a key: it is not empty and does not hold the separator. -/
structure IsKeyName (name : String) : Prop where
  nonempty : name ≠ ""
  unseparated : ¬ keySeparator <:+: name.toList

/-- The last character of a name is a colon, so that it could begin a separator. -/
def EndsInColon (name : String) : Prop :=
  [':'] <:+ name.toList

instance (name : String) : Decidable (EndsInColon name) :=
  inferInstanceAs (Decidable ([':'] <:+ name.toList))

/-! ## Characters -/

theorem keySeparator_ne_nil : keySeparator ≠ [] :=
  List.cons_ne_nil _ _

/-- A colon completes a separator only behind another colon. -/
theorem keySeparator_infix_append_colon_iff {chars : List Char} :
    keySeparator <:+: chars ++ [':'] ↔ [':'] <:+ chars ∨ keySeparator <:+: chars := by
  have atEnd : keySeparator <:+ chars ++ [':'] ↔ [':'] <:+ chars := by
    rw [show keySeparator = [':'] ++ [':'] from rfl]
    constructor
    · rintro ⟨before, equality⟩
      rw [← List.append_assoc] at equality
      exact ⟨before, List.append_cancel_right equality⟩
    · rintro ⟨before, rfl⟩
      exact ⟨before, (List.append_assoc _ _ _).symm⟩
  rw [List.infix_concat_iff, atEnd]

theorem cut?_keySeparator_eq_some_iff {chars relation typeName : List Char} :
    Text.cut? keySeparator chars = some (relation, typeName) ↔
      chars = encodeChars relation typeName ∧
        ¬ [':'] <:+ relation ∧ ¬ keySeparator <:+: relation := by
  rw [Text.cut?_eq_some_iff keySeparator_ne_nil, show keySeparator.dropLast = [':'] from rfl,
    keySeparator_infix_append_colon_iff, not_or]
  rfl

theorem decodeChars?_eq_some_iff {key relation typeName : List Char} :
    decodeChars? key = some (relation, typeName) ↔
      key = encodeChars relation typeName ∧ relation ≠ [] ∧ typeName ≠ [] ∧
        ¬ [':'] <:+ relation ∧ ¬ keySeparator <:+: relation := by
  simp only [decodeChars?, Option.filter_eq_some_iff, cut?_keySeparator_eq_some_iff,
    Bool.and_eq_true, Bool.not_eq_true', List.isEmpty_eq_false_iff]
  constructor
  · rintro ⟨⟨whole, noColon, unseparated⟩, relationNonempty, typeNonempty⟩
    exact ⟨whole, relationNonempty, typeNonempty, noColon, unseparated⟩
  · rintro ⟨whole, relationNonempty, typeNonempty, noColon, unseparated⟩
    exact ⟨⟨whole, noColon, unseparated⟩, relationNonempty, typeNonempty⟩

/-! ## Keys -/

theorem eq_encodeKey_iff {key relation typeName : String} :
    key = encodeKey relation typeName ↔
      key.toList = encodeChars relation.toList typeName.toList := by
  rw [← String.toList_inj, encodeKey, String.toList_ofList]

theorem decodeKey?_eq_some_iff_chars {key relation typeName : String} :
    decodeKey? key = some (relation, typeName) ↔
      decodeChars? key.toList = some (relation.toList, typeName.toList) := by
  rw [decodeKey?, Option.map_eq_some_iff]
  constructor
  · rintro ⟨⟨first, second⟩, read, equality⟩
    obtain ⟨rfl, rfl⟩ := Prod.mk.inj equality
    rw [read, String.toList_ofList, String.toList_ofList]
  · intro read
    exact ⟨_, read, by simp only [String.ofList_toList]⟩

/--
A key reads as a relation and a type exactly when it is their key, neither of
them is empty, and the relation neither ends in a colon nor holds the separator.
-/
theorem decodeKey?_eq_some_iff {key relation typeName : String} :
    decodeKey? key = some (relation, typeName) ↔
      key = encodeKey relation typeName ∧ relation ≠ "" ∧ typeName ≠ "" ∧
        ¬ EndsInColon relation ∧ ¬ keySeparator <:+: relation.toList := by
  rw [decodeKey?_eq_some_iff_chars, decodeChars?_eq_some_iff, eq_encodeKey_iff,
    ne_eq, ne_eq, String.toList_eq_nil_iff, String.toList_eq_nil_iff, EndsInColon]

/-- A colon may stand on either side of the separator. -/
theorem encodeKey_append_colon (relation typeName : String) :
    encodeKey (relation ++ ":") typeName = encodeKey relation (":" ++ typeName) := by
  rw [encodeKey, encodeKey, String.ofList_inj, String.toList_append, String.toList_append]
  simp [encodeChars, keySeparator]

/-- The pair that is cut out of a key is the one it was made from, or that one with a colon moved. -/
theorem exists_cut_of_unseparated {relation : String} (typeName : String)
    (unseparated : ¬ keySeparator <:+: relation.toList) :
    ∃ stem rest,
      Text.cut? keySeparator (encodeKey relation typeName).toList =
          some (stem.toList, rest.toList) ∧
        ((relation = stem ∧ typeName = rest) ∨
          (relation = stem ++ ":" ∧ rest = ":" ++ typeName)) := by
  by_cases colon : EndsInColon relation
  · obtain ⟨chars, equality⟩ := colon
    have early : ¬ ([':'] <:+ chars ∨ keySeparator <:+: chars) := by
      rwa [← keySeparator_infix_append_colon_iff, equality]
    have moved : relation = String.ofList chars ++ ":" := by
      rw [← String.ofList_toList (s := relation), ← equality, String.ofList_append]
    refine ⟨String.ofList chars, ":" ++ typeName, ?_, .inr ⟨moved, rfl⟩⟩
    rw [moved, encodeKey_append_colon, cut?_keySeparator_eq_some_iff, ← eq_encodeKey_iff,
      String.toList_ofList]
    exact ⟨rfl, not_or.mp early⟩
  · refine ⟨relation, typeName, ?_, .inl ⟨rfl, rfl⟩⟩
    rw [cut?_keySeparator_eq_some_iff, ← eq_encodeKey_iff]
    exact ⟨rfl, colon, unseparated⟩

/-- Two pairs share a key exactly when they differ at most by a colon moved across the separator. -/
theorem encodeKey_eq_iff {relation typeName other otherType : String}
    (relationUnseparated : ¬ keySeparator <:+: relation.toList)
    (otherUnseparated : ¬ keySeparator <:+: other.toList) :
    encodeKey relation typeName = encodeKey other otherType ↔
      (other = relation ∧ otherType = typeName) ∨
        (other = relation ++ ":" ∧ typeName = ":" ++ otherType) ∨
        (relation = other ++ ":" ∧ otherType = ":" ++ typeName) := by
  constructor
  · intro sameKey
    obtain ⟨stem, rest, cutHere, here⟩ :=
      exists_cut_of_unseparated typeName relationUnseparated
    obtain ⟨otherStem, otherRest, cutThere, there⟩ :=
      exists_cut_of_unseparated otherType otherUnseparated
    rw [sameKey, cutThere] at cutHere
    obtain ⟨sameStem, sameRest⟩ := Prod.mk.inj (Option.some.inj cutHere)
    obtain rfl := String.toList_inj.mp sameStem
    obtain rfl := String.toList_inj.mp sameRest
    rcases here with ⟨rfl, rfl⟩ | ⟨rfl, rfl⟩
    · rcases there with ⟨rfl, rfl⟩ | ⟨rfl, moved⟩
      · exact .inl ⟨rfl, rfl⟩
      · exact .inr (.inl ⟨rfl, moved⟩)
    · rcases there with ⟨rfl, rfl⟩ | ⟨rfl, moved⟩
      · exact .inr (.inr ⟨rfl, rfl⟩)
      · exact .inl ⟨rfl, ((String.append_right_inj ":").mp moved).symm⟩
  · rintro (⟨rfl, rfl⟩ | ⟨rfl, rfl⟩ | ⟨rfl, rfl⟩)
    · rfl
    · exact (encodeKey_append_colon relation otherType).symm
    · exact encodeKey_append_colon other typeName

/--
The key of two names reads back as these names exactly when the relation does
not end in a colon; and two such pairs share a key only if they are equal or
differ by a colon moved across the separator.
-/
theorem decodeKey?_encodeKey_eq_some_self_iff {relation typeName : String}
    (relationName : IsKeyName relation) (typeIsName : IsKeyName typeName) :
    (decodeKey? (encodeKey relation typeName) = some (relation, typeName) ↔
        ¬ EndsInColon relation) ∧
      ∀ other otherType, IsKeyName other → IsKeyName otherType →
        (encodeKey relation typeName = encodeKey other otherType ↔
          (other = relation ∧ otherType = typeName) ∨
            (other = relation ++ ":" ∧ typeName = ":" ++ otherType) ∨
            (relation = other ++ ":" ∧ otherType = ":" ++ typeName)) := by
  constructor
  · rw [decodeKey?_eq_some_iff]
    constructor
    · rintro ⟨_, _, _, noColon, _⟩
      exact noColon
    · intro noColon
      exact ⟨rfl, relationName.nonempty, typeIsName.nonempty, noColon,
        relationName.unseparated⟩
  · intro other otherType otherName _
    exact encodeKey_eq_iff relationName.unseparated otherName.unseparated

/-- A colon at the start of a type does no harm, though another pair has the same key. -/
theorem decodeKey?_encodeKey_leading_colon :
    (IsKeyName "part" ∧ IsKeyName ":Novel" ∧ IsKeyName "part:" ∧ IsKeyName "Novel") ∧
      decodeKey? (encodeKey "part" ":Novel") = some ("part", ":Novel") ∧
      encodeKey "part" ":Novel" = encodeKey "part:" "Novel" := by
  have relationName : IsKeyName "part" := ⟨by decide, by decide⟩
  have typeIsName : IsKeyName ":Novel" := ⟨by decide, by decide⟩
  have otherName : IsKeyName "part:" := ⟨by decide, by decide⟩
  have otherIsName : IsKeyName "Novel" := ⟨by decide, by decide⟩
  have reading := decodeKey?_encodeKey_eq_some_self_iff relationName typeIsName
  refine ⟨⟨relationName, typeIsName, otherName, otherIsName⟩, ?_, ?_⟩
  · exact reading.1.mpr (by decide)
  · exact (reading.2 _ _ otherName otherIsName).mpr (.inr (.inl ⟨by decide, by decide⟩))

/-- A colon at the end of a relation is lost: the key neither reads back nor belongs to one pair. -/
theorem decodeKey?_encodeKey_trailing_colon :
    (IsKeyName "part:" ∧ IsKeyName "Novel" ∧ IsKeyName "part" ∧ IsKeyName ":Novel") ∧
      decodeKey? (encodeKey "part:" "Novel") = some ("part", ":Novel") ∧
      decodeKey? (encodeKey "part:" "Novel") ≠ some ("part:", "Novel") ∧
      ("part:", "Novel") ≠ ("part", ":Novel") ∧
      encodeKey "part:" "Novel" = encodeKey "part" ":Novel" := by
  have moved : decodeKey? (encodeKey "part:" "Novel") = some ("part", ":Novel") := by
    decide
  have different : ("part:", "Novel") ≠ ("part", ":Novel") := by
    decide
  refine ⟨⟨⟨by decide, by decide⟩, ⟨by decide, by decide⟩, ⟨by decide, by decide⟩,
    ⟨by decide, by decide⟩⟩, moved, ?_, different, ?_⟩
  · rw [moved]
    exact fun same => different (Option.some.inj same).symm
  · exact encodeKey_append_colon "part" "Novel"

/-! ## Texts that are no keys -/

/-- Two parts of a text, with its first double colon between them. -/
structure IsFirstCut (text before after : String) : Prop where
  whole : text = before ++ "::" ++ after
  first : ∀ earlier rest, text = earlier ++ "::" ++ rest → before.length ≤ earlier.length

theorem isFirstCut_iff {text before after : String} :
    IsFirstCut text before after ↔
      Text.cut? keySeparator text.toList = some (before.toList, after.toList) := by
  have cutAt : ∀ left right : String, text = left ++ "::" ++ right ↔
      text.toList = left.toList ++ keySeparator ++ right.toList := by
    intro left right
    rw [← String.toList_inj, String.toList_append, String.toList_append]
    rfl
  rw [Text.cut?_eq_some_iff_first keySeparator_ne_nil, ← cutAt]
  constructor
  · rintro ⟨whole, first⟩
    refine ⟨whole, fun earlier rest other => ?_⟩
    have notEarlier := first (String.ofList earlier) (String.ofList rest)
      ((cutAt _ _).mpr (by rwa [String.toList_ofList, String.toList_ofList]))
    rwa [String.length_ofList] at notEarlier
  · rintro ⟨whole, first⟩
    exact ⟨whole, fun earlier rest other => first _ _ ((cutAt _ _).mp other)⟩

theorem exists_isFirstCut {text : String} (separated : keySeparator <:+: text.toList) :
    ∃ before after, IsFirstCut text before after := by
  cases cutHere : Text.cut? keySeparator text.toList with
  | none => exact absurd separated ((Text.cut?_eq_none_iff keySeparator_ne_nil).mp cutHere)
  | some parts =>
      obtain ⟨before, after⟩ := parts
      refine ⟨String.ofList before, String.ofList after, isFirstCut_iff.mpr ?_⟩
      rwa [String.toList_ofList, String.toList_ofList]

/-- A text with a double colon is not read exactly when there is nothing on one side of the first. -/
theorem IsFirstCut.decodeKey?_eq_none_iff {key relation typeName : String}
    (parts : IsFirstCut key relation typeName) :
    decodeKey? key = none ↔ relation = "" ∨ typeName = "" := by
  rw [decodeKey?, decodeChars?, isFirstCut_iff.mp parts, Option.map_eq_none_iff,
    Option.filter_some, ite_eq_right_iff]
  simp [imp_iff_not_or]

theorem decodeKey?_eq_none_of_unseparated {key : String}
    (unseparated : ¬ keySeparator <:+: key.toList) : decodeKey? key = none := by
  rw [decodeKey?, decodeChars?, (Text.cut?_eq_none_iff keySeparator_ne_nil).mpr unseparated]
  rfl

theorem IsFirstCut.prefix_iff {key relation typeName : String}
    (parts : IsFirstCut key relation typeName) :
    keySeparator <+: key.toList ↔ relation = "" := by
  constructor
  · rintro ⟨rest, whole⟩
    have atStart : key = "" ++ "::" ++ String.ofList rest := by
      rw [← String.toList_inj, String.toList_append, String.toList_ofList, ← whole]
      rfl
    exact String.length_eq_zero_iff.mp (Nat.le_zero.mp (parts.first _ _ atStart))
  · rintro rfl
    rw [parts.whole, String.toList_append]
    exact List.prefix_append _ _

theorem IsFirstCut.eq_of_isFirstCut {key relation typeName other otherType : String}
    (parts : IsFirstCut key relation typeName) (others : IsFirstCut key other otherType) :
    relation = other ∧ typeName = otherType := by
  have same := (isFirstCut_iff.mp parts).symm.trans (isFirstCut_iff.mp others)
  obtain ⟨sameRelation, sameType⟩ := Prod.mk.inj (Option.some.inj same)
  exact ⟨String.toList_inj.mp sameRelation, String.toList_inj.mp sameType⟩

/--
A text is the key of a relation and a type that are read from it, whatever the type,
when neither is empty and no separator begins in the relation.  No other text is read:
one without a double colon, one that begins with it, and one that ends with its first.
-/
theorem decodeKey?_reads_first_cut (key : String) :
    (∀ relation typeName, decodeKey? key = some (relation, typeName) ↔
      key = encodeKey relation typeName ∧ relation ≠ "" ∧ typeName ≠ "" ∧
        ¬ keySeparator <:+: relation.toList ∧ ¬ EndsInColon relation) ∧
      (decodeKey? key = none ↔
        ¬ keySeparator <:+: key.toList ∨ keySeparator <+: key.toList ∨
          ∃ relation, IsFirstCut key relation "") := by
  constructor
  · intro relation typeName
    rw [decodeKey?_eq_some_iff, and_comm (a := ¬ EndsInColon relation)]
  · by_cases separated : keySeparator <:+: key.toList
    · obtain ⟨relation, typeName, parts⟩ := exists_isFirstCut separated
      rw [parts.decodeKey?_eq_none_iff, parts.prefix_iff]
      constructor
      · rintro (atStart | rfl)
        · exact .inr (.inl atStart)
        · exact .inr (.inr ⟨relation, parts⟩)
      · rintro (unseparated | atStart | ⟨other, others⟩)
        · exact absurd separated unseparated
        · exact .inl atStart
        · exact .inr (parts.eq_of_isFirstCut others).2
    · exact iff_of_true (decodeKey?_eq_none_of_unseparated separated) (.inl separated)

/-- Of three colons the first two separate, and the type is read as it stands. -/
example : decodeKey? "books:::lib::Novel" = some ("books", ":lib::Novel") := by decide

end FormWidgets.ChildCreation
