import FormWidgets.Data

/-!
# Written scalars

What a written scalar is, at a place that asks for one kind of scalar and at a
place that takes any.
-/

namespace FormWidgets

namespace WrittenScalar

/-- Whether a word stands for the absent value. -/
def isNullWord (word : String) : Bool :=
  ["null", "Null", "NULL", "~"].contains word

/-- The truth value that a word stands for. -/
def truthWord? (word : String) : Option Bool :=
  if ["true", "True", "TRUE"].contains word then some true
  else if ["false", "False", "FALSE"].contains word then some false
  else none

/-- Whether a word is a number that is written with a point, with an exponent or as a special value. -/
def isFractionWord (word : String) : Bool :=
  let unsigned := Text.dropPlus word.toList
  [".inf", ".Inf", ".INF"].contains (String.ofList unsigned)
    || ["-.inf", "-.Inf", "-.INF", ".nan", ".NaN", ".NAN"].contains word
    || (Text.isFiniteDecimal unsigned
      && !(word.toList.head? = some '+'
        && (unsigned.head? = some '+' || unsigned.head? = some '-')))

/-- The integer that a word is, if it is one; integers outside the range of 64 bits are unreadable. -/
def integerWord? (word : String) : Option Data :=
  match Text.numeral? word.toList, Text.negativeNumeral? word.toList with
  | some value, _ =>
      if value < UInt64.size then some (.natural value)
      else if value < UInt64.size * UInt64.size then some .unreadable
      else none
  | none, some value =>
      if value ≤ UInt64.size / 2 then some .number
      else if value ≤ UInt64.size / 2 * UInt64.size then some .unreadable
      else none
  | none, none => none

/-- What a plain scalar without a tag is. -/
def plainMeaning (word : String) : Data :=
  if word.isEmpty || isNullWord word then .null
  else
    match truthWord? word with
    | some flag => .bool flag
    | none =>
        match integerWord? word with
        | some integer => integer
        | none =>
            if !Text.hasLeadingZero word.toList && isFractionWord word then .number
            else .text word

variable (scalar : WrittenScalar)

/-- What a scalar is when its tag is left aside. -/
def untaggedMeaning : Data :=
  if scalar.style = .plain then plainMeaning scalar.text else .text scalar.text

/-- What a scalar is at a place that takes any. -/
def meaning : Data :=
  let word := scalar.text
  match scalar.tag with
  | none | some .illegible => scalar.untaggedMeaning
  | some .bool => ((truthWord? word).map Data.bool).getD .unreadable
  | some .integer => (integerWord? word).getD .unreadable
  | some .fraction => if isFractionWord word then .number else .unreadable
  | some .null => if isNullWord word then .null else .unreadable
  | some .own => .unreadable
  | some .other => .text word

/-- Whether a scalar may be read as a word of a kind: a plain one, or a literal block under the tag of the kind. -/
def isWordOf (kind : Tag) : Bool :=
  scalar.style = .plain || scalar.style = .literal && scalar.tag = some kind

/-- The truth value that a scalar is. -/
def bool? : Option Bool :=
  if scalar.isWordOf .bool then truthWord? scalar.text else none

/-- The natural number that a scalar is. -/
def natural? : Option Nat :=
  if scalar.isWordOf .integer then Text.numeral? scalar.text.toList else none

/-- Whether nothing is written. -/
def isEmpty : Bool :=
  scalar.style = .plain && scalar.text.isEmpty

/-- Whether a scalar stands for an absent part; nothing for a scalar that is tagged as null and is not. -/
def isAbsent? : Option Bool :=
  if scalar.style ≠ .plain then some false
  else
    match scalar.tag with
    | none => some (scalar.text.isEmpty || isNullWord scalar.text)
    | some .null => if isNullWord scalar.text then some true else none
    | some _ => some false

end WrittenScalar

namespace Data

mutual

/-- Decide every written scalar by what it is at a place that takes any; nothing when a part is unreadable. -/
def settle : Data → Option Data
  | .written scalar =>
      match scalar.meaning with
      | .unreadable => none
      | decided => some decided
  | .list items => do
      let settled ← settleItems items
      some (.list settled)
  | .record entries => do
      let settled ← settleEntries entries
      some (.record settled)
  | .labelled _ | .unreadable => none
  | .null => some .null
  | .bool flag => some (.bool flag)
  | .natural value => some (.natural value)
  | .number => some .number
  | .text content => some (.text content)

/-- Decide every written scalar of the items. -/
def settleItems : List Data → Option (List Data)
  | [] => some []
  | item :: rest => do
      let settled ← settle item
      let others ← settleItems rest
      some (settled :: others)

/-- Decide every written scalar of the entries, those of their keys included. -/
def settleEntries : List (Data × Data) → Option (List (Data × Data))
  | [] => some []
  | (key, value) :: rest => do
      let settledKey ← settle key
      let settledValue ← settle value
      let others ← settleEntries rest
      some ((settledKey, settledValue) :: others)

end

end Data

end FormWidgets
