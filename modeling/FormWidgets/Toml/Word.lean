import FormWidgets.Text.Numeral

/-!
# Scalar words

Which words without quotes are scalars: truth values, integers of 64 bits,
floating-point numbers, dates and times.
-/

namespace FormWidgets.Toml

/-- Digits without the underscores between them; an underscore needs a digit on both sides. -/
def joinDigits? (isDigit : Char → Bool) : List Char → Option (List Char)
  | [] => none
  | [digit] => if isDigit digit then some [digit] else none
  | digit :: '_' :: rest =>
      if isDigit digit then (joinDigits? isDigit rest).map (digit :: ·) else none
  | digit :: rest =>
      if isDigit digit then (joinDigits? isDigit rest).map (digit :: ·) else none

/-- Whether a character is a digit of a base. -/
def isDigitOf (base : Nat) (char : Char) : Bool :=
  (Text.hexDigitValue? char).any fun digit => decide (digit < base)

/-- The number of digits with underscores of a base. -/
def basedNumber? (base : Nat) (chars : List Char) : Option Nat := do
  let digits ← joinDigits? (isDigitOf base) chars
  Text.based? base digits

/-- Decimal digits with underscores, without a superfluous leading zero. -/
def decimalDigits? (chars : List Char) : Option (List Char) := do
  let digits ← joinDigits? Char.isDigit chars
  match digits with
  | '0' :: _ :: _ => none
  | digits => some digits

/-- Whether a word is an integer of 64 bits. -/
def isInteger (chars : List Char) : Bool :=
  let value : Option Int :=
    match chars with
    | '0' :: 'x' :: digits => (basedNumber? 16 digits).map Int.ofNat
    | '0' :: 'o' :: digits => (basedNumber? 8 digits).map Int.ofNat
    | '0' :: 'b' :: digits => (basedNumber? 2 digits).map Int.ofNat
    | '-' :: digits =>
        ((decimalDigits? digits).bind Text.natural?).map fun value => -(value : Int)
    | digits => ((decimalDigits? (Text.dropPlus digits)).bind Text.natural?).map Int.ofNat
  value.any Text.inInt64Range

/-- The digits before a mark and what follows it. -/
def cutAt (isMark : Char → Bool) (chars : List Char) : List Char × Option (List Char) :=
  (chars.takeWhile fun char => !isMark char,
    match chars.dropWhile fun char => !isMark char with
    | [] => none
    | _ :: rest => some rest)

/-- Whether a word is a floating-point number; one that is too large is none. -/
def isFloat (chars : List Char) : Bool :=
  let unsigned := Text.dropSign chars
  let isNegative := chars.head? = some '-'
  if unsigned = ['i', 'n', 'f'] || unsigned = ['n', 'a', 'n'] then true
  else
    let (significand, exponent) := cutAt (fun char => char = 'e' || char = 'E') unsigned
    let (whole, fraction) := cutAt (fun char => char = '.') significand
    if exponent.isNone && fraction.isNone then false
    else
      let digits : Option (List Char × List Char × List Char) := do
        let whole ← decimalDigits? whole
        let fraction ← (fraction.map (joinDigits? Char.isDigit)).getD (some [])
        let exponent ←
          match exponent with
          | none => some ['0']
          | some exponent =>
              let digits ← joinDigits? Char.isDigit (Text.dropSign exponent)
              some (if exponent.head? = some '-' then '-' :: digits else digits)
        some (whole, fraction, exponent)
      digits.any fun (whole, fraction, exponent) =>
        isNegative || Text.isFiniteDecimal (whole ++ '.' :: fraction ++ 'e' :: exponent)

/-- The number of exactly so many digits, within bounds. -/
def boundedNumber? (count least greatest : Nat) (chars : List Char) : Option Nat :=
  if chars.length = count then
    (Text.natural? chars).filter fun value =>
      decide (least ≤ value) && decide (value ≤ greatest)
  else none

/-- The number of days of a month. -/
def daysOfMonth (year month : Nat) : Nat :=
  if month = 2 then
    if year % 4 = 0 ∧ (year % 100 ≠ 0 ∨ year % 400 = 0) then 29 else 28
  else if month = 4 ∨ month = 6 ∨ month = 9 ∨ month = 11 then 30
  else 31

/-- Whether ten characters are a date. -/
def isDate (chars : List Char) : Bool :=
  match chars with
  | [y₁, y₂, y₃, y₄, '-', m₁, m₂, '-', d₁, d₂] =>
      ((do
        let year ← boundedNumber? 4 0 9999 [y₁, y₂, y₃, y₄]
        let month ← boundedNumber? 2 1 12 [m₁, m₂]
        boundedNumber? 2 1 (daysOfMonth year month) [d₁, d₂]) : Option Nat).isSome
  | _ => false

/-- Whether characters are the offset of a time zone. -/
def isOffset (chars : List Char) : Bool :=
  match chars with
  | ['Z'] | ['z'] => true
  | [sign, h₁, h₂, ':', m₁, m₂] =>
      (sign = '+' || sign = '-') && (boundedNumber? 2 0 23 [h₁, h₂]).isSome
        && (boundedNumber? 2 0 59 [m₁, m₂]).isSome
  | _ => false

/-- A time of day at the start of characters, and the rest. -/
def timeOfDay? (chars : List Char) : Option (List Char) :=
  match chars with
  | h₁ :: h₂ :: ':' :: m₁ :: m₂ :: ':' :: s₁ :: s₂ :: rest => do
      discard (boundedNumber? 2 0 23 [h₁, h₂])
      discard (boundedNumber? 2 0 59 [m₁, m₂])
      discard (boundedNumber? 2 0 60 [s₁, s₂])
      match rest with
      | '.' :: digit :: rest =>
          if digit.isDigit then some (rest.dropWhile Char.isDigit) else none
      | rest => some rest
  | _ => none

/-- Whether characters are a time of day with an optional offset. -/
def isZonedTime (chars : List Char) : Bool :=
  (timeOfDay? chars).any fun rest => rest.isEmpty || isOffset rest

/-- Whether a word is a date, a time or both. -/
def isMoment (chars : List Char) : Bool :=
  (timeOfDay? chars).any List.isEmpty || isDate chars
    || (isDate (chars.take 10)
      && match chars.drop 10 with
        | mark :: rest => (mark = 'T' || mark = 't' || mark = ' ') && isZonedTime rest
        | [] => false)

/-- Whether a word is a scalar. -/
def isScalarWord (chars : List Char) : Bool :=
  chars = "true".toList || chars = "false".toList || isInteger chars || isFloat chars
    || isMoment chars

/-- Whether a character may stand in a scalar word. -/
def isWordChar (char : Char) : Bool :=
  char.isAlphanum || ['+', '-', '_', '.', ':'].contains char

/-- Drop a scalar word, which may go on after a space between a date and a time. -/
def skipScalarWord? (chars : List Char) : Option (List Char) :=
  let word := chars.takeWhile isWordChar
  let rest := chars.dropWhile isWordChar
  let longer :=
    match rest with
    | ' ' :: more =>
        if isDate word then
          let moment := word ++ ' ' :: more.takeWhile isWordChar
          if isMoment moment then some (more.dropWhile isWordChar) else none
        else none
    | _ => none
  match longer with
  | some rest => some rest
  | none => if isScalarWord word then some rest else none

end FormWidgets.Toml
