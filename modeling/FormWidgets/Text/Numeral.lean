import FormWidgets.Text.Integer

/-!
# Numerals in data

Which plain words of a data text are numbers: naturals in four bases, negative
integers, and decimal fractions that a double can hold.  A decimal numeral with
a superfluous leading zero is no number.
-/

namespace FormWidgets.Text

/-- The value of a digit of up to sixteen values, in either case. -/
def hexDigitValue? (char : Char) : Option Nat :=
  if '0' ≤ char ∧ char ≤ '9' then some (char.toNat - '0'.toNat)
  else if 'a' ≤ char ∧ char ≤ 'f' then some (char.toNat - 'a'.toNat + 10)
  else if 'A' ≤ char ∧ char ≤ 'F' then some (char.toNat - 'A'.toNat + 10)
  else none

/-- Continue a number in a base with further digits. -/
def basedFrom? (base value : Nat) : List Char → Option Nat
  | [] => some value
  | char :: rest => do
      let digit ← (hexDigitValue? char).filter fun digit => decide (digit < base)
      basedFrom? base (base * value + digit) rest

/-- The number written by one or more digits of a base. -/
def based? (base : Nat) : List Char → Option Nat
  | [] => none
  | digits => basedFrom? base 0 digits

/-- Drop a plus sign at the start. -/
def dropPlus : List Char → List Char
  | '+' :: rest => rest
  | chars => chars

/-- Drop a sign at the start. -/
def dropSign : List Char → List Char
  | '+' :: rest => rest
  | '-' :: rest => rest
  | chars => chars

/-- Whether decimal digits start with a superfluous zero, a sign in front of them aside. -/
def hasLeadingZero (chars : List Char) : Bool :=
  match dropSign chars with
  | '0' :: digit :: rest => (digit :: rest).all Char.isDigit
  | _ => false

/-- The natural number of a numeral: an optional plus sign, then digits after the mark of their base, or decimal digits. -/
def numeral? (chars : List Char) : Option Nat :=
  match dropPlus chars with
  | '0' :: 'x' :: digits => based? 16 digits
  | '0' :: 'o' :: digits => based? 8 digits
  | '0' :: 'b' :: digits => based? 2 digits
  | digits => if hasLeadingZero chars then none else based? 10 digits

/-- The absolute value of a numeral with a minus sign. -/
def negativeNumeral? : List Char → Option Nat
  | '-' :: '0' :: 'x' :: digits => based? 16 digits
  | '-' :: '0' :: 'o' :: digits => based? 8 digits
  | '-' :: '0' :: 'b' :: digits => based? 2 digits
  | '-' :: digits => if hasLeadingZero digits then none else based? 10 digits
  | _ => none

/-- The digits at the start, and the rest. -/
def spanDigits (chars : List Char) : List Char × List Char :=
  (chars.takeWhile Char.isDigit, chars.dropWhile Char.isDigit)

/-- The exponent of a decimal: nothing, or a mark, an optional sign and digits. -/
def exponent? : List Char → Option Int
  | [] => some 0
  | mark :: rest => if mark = 'e' ∨ mark = 'E' then signed? rest else none

/-- The significand and the exponent of an unsigned decimal, which needs a digit before or after its point. -/
def decimal? (chars : List Char) : Option (Nat × Int) := do
  let (whole, rest) := spanDigits chars
  let (fraction, rest) :=
    match rest with
    | '.' :: rest => spanDigits rest
    | rest => ([], rest)
  let significand ← natural? (whole ++ fraction)
  let exponent ← exponent? rest
  some (significand, exponent - fraction.length)

/-- The least number that rounds to an infinite double. -/
def doubleBound : Nat :=
  Nat.pow 2 1024 - Nat.pow 2 970

/-- Whether a decimal rounds to a finite double; digits far outside the range are not expanded. -/
def isFinite (significand : Nat) (exponent : Int) : Bool :=
  let digitCount : Int := (Nat.toDigits 10 significand).length
  significand = 0 || digitCount + exponent < 300
    || (digitCount + exponent < 320
      && decide (significand * Nat.pow 10 exponent.toNat
        < doubleBound * Nat.pow 10 (-exponent).toNat))

/-- Whether a word is a decimal with an optional sign that a finite double can stand for. -/
def isFiniteDecimal (chars : List Char) : Bool :=
  (decimal? (dropSign chars)).any fun (significand, exponent) =>
    isFinite significand exponent

end FormWidgets.Text
