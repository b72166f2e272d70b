import FormWidgets.Text.Blank

/-!
# Decimal integers of 64 bits

Reading an optional sign and one or more ASCII digits as a 64-bit signed
integer.  A number outside the range is refused and never wrapped.
-/

namespace FormWidgets.Text

/-- The value of an ASCII decimal digit. -/
def digitValue? (char : Char) : Option Nat :=
  if '0' ≤ char ∧ char ≤ '9' then some (char.toNat - '0'.toNat) else none

/-- Continue a decimal number with further digits. -/
def digitsFrom? (value : Nat) : List Char → Option Nat
  | [] => some value
  | char :: rest => do
      let digit ← digitValue? char
      digitsFrom? (10 * value + digit) rest

/-- The number written by one or more ASCII digits. -/
def natural? : List Char → Option Nat
  | [] => none
  | digits => digitsFrom? 0 digits

/-- The number written by an optional sign and one or more ASCII digits. -/
def signed? : List Char → Option Int
  | '-' :: digits => (natural? digits).map fun value => -(value : Int)
  | '+' :: digits => (natural? digits).map fun value => (value : Int)
  | digits => (natural? digits).map fun value => (value : Int)

/-- Whether an integer lies in the range of 64-bit signed integers. -/
def inInt64Range (value : Int) : Bool :=
  decide (Int64.minValue.toInt ≤ value) && decide (value ≤ Int64.maxValue.toInt)

/-- The 64-bit integer that a text denotes, surrounding white space aside. -/
def int64? (text : String) : Option Int64 :=
  ((signed? (trimChars text.toList)).filter inInt64Range).map Int64.ofInt

end FormWidgets.Text
