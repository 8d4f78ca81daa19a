/-!
# Whole numbers in texts

A number is written as white space, a sign that may be left out, and one or more decimal digits,
with nothing after them. Values beyond 64 bits are taken as the nearest value that fits.
-/

namespace Fleet.Settings

/-- The white space that may stand before a number. -/
def isBlank (c : Char) : Bool :=
  c = ' ' || (9 ≤ c.toNat && c.toNat ≤ 13)

/-- The value of a list of decimal digits, after a value read so far; `none` if another character
occurs. -/
def digitsValue (value : Nat) : List Char → Option Nat
  | [] => some value
  | c :: rest => if c.isDigit then digitsValue (10 * value + (c.toNat - 48)) rest else none

/-- The value of one or more decimal digits. -/
def magnitude : List Char → Option Nat
  | [] => none
  | digits => digitsValue 0 digits

/-- The value of an optional sign with one or more decimal digits. -/
def signed : List Char → Option Int
  | '-' :: digits => (magnitude digits).map fun n => -(n : Int)
  | '+' :: digits => (magnitude digits).map fun n => (n : Int)
  | digits => (magnitude digits).map fun n => (n : Int)

/-- The 64-bit value nearest to a number. -/
def clamped (value : Int) : Int :=
  max (-9223372036854775808) (min 9223372036854775807 value)

/-- The number a text denotes, brought into 64 bits. -/
def number? (text : String) : Option Int :=
  (signed (text.toList.dropWhile isBlank)).map clamped

/-- The 32-bit value that has the same low 32 bits. -/
def low32 (value : Int) : Int :=
  value.bmod 4294967296

end Fleet.Settings
