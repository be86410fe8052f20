/-!
# Numbers in decimal notation

Whole numbers are read from their digits. A quotient is written with a fixed number of places: it is rounded to the
nearest multiple of the last place, and a tie goes to the even one.
-/
namespace BlockImage.Decimal

def digitValue (digit : Char) : Nat := digit.toNat - '0'.toNat

/-- The number that a row of digits stands for. There is at least one digit, and nothing else. -/
def ofDigits? (digits : List Char) : Option Nat :=
  if digits ≠ [] ∧ digits.all Char.isDigit then
    some (digits.foldl (fun value digit => value * 10 + digitValue digit) 0)
  else none

/-- Digits with a plus sign in front of them, or without. -/
def ofUnsigned? : List Char → Option Nat
  | '+' :: digits => ofDigits? digits
  | digits => ofDigits? digits

/-- Digits with one sign in front of them, or without. -/
def ofSigned? : List Char → Option Int
  | '-' :: digits => (ofDigits? digits).map fun value => -(value : Int)
  | text => (ofUnsigned? text).map fun value => (value : Int)

/-- The whole number nearest to a quotient; of two equally near ones the even one. -/
def roundQuotient (numerator denominator : Nat) : Nat :=
  let quotient := numerator / denominator
  let rest := numerator % denominator
  if denominator < 2 * rest ∨ (2 * rest = denominator ∧ quotient % 2 = 1) then quotient + 1 else quotient

/-- A quotient in decimal notation, rounded to a number of places. -/
def fixed (places numerator denominator : Nat) : String :=
  let unit := Nat.pow 10 places
  let scaled := roundQuotient (numerator * unit) denominator
  let whole := toString (scaled / unit)
  if places = 0 then whole
  else
    let fraction := (toString (scaled % unit)).toList
    whole ++ "." ++ String.ofList (List.replicate (places - fraction.length) '0' ++ fraction)

/-- A whole number rounded to 53 significant bits; a tie goes to the even one. -/
def toDoublePrecision (value : Nat) : Nat :=
  let unit := 1 <<< (value.log2 - 52)
  roundQuotient value unit * unit

end BlockImage.Decimal
