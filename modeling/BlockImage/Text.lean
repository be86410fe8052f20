import BlockImage.Decimal
import BlockImage.Text.Invisible

/-!
# Text for people

Hexadecimal numerals with a fixed least number of digits, text in double quotes with escapes for what would not show,
and sizes in bytes.
-/
namespace BlockImage.Text

/-- Lower-case hexadecimal digits of a number, without padding. -/
def hexDigits (value : Nat) : String := String.ofList (Nat.toDigits 16 value)

/-- `0x` and at least `digits` lower-case digits, padded with zeros. -/
def hexPadded (digits value : Nat) : String :=
  let text := Nat.toDigits 16 value
  "0x" ++ String.ofList (List.replicate (digits - text.length) '0' ++ text)

/-- One character as it stands between double quotes. -/
def escapeChar (c : Char) : String :=
  match c with
  | '\x00' => "\\0"
  | '\t' => "\\t"
  | '\n' => "\\n"
  | '\r' => "\\r"
  | '"' => "\\\""
  | '\\' => "\\\\"
  | _ => if isInvisible c then "\\u\x7b" ++ hexDigits c.toNat ++ "\x7d" else c.toString

/-- Text between double quotes: quotes, backslashes, controls and invisible characters are escaped. -/
def quoted (text : String) : String :=
  "\"" ++ String.join (text.toList.map escapeChar) ++ "\""

/-- Units of 1024 bytes and of their powers. -/
def binaryUnits : List String := ["KiB", "MiB", "GiB", "TiB", "PiB", "EiB"]

/-- A size in the last of the units that it reaches, each of which is 1024 times the one before. -/
def sizeInUnits (size unit : Nat) (name : String) : List String → String
  | [] => Decimal.fixed 2 size unit ++ " " ++ name
  | next :: larger =>
    if unit * 1024 ≤ size then sizeInUnits size (unit * 1024) next larger
    else Decimal.fixed 2 size unit ++ " " ++ name

/-- A size with two places in the largest unit that it reaches, or in whole bytes. -/
def byteCount (size : Nat) : String :=
  let size := Decimal.toDoublePrecision size
  match binaryUnits with
  | first :: larger => if size < 1024 then toString size ++ " B" else sizeInUnits size 1024 first larger
  | [] => toString size ++ " B"

/-- Text filled up with blanks to a number of characters. -/
def padRight (width : Nat) (text : String) : String :=
  text ++ String.ofList (List.replicate (width - text.length) ' ')

end BlockImage.Text
