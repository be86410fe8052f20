import BlockImage.Decimal

/-!
# Lengths of time

A length of time is a whole number of nanoseconds that fits in 64 bits of seconds.
-/
namespace BlockImage.Duration

def nanosPerSecond : Nat := 1000000000

/-- Seconds as a floating-point number: the whole seconds and the fraction are converted on their own. -/
def toSeconds (nanos : Nat) : Float :=
  (UInt64.ofNat (nanos / nanosPerSecond)).toFloat + (UInt64.ofNat (nanos % nanosPerSecond)).toFloat / 1e9

/-- The significand and the binary exponent of a finite number that is not negative. -/
def binaryParts? (value : Float) : Option (Nat × Int) :=
  let bits := value.toBits.toNat
  let exponent : Nat := bits / 1 <<< 52
  let fraction : Nat := bits % 1 <<< 52
  if 2047 ≤ exponent then none
  else if exponent = 0 then some (fraction, -1074)
  else some (1 <<< 52 + fraction, (exponent : Int) - 1075)

/-- The number of nanoseconds nearest to a number of seconds; none where the whole seconds need more than 64
bits. -/
def ofSeconds? (seconds : Float) : Option Nat := do
  let (significand, exponent) ← binaryParts? seconds
  let nanos := match exponent with
    | .ofNat power => significand * nanosPerSecond * 1 <<< power
    | .negSucc power => Decimal.roundQuotient (significand * nanosPerSecond) (1 <<< (power + 1))
  if UInt64.size * nanosPerSecond ≤ nanos then none else some nanos

/-- A length of time with one place, in the largest unit that it reaches. -/
def text (nanos : Nat) : String :=
  if nanosPerSecond ≤ nanos then Decimal.fixed 1 nanos nanosPerSecond ++ "s"
  else if 1000000 ≤ nanos then Decimal.fixed 1 nanos 1000000 ++ "ms"
  else if 1000 ≤ nanos then Decimal.fixed 1 nanos 1000 ++ "µs"
  else Decimal.fixed 1 nanos 1 ++ "ns"

end BlockImage.Duration
