import CodeMetrics.Decimal.Basic

/-!
The shortest decimals of floating-point numbers: of all decimals that are read back as a number,
those with the fewest digits, and of these the nearest one.
-/

namespace CodeMetrics.Decimal

/-- A decimal `digits * 10 ^ exponent`. -/
structure Digits where
  digits : Nat
  exponent : Int
  deriving DecidableEq, Repr

/-- The reals that are read as a number, as multiples of `2 ^ exponent`, with the number itself
between them. -/
structure Rounding where
  low : Nat
  middle : Nat
  high : Nat
  exponent : Int
  /-- Whether the two ends are read as the number too. -/
  closed : Bool

/-- The reals that are read as a positive number. Below a power of two the numbers lie closer. -/
def Rounding.of (significand : Nat) (exponent : Int) : Rounding where
  low := if significand = Nat.pow 2 52 && exponent > -1074 then 4 * significand - 1
    else 4 * significand - 2
  middle := 4 * significand
  high := 4 * significand + 2
  exponent := exponent - 2
  closed := significand % 2 = 0

namespace Rounding

def compareTo (rounding : Rounding) (decimal : Digits) (multiple : Nat) : Ordering :=
  compare (decimal.digits * powerUp 10 decimal.exponent * powerDown 2 rounding.exponent)
    (multiple * powerUp 2 rounding.exponent * powerDown 10 decimal.exponent)

/-- Whether a decimal is read as the number. -/
def admits (rounding : Rounding) (decimal : Digits) : Bool :=
  let above := rounding.compareTo decimal rounding.low
  let below := rounding.compareTo decimal rounding.high
  (above == .gt || (rounding.closed && above == .eq)) &&
    (below == .lt || (rounding.closed && below == .eq))

def floorAt (rounding : Rounding) (exponent : Int) : Digits where
  digits := rounding.middle * powerUp 2 rounding.exponent * powerDown 10 exponent /
    (powerUp 10 exponent * powerDown 2 rounding.exponent)
  exponent

def isNearFloor (rounding : Rounding) (decimal : Digits) : Bool :=
  let middle : Digits := ⟨20 * decimal.digits + 10, decimal.exponent - 1⟩
  rounding.compareTo middle (2 * rounding.middle) != .lt

def atExponent? (rounding : Rounding) (exponent : Int) : Option Digits :=
  let below := rounding.floorAt exponent
  let above : Digits := { below with digits := below.digits + 1 }
  match rounding.admits below, rounding.admits above with
  | true, true => some (if rounding.isNearFloor below then below else above)
  | true, false => some below
  | false, true => some above
  | false, false => none

def search (rounding : Rounding) : Nat → Int → Digits
  | 0, exponent => rounding.floorAt exponent
  | tries + 1, exponent =>
    match rounding.atExponent? exponent with
    | some decimal => decimal
    | none => search rounding tries (exponent - 1)

end Rounding

/-- An exponent of ten above a positive number's size, and at most two above its leading digit. -/
def exponentAbove (significand : Nat) (exponent : Int) : Int :=
  ((significand.log2 : Int) + exponent) * 30103 / 100000 + 1

def shortest (significand : Nat) (exponent : Int) : Digits :=
  (Rounding.of significand exponent).search 19 (exponentAbove significand exponent)

def stripZeros : Nat → Digits → Digits
  | 0, decimal => decimal
  | tries + 1, decimal =>
    if decimal.digits ≠ 0 && decimal.digits % 10 = 0 then
      stripZeros tries ⟨decimal.digits / 10, decimal.exponent + 1⟩
    else decimal

def positional (decimal : Digits) : List Char :=
  let digits := Nat.toDigits 10 decimal.digits
  if decimal.exponent ≥ 0 then digits ++ List.replicate decimal.exponent.toNat '0'
  else
    let places := (-decimal.exponent).toNat
    let padded := List.replicate (places + 1 - digits.length) '0' ++ digits
    padded.take (padded.length - places) ++ '.' :: padded.drop (padded.length - places)

/-- The plainest text of a number: its shortest decimal in places, without a point when there is
nothing after it. -/
def plain (value : Float) : String :=
  match Binary.ofFloat value with
  | .notANumber => "NaN"
  | .infinite negative => if negative then "-inf" else "inf"
  | .finite negative significand exponent =>
    let body := if significand = 0 then ['0']
      else positional (stripZeros 400 (shortest significand exponent))
    String.ofList (if negative then '-' :: body else body)

end CodeMetrics.Decimal
