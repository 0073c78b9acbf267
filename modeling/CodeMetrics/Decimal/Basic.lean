/-! Floating-point numbers as binary fractions, and as decimals with a fixed number of places. -/

namespace CodeMetrics.Decimal

/-- What a floating-point number stands for: the size `significand * 2 ^ exponent` and a sign, or
something that is no finite number. -/
inductive Binary where
  | notANumber
  | infinite (negative : Bool)
  | finite (negative : Bool) (significand : Nat) (exponent : Int)
  deriving DecidableEq, Repr

def Binary.ofFloat (value : Float) : Binary :=
  let bits : Nat := value.toBits.toNat
  let negative := bits / Nat.pow 2 63 == 1
  let exponent : Nat := bits / Nat.pow 2 52 % 2048
  let fraction := bits % Nat.pow 2 52
  if exponent == 2047 then
    if fraction == 0 then .infinite negative else .notANumber
  else if exponent == 0 then .finite negative fraction (-1074)
  else .finite negative (Nat.pow 2 52 + fraction) (Int.ofNat exponent - 1075)

/-- The numerator of `base ^ exponent`, which is one for a negative exponent. -/
def powerUp (base : Nat) (exponent : Int) : Nat :=
  base.pow exponent.toNat

/-- The denominator of `base ^ exponent`, which is one for an exponent that is not negative. -/
def powerDown (base : Nat) (exponent : Int) : Nat :=
  base.pow (-exponent).toNat

/-- The whole number next to a quotient. A half goes to the even neighbour. -/
def roundQuotient (numerator denominator : Nat) : Nat :=
  let whole := numerator / denominator
  let twice := 2 * (numerator % denominator)
  if twice < denominator || (twice == denominator && whole % 2 == 0) then whole else whole + 1

def paddedDigits (width number : Nat) : List Char :=
  let digits := Nat.toDigits 10 number
  List.replicate (width - digits.length) '0' ++ digits

/-- A number with a fixed number of decimal places, rounded from its exact value. A half goes to the
even neighbour. -/
def fixed (places : Nat) (value : Float) : String :=
  match Binary.ofFloat value with
  | .notANumber => "NaN"
  | .infinite negative => if negative then "-inf" else "inf"
  | .finite negative significand exponent =>
    let scaled := roundQuotient (significand * Nat.pow 10 places * powerUp 2 exponent)
      (powerDown 2 exponent)
    let digits := paddedDigits (places + 1) scaled
    let whole := digits.take (digits.length - places)
    let point := if places = 0 then [] else ['.']
    String.ofList ((if negative then ['-'] else []) ++ whole ++ point ++
      digits.drop (digits.length - places))

end CodeMetrics.Decimal
