/-! Reading decimal texts as floating-point numbers. -/

namespace CodeMetrics.Decimal

def digitsValue (digits : List Char) : Nat :=
  digits.foldl (fun value c => value * 10 + (c.toNat - '0'.toNat)) 0

/-- The floating-point number nearest to `digits * 10 ^ exponent`. What lies far out of range is
infinite or zero. -/
def scaled (digits : List Char) (exponent : Int) : Float :=
  let significant := digits.dropWhile (· == '0')
  let size := (significant.length : Int) + exponent
  if significant.isEmpty || size < -400 then 0.0
  else if size > 400 then 1.0 / 0.0
  else
    let significand := digitsValue significant
    if exponent < 0 then Float.ofScientific significand true (-exponent).toNat
    else Float.ofScientific significand false exponent.toNat

def splitSign : List Char → Bool × List Char
  | '-' :: rest => (true, rest)
  | '+' :: rest => (false, rest)
  | text => (false, text)

def readExponent? : List Char → Option Int
  | [] => some 0
  | mark :: rest =>
    if mark == 'e' || mark == 'E' then
      let (negative, digits) := splitSign rest
      if digits.isEmpty || !digits.all Char.isDigit then none
      else
        let size : Int := digitsValue digits
        some (if negative then -size else size)
    else none

/-- Reads a number without a sign: digits with at most one point among them, and an exponent. -/
def readUnsigned? (text : List Char) : Option Float := do
  let whole := text.takeWhile Char.isDigit
  let rest := text.drop whole.length
  let (fraction, rest) := match rest with
    | '.' :: rest => (rest.takeWhile Char.isDigit, rest.dropWhile Char.isDigit)
    | _ => ([], rest)
  guard (!(whole.isEmpty && fraction.isEmpty))
  let exponent ← readExponent? rest
  return scaled (whole ++ fraction) (exponent - fraction.length)

def read? (text : List Char) : Option Float :=
  let (negative, body) := splitSign text
  let value? := match String.ofList (body.map Char.toLower) with
    | "inf" | "infinity" => some (1.0 / 0.0)
    | "nan" => some (0.0 / 0.0)
    | _ => readUnsigned? body
  value?.map fun value => if negative then -value else value

end CodeMetrics.Decimal
