import CodeMetrics.Decimal.Read
import CodeMetrics.Toml.Item
import CodeMetrics.Toml.Text

/-! Numbers, dates and times of a TOML document. -/

namespace CodeMetrics.Toml

/-- Reads digits, between any two of which an underscore may stand. The underscores are dropped. -/
def readDigits (isDigit : Char → Bool) : Bool → List Char → List Char × List Char
  | _, [] => ([], [])
  | afterDigit, c :: rest =>
    if isDigit c then
      let (digits, rest) := readDigits isDigit true rest
      (c :: digits, rest)
    else if c == '_' && afterDigit && rest.head?.any isDigit then readDigits isDigit false rest
    else ([], c :: rest)

def maxInteger : Int := 0x7fffffffffffffff

def minInteger : Int := -0x8000000000000000

def integer? (value : Int) : Option Item :=
  if minInteger ≤ value && value ≤ maxInteger then some (.integer value) else none

def readBased? (base : Nat) (text : List Char) : Option (Item × List Char) := do
  let (digits, rest) := readDigits (fun c => (Text.hexDigit? c).any (· < base)) false text
  guard !digits.isEmpty
  let value := (digits.filterMap Text.hexDigit?).foldl (fun value digit => value * base + digit) 0
  return (← integer? value, rest)

def readPower? (text : List Char) : Option (List Char × List Char) :=
  let (sign, text) := match text with
    | '-' :: rest => (['-'], rest)
    | '+' :: rest => ([], rest)
    | _ => ([], text)
  let (digits, rest) := readDigits Char.isDigit false text
  if digits.isEmpty then none else some ('e' :: sign ++ digits, rest)

def real? (text : List Char) : Option Item := do
  let value ← Decimal.read? text
  guard !(value == 1.0 / 0.0)
  return .real value

def readDecimal? (negative : Bool) (text : List Char) : Option (Item × List Char) := do
  let (whole, rest) := match text with
    | '0' :: rest => (['0'], rest)
    | _ => readDigits Char.isDigit false text
  guard !whole.isEmpty
  let sign := if negative then ['-'] else []
  match rest with
  | '.' :: rest =>
    let (fraction, rest) := readDigits Char.isDigit false rest
    guard !fraction.isEmpty
    let number := sign ++ whole ++ '.' :: fraction
    match rest with
    | mark :: rest =>
      if mark == 'e' || mark == 'E' then
        let (power, rest) ← readPower? rest
        return (← real? (number ++ power), rest)
      else return (← real? number, mark :: rest)
    | [] => return (← real? number, [])
  | mark :: rest =>
    if mark == 'e' || mark == 'E' then
      let (power, rest) ← readPower? rest
      return (← real? (sign ++ whole ++ power), rest)
    else integerWith whole (mark :: rest)
  | [] => integerWith whole []
where
  integerWith (whole : List Char) (rest : List Char) : Option (Item × List Char) := do
    let value : Int := Decimal.digitsValue whole
    return (← integer? (if negative then -value else value), rest)

def readNumber? (text : List Char) : Option (Item × List Char) :=
  match text with
  | '0' :: 'x' :: rest => readBased? 16 rest
  | '0' :: 'o' :: rest => readBased? 8 rest
  | '0' :: 'b' :: rest => readBased? 2 rest
  | _ =>
    let (negative, body) := Decimal.splitSign text
    let signed (value : Float) : Item := .real (if negative then -value else value)
    match body with
    | 'i' :: 'n' :: 'f' :: rest => some (signed (1.0 / 0.0), rest)
    | 'n' :: 'a' :: 'n' :: rest => some (signed (0.0 / 0.0), rest)
    | _ => readDecimal? negative body

def readFixed? (size : Nat) (text : List Char) : Option (Nat × List Char) := do
  let digits := text.take size
  guard (digits.length = size && digits.all Char.isDigit)
  return (Decimal.digitsValue digits, text.drop size)

def expect? (c : Char) : List Char → Option (List Char)
  | [] => none
  | d :: rest => if d == c then some rest else none

def daysOf (year month : Nat) : Nat :=
  if month = 2 then
    if (year % 4 = 0 && year % 100 ≠ 0) || year % 400 = 0 then 29 else 28
  else if month = 4 || month = 6 || month = 9 || month = 11 then 30
  else 31

def skipDate? (text : List Char) : Option (List Char) := do
  let (year, rest) ← readFixed? 4 text
  let (month, rest) ← readFixed? 2 (← expect? '-' rest)
  let (day, rest) ← readFixed? 2 (← expect? '-' rest)
  guard (1 ≤ month && month ≤ 12 && 1 ≤ day && day ≤ daysOf year month)
  return rest

def skipHours? (text : List Char) : Option (List Char) := do
  let (hour, rest) ← readFixed? 2 text
  let (minute, rest) ← readFixed? 2 (← expect? ':' rest)
  guard (hour ≤ 23 && minute ≤ 59)
  return rest

def skipTime? (text : List Char) : Option (List Char) := do
  let (second, rest) ← readFixed? 2 (← expect? ':' (← skipHours? text))
  guard (second ≤ 60)
  match rest with
  | '.' :: rest =>
    guard (rest.head?.any Char.isDigit)
    return rest.dropWhile Char.isDigit
  | _ => return rest

def skipOffset (text : List Char) : List Char :=
  match text with
  | 'Z' :: rest | 'z' :: rest => rest
  | '+' :: rest | '-' :: rest => (skipHours? rest).getD text
  | _ => text

def skipMoment? (text : List Char) : Option (List Char) :=
  match skipDate? text with
  | some rest =>
    match rest with
    | mark :: later =>
      if mark == 'T' || mark == 't' || mark == ' ' then
        some (((skipTime? later).map skipOffset).getD rest)
      else some rest
    | [] => some []
  | none => skipTime? text

def readScalar? (text : List Char) : Option (Item × List Char) :=
  match text with
  | 't' :: 'r' :: 'u' :: 'e' :: rest => some (.boolean true, rest)
  | 'f' :: 'a' :: 'l' :: 's' :: 'e' :: rest => some (.boolean false, rest)
  | '"' :: _ | '\'' :: _ =>
    (readString? text).map fun (value, rest) => (.text (String.ofList value), rest)
  | _ =>
    match skipMoment? text with
    | some rest => some (.moment, rest)
    | none => readNumber? text

end CodeMetrics.Toml
