import CodeMetrics.Decimal.Shortest

/-! Values of JSON, and how they are written over several lines. -/

namespace CodeMetrics

inductive JsonValue where
  | null
  | natural (value : Nat)
  | number (value : Float)
  | text (value : String)
  | array (items : List JsonValue)
  | object (fields : List (String × JsonValue))

namespace JsonValue

def ofOption (write : α → JsonValue) : Option α → JsonValue
  | some value => write value
  | none => .null

def escape (c : Char) : List Char :=
  if c == '"' then ['\\', '"']
  else if c == '\\' then ['\\', '\\']
  else if c == '\n' then ['\\', 'n']
  else if c == '\r' then ['\\', 'r']
  else if c == '\t' then ['\\', 't']
  else if c == '\x08' then ['\\', 'b']
  else if c == '\x0c' then ['\\', 'f']
  else if c.toNat < 0x20 then
    ['\\', 'u', '0', '0', Nat.digitChar (c.toNat / 16), Nat.digitChar (c.toNat % 16)]
  else [c]

def quoted (text : String) : List Char :=
  '"' :: text.toList.flatMap escape ++ ['"']

/-- The written form of a decimal. Numbers from `10 ^ -5` up to `10 ^ 16` are written in places, and
others with an exponent. -/
def decimalText (decimal : Decimal.Digits) : List Char :=
  let digits := Nat.toDigits 10 decimal.digits
  let point := (digits.length : Int) + decimal.exponent
  if -5 < point && point ≤ 16 then
    let body := Decimal.positional decimal
    if decimal.exponent ≥ 0 then body ++ ['.', '0'] else body
  else
    let fraction := if digits.length = 1 then [] else '.' :: digits.drop 1
    digits.take 1 ++ fraction ++ 'e' :: (toString (point - 1)).toList

/-- The written form of a number: its shortest decimal. What is no finite number is null. -/
def numberText (value : Float) : List Char :=
  match Decimal.Binary.ofFloat value with
  | .finite negative significand exponent =>
    let body := if significand = 0 then ['0', '.', '0']
      else decimalText (Decimal.stripZeros 400 (Decimal.shortest significand exponent))
    if negative then '-' :: body else body
  | _ => ['n', 'u', 'l', 'l']

def newLine (depth : Nat) : List Char :=
  '\n' :: List.replicate (2 * depth) ' '

mutual

def write (depth : Nat) : JsonValue → List Char
  | .null => ['n', 'u', 'l', 'l']
  | .natural value => Nat.toDigits 10 value
  | .number value => numberText value
  | .text value => quoted value
  | .array [] => ['[', ']']
  | .array (item :: items) =>
    '[' :: newLine (depth + 1) ++ write (depth + 1) item ++ writeItems (depth + 1) items ++
      newLine depth ++ [']']
  | .object [] => ['{', '}']
  | .object ((name, value) :: fields) =>
    '{' :: newLine (depth + 1) ++ quoted name ++ [':', ' '] ++ write (depth + 1) value ++
      writeFields (depth + 1) fields ++ newLine depth ++ ['}']

def writeItems (depth : Nat) : List JsonValue → List Char
  | [] => []
  | item :: items => ',' :: newLine depth ++ write depth item ++ writeItems depth items

def writeFields (depth : Nat) : List (String × JsonValue) → List Char
  | [] => []
  | (name, value) :: fields =>
    ',' :: newLine depth ++ quoted name ++ [':', ' '] ++ write depth value ++
      writeFields depth fields

end

def display (value : JsonValue) : String :=
  String.ofList (value.write 0)

end JsonValue

end CodeMetrics
