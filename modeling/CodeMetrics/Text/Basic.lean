/-!
Texts as lists of characters: sets of characters, white space and trimming, the pieces between
separators, physical lines, and characters by their code points.
-/

namespace CodeMetrics.Text

/-! Sets of characters, written as spans of code points with a fixed step. -/

/-- The code points `first`, `first + step`, ..., `last`. -/
structure CharSpan where
  first : Nat
  last : Nat
  step : Nat
  deriving DecidableEq, Repr

def CharSpan.contains (span : CharSpan) (code : Nat) : Bool :=
  span.first ≤ code && code ≤ span.last && (code - span.first) % span.step == 0

abbrev CharSet := List CharSpan

def CharSet.contains (set : CharSet) (c : Char) : Bool :=
  set.any fun span => span.contains c.toNat

/-! White space. -/

/-- Whether a character has the White_Space property. -/
def isBlank (c : Char) : Bool :=
  let code := c.toNat
  (9 ≤ code && code ≤ 13) || code == 0x20 || code == 0x85 || code == 0xA0 || code == 0x1680 ||
    (0x2000 ≤ code && code ≤ 0x200A) || code == 0x2028 || code == 0x2029 || code == 0x202F ||
    code == 0x205F || code == 0x3000

def trimStart (text : List Char) : List Char :=
  text.dropWhile isBlank

def trimEnd (text : List Char) : List Char :=
  (text.reverse.dropWhile isBlank).reverse

def trim (text : List Char) : List Char :=
  trimEnd (trimStart text)

def squeeze (text : List Char) : List Char :=
  text.filter fun c => !isBlank c

/-! Pieces of a text, and what occurs in it. -/

/-- The pieces of a text between its separators. A text with `n` separators has `n + 1` pieces,
some of which may be empty. -/
def segments {α : Type} (isSeparator : α → Bool) : List α → List (List α)
  | [] => [[]]
  | c :: rest =>
    if isSeparator c then [] :: segments isSeparator rest
    else match segments isSeparator rest with
      | [] => [[c]]
      | piece :: pieces => (c :: piece) :: pieces

def tokens (isSeparator : Char → Bool) (text : List Char) : List (List Char) :=
  (segments isSeparator text).filter fun piece => !piece.isEmpty

def dropReturn (line : List Char) : List Char :=
  match line.getLast? with
  | some '\r' => line.dropLast
  | _ => line

/-- The physical lines of a text. A line ends with a line feed, which may follow a carriage return;
a last line without a line feed is kept as it is, unless it is empty. -/
def lines (text : List Char) : List (List Char) :=
  let pieces := segments (· == '\n') text
  let ended := pieces.dropLast.map dropReturn
  match pieces.getLast? with
  | none | some [] => ended
  | some unended => ended ++ [unended]

/-- The count of occurrences from left to right, of which no two overlap, when `skip` more
characters belong to the occurrence found last. -/
def occurrencesAfter (needle : List Char) : Nat → List Char → Nat
  | _, [] => 0
  | skip + 1, _ :: rest => occurrencesAfter needle skip rest
  | 0, c :: rest =>
    if needle.isPrefixOf (c :: rest) then 1 + occurrencesAfter needle (needle.length - 1) rest
    else occurrencesAfter needle 0 rest

/-- How often a nonempty needle occurs in a text, read from left to right, where no two
occurrences overlap. -/
def occurrences (needle text : List Char) : Nat :=
  occurrencesAfter needle 0 text

def byteSize (text : List Char) : Nat :=
  (text.map Char.utf8Size).foldr (· + ·) 0

/-- A text without its first `size` bytes in UTF-8, if the text has so many and they end between
two characters. -/
def dropBytes? : Nat → List Char → Option (List Char)
  | 0, text => some text
  | _ + 1, [] => none
  | size + 1, c :: rest =>
    if c.utf8Size ≤ size + 1 then dropBytes? (size + 1 - c.utf8Size) rest else none

/-! Characters by their code points. -/

def hexDigit? (c : Char) : Option Nat :=
  if c.isDigit then some (c.toNat - '0'.toNat)
  else if 'a' ≤ c && c ≤ 'f' then some (c.toNat - 'a'.toNat + 10)
  else if 'A' ≤ c && c ≤ 'F' then some (c.toNat - 'A'.toNat + 10)
  else none

def charOfHex? (digits : List Char) : Option Char := do
  let code := (← digits.mapM hexDigit?).foldl (fun code digit => code * 16 + digit) 0
  if code.isValidChar then some (Char.ofNat code) else none

end CodeMetrics.Text
