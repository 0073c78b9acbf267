import CodeMetrics.Pattern.Basic
import CodeMetrics.Text.Basic
import CodeMetrics.Text.LowerForm

/-! Detectors: features of a line of code, each with the probability that one match of it carries.
-/

namespace CodeMetrics

def powerTimes (product factor : Float) (count : Nat) : Float :=
  let product := if count % 2 = 1 then product * factor else product
  if more : count / 2 = 0 then product else powerTimes product (factor * factor) (count / 2)
termination_by count
decreasing_by omega

/-- A power with a whole exponent, computed by squaring from the exponent's lowest bit up. -/
def power (base : Float) (exponent : Nat) : Float :=
  powerTimes 1.0 base exponent

structure Detector where
  probability : Float
  scan : List Char → Nat

namespace Detector

def mostMatches : Nat := 0x7fffffff

/-- The probability that a line is code, by this feature alone: that not all of its matches are
chance. -/
def recognition (detector : Detector) (line : List Char) : Float :=
  match detector.scan line with
  | 0 => 0.0
  | count => 1.0 - power (1.0 - detector.probability) (min count mostMatches)

def endsWith (probability : Float) (endings : List Char) : Detector where
  probability
  scan line := match (Text.trimEnd line).getLast? with
    | some last => if endings.contains last then 1 else 0
    | none => 0

def isWordSeparator (c : Char) : Bool :=
  Text.isBlank c || ['(', ')', ',', '{', '}', ';', '[', ']', '.', ':'].contains c

def keywords (probability : Float) (words : List (List Char)) : Detector where
  probability
  scan line := (Text.tokens isWordSeparator line).countP fun token => words.contains token

/-- The words of a line that are one of the given keywords in lower case or upper case or any
mixture of the two. -/
def keywordsAnyCase (probability : Float) (words : List (List Char)) : Detector where
  probability
  scan line := (Text.tokens isWordSeparator line).countP fun token =>
    (words.map Text.lower).contains (Text.lower token)

/-- The occurrences of fragments, white space apart in the line and in the fragments. -/
def contains (probability : Float) (fragments : List (List Char)) : Detector where
  probability
  scan line :=
    let squeezed := Text.squeeze line
    (((fragments.map Text.squeeze).filter fun fragment => !fragment.isEmpty).map
      fun fragment => Text.occurrences fragment squeezed).foldr (· + ·) 0

def hasCamelHump : List Char → Bool
  | low :: high :: rest =>
    (Text.isLowercase low && Text.isUppercase high) || hasCamelHump (high :: rest)
  | _ => false

def camelCase (probability : Float) : Detector where
  probability
  scan line := if hasCamelHump line then 1 else 0

def pattern (probability : Float) (pattern : Pattern) : Detector where
  probability
  scan line := pattern.count line

end Detector

end CodeMetrics
