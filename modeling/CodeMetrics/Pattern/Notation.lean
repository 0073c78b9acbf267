import CodeMetrics.Pattern.Basic
import CodeMetrics.Text.Basic
import CodeMetrics.Text.Number

/-!
The written form of patterns: literals, escapes, `.`, `^`, `$`, classes in brackets, groups,
alternatives and repetitions. Reading fails on a written form that stands for no pattern.
-/

namespace CodeMetrics.Pattern

def readHexFixed (count : Nat) (text : List Char) : Option (Char × List Char) := do
  guard (count ≤ text.length)
  return (← Text.charOfHex? (text.take count), text.drop count)

/-- Reads a code point in hexadecimal digits, either in braces or of exactly `count` digits. -/
def readHex (count : Nat) : List Char → Option (Char × List Char)
  | '\x7b' :: rest => do
    let body := rest.takeWhile (· != '\x7d')
    guard (!body.isEmpty && body.length < rest.length)
    return (← Text.charOfHex? body, rest.drop (body.length + 1))
  | text => readHexFixed count text

inductive Escape where
  | char (c : Char)
  | set (accepts : Char → Bool)
  | place (pattern : Pattern)

def readEscape : List Char → Option (Escape × List Char)
  | [] => none
  | 'd' :: rest => some (.set Text.isDecimalDigit, rest)
  | 'D' :: rest => some (.set fun c => !Text.isDecimalDigit c, rest)
  | 's' :: rest => some (.set Text.isBlank, rest)
  | 'S' :: rest => some (.set fun c => !Text.isBlank c, rest)
  | 'w' :: rest => some (.set Text.isWordChar, rest)
  | 'W' :: rest => some (.set fun c => !Text.isWordChar c, rest)
  | 'b' :: rest => some (.place (.boundary true), rest)
  | 'B' :: rest => some (.place (.boundary false), rest)
  | 'A' :: rest => some (.place .start, rest)
  | 'z' :: rest => some (.place .stop, rest)
  | 'n' :: rest => some (.char '\n', rest)
  | 't' :: rest => some (.char '\t', rest)
  | 'r' :: rest => some (.char '\r', rest)
  | 'f' :: rest => some (.char '\x0c', rest)
  | 'v' :: rest => some (.char '\x0b', rest)
  | 'a' :: rest => some (.char '\x07', rest)
  | 'x' :: rest => (readHex 2 rest).map fun (c, rest) => (.char c, rest)
  | 'u' :: rest => (readHex 4 rest).map fun (c, rest) => (.char c, rest)
  | 'U' :: rest => (readHex 8 rest).map fun (c, rest) => (.char c, rest)
  | c :: rest =>
    if c.toNat < 128 && !c.isAlphanum && c != '<' && c != '>' then some (.char c, rest) else none

/-- Reads one member of a class: a character, or a class of its own. A place is no member. -/
def readMember : List Char → Option (Escape × List Char)
  | [] => none
  | '\\' :: rest =>
    match readEscape rest with
    | some (.place _, _) | none => none
    | member => member
  | c :: rest => some (.char c, rest)

/-- Reads the members of a class up to its closing bracket. `isFirst` says that no member was read
yet, so that a closing bracket is a member itself. -/
def readMembers : Nat → Bool → List Char → Option ((Char → Bool) × List Char)
  | 0, _, _ => none
  | fuel + 1, isFirst, text =>
    match text with
    | [] => none
    | ']' :: rest =>
      if isFirst then do
        let (others, rest) ← readRange fuel (']' :: rest)
        return (others, rest)
      else some (fun _ => false, rest)
    | '[' :: rest => do
      let (inner, rest) ← readNegation fuel rest
      let (others, rest) ← readMembers fuel false rest
      return (fun c => inner c || others c, rest)
    | _ => readRange fuel text
where
  readRange (fuel : Nat) (text : List Char) : Option ((Char → Bool) × List Char) := do
    let (member, rest) ← readMember text
    let (accepts, rest) ← match member, rest with
      | .char low, '-' :: ']' :: _ => some ((· == low), rest)
      | .char low, '-' :: rest => do
        let (.char high, rest) ← readMember rest | none
        if low ≤ high then some (fun c => decide (low ≤ c) && decide (c ≤ high), rest) else none
      | .char c, rest => some ((· == c), rest)
      | .set accepts, rest => some (accepts, rest)
      | .place _, _ => none
    let (others, rest) ← readMembers fuel false rest
    return (fun c => accepts c || others c, rest)
  readNegation (fuel : Nat) (text : List Char) : Option ((Char → Bool) × List Char) :=
    match text with
    | '^' :: rest => do
      let (accepts, rest) ← readMembers fuel true rest
      return (fun c => !accepts c, rest)
    | _ => readMembers fuel true text

def readClass (text : List Char) : Option ((Char → Bool) × List Char) :=
  readMembers.readNegation (text.length + 1) text

def readNumber (text : List Char) : Option (Nat × List Char) :=
  let digits := text.takeWhile Char.isDigit
  if digits.isEmpty then none
  else some (digits.foldl (fun value c => value * 10 + (c.toNat - '0'.toNat)) 0,
    text.drop digits.length)

def readBounds (text : List Char) : Option (Nat × Option Nat × List Char) := do
  let (least, rest) ← readNumber text
  match rest with
  | '\x7d' :: rest => some (least, some least, rest)
  | ',' :: '\x7d' :: rest => some (least, none, rest)
  | ',' :: rest => do
    let (most, rest) ← readNumber rest
    match rest with
    | '\x7d' :: rest => if least ≤ most then some (least, some most, rest) else none
    | _ => none
  | _ => none

def readRepetitions : Nat → Pattern → List Char → Option (Pattern × List Char)
  | 0, _, _ => none
  | fuel + 1, body, text =>
    let repeated (least : Nat) (most? : Option Nat) (rest : List Char) :=
      match rest with
      | '?' :: rest => readRepetitions fuel (.times body least most? false) rest
      | _ => readRepetitions fuel (.times body least most? true) rest
    match text with
    | '*' :: rest => repeated 0 none rest
    | '+' :: rest => repeated 1 none rest
    | '?' :: rest => repeated 0 (some 1) rest
    | '\x7b' :: rest => do
      let (least, most?, rest) ← readBounds rest
      repeated least most? rest
    | _ => some (body, text)

def skipGroupHead : List Char → Option (List Char)
  | '?' :: ':' :: rest => some rest
  | '?' :: 'P' :: '<' :: rest => skipName rest
  | '?' :: '<' :: rest => skipName rest
  | '?' :: _ => none
  | text => some text
where
  skipName (text : List Char) : Option (List Char) :=
    let name := text.takeWhile (· != '>')
    match name with
    | [] => none
    | first :: _ =>
      if name.length < text.length && (first.isAlpha || first == '_') &&
          name.all (fun c => c.isAlphanum || c == '_') then some (text.drop (name.length + 1))
      else none

def readAlternatives : Nat → List Char → Option (Pattern × List Char)
  | 0, _ => none
  | fuel + 1, text => do
    let (first, rest) ← readSequence fuel text
    match rest with
    | '|' :: rest => do
      let (others, rest) ← readAlternatives fuel rest
      return (.either first others, rest)
    | _ => return (first, rest)
where
  readSequence : Nat → List Char → Option (Pattern × List Char)
    | 0, _ => none
    | fuel + 1, text =>
      match text with
      | [] | '|' :: _ | ')' :: _ => some (.empty, text)
      | _ => do
        let (atom, rest) ← readAtom fuel text
        let (item, rest) ← readRepetitions (rest.length + 1) atom rest
        let (others, rest) ← readSequence fuel rest
        return (.chain item others, rest)
  readAtom (fuel : Nat) (text : List Char) : Option (Pattern × List Char) :=
    match text with
    | '(' :: rest => do
      let rest ← skipGroupHead rest
      let (inner, rest) ← readAlternatives fuel rest
      match rest with
      | ')' :: rest => some (inner, rest)
      | _ => none
    | '[' :: rest => (readClass rest).map fun (accepts, rest) => (.one accepts, rest)
    | '.' :: rest => some (.one (· != '\n'), rest)
    | '^' :: rest => some (.start, rest)
    | '$' :: rest => some (.stop, rest)
    | '\\' :: rest => (readEscape rest).map fun (escape, rest) =>
      match escape with
      | .char c => (.one (· == c), rest)
      | .set accepts => (.one accepts, rest)
      | .place pattern => (pattern, rest)
    | '*' :: _ | '+' :: _ | '?' :: _ | '\x7b' :: _ => none
    | c :: rest => some (.one (· == c), rest)
    | [] => none

def parse? (text : List Char) : Option Pattern :=
  match readAlternatives (2 * text.length + 2) text with
  | some (pattern, []) => some pattern
  | _ => none

end CodeMetrics.Pattern
