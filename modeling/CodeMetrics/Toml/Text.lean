import CodeMetrics.Text.Basic

/-!
Texts of a TOML document: blanks, comments, and strings in their four forms. A reader gives what it
read and the text after it, or nothing if the text has another form.
-/

namespace CodeMetrics.Toml

def isSpace (c : Char) : Bool :=
  c == ' ' || c == '\t'

/-- Whether a character may stand in a comment: any but control characters, of which a tab may. -/
def isPrintable (c : Char) : Bool :=
  c == '\t' || (0x20 ≤ c.toNat && c.toNat ≠ 0x7F)

def skipSpaces (text : List Char) : List Char :=
  text.dropWhile isSpace

def endLine? (text : List Char) : Option (List Char) :=
  let text := match skipSpaces text with
    | '#' :: comment => comment.dropWhile isPrintable
    | text => text
  match text with
  | [] => some []
  | '\n' :: rest | '\r' :: '\n' :: rest => some rest
  | _ => none

def skipGaps : Bool → List Char → List Char
  | _, [] => []
  | inComment, c :: rest =>
    if c == '\n' || (c == '\r' && rest.head? == some '\n') then skipGaps false rest
    else if inComment then
      if isPrintable c then skipGaps true rest else c :: rest
    else if isSpace c then skipGaps false rest
    else if c == '#' then skipGaps true rest
    else c :: rest

def readCode? (size : Nat) (text : List Char) : Option (Char × List Char) := do
  guard (size ≤ text.length)
  return (← Text.charOfHex? (text.take size), text.drop size)

def readEscape? : List Char → Option (Char × List Char)
  | 'b' :: rest => some ('\x08', rest)
  | 't' :: rest => some ('\t', rest)
  | 'n' :: rest => some ('\n', rest)
  | 'f' :: rest => some ('\x0c', rest)
  | 'r' :: rest => some ('\r', rest)
  | '"' :: rest => some ('"', rest)
  | '\\' :: rest => some ('\\', rest)
  | 'u' :: rest => readCode? 4 rest
  | 'U' :: rest => readCode? 8 rest
  | _ => none

/-- Reads a string within a line after its opening quote. Backslashes escape unless the quote is
single. -/
def readLineString? (quote : Char) : Nat → List Char → List Char → Option (List Char × List Char)
  | fuel + 1, recent, c :: rest =>
    if c == quote then some (recent.reverse, rest)
    else if c == '\\' && quote == '"' then
      match readEscape? rest with
      | some (escaped, rest) => readLineString? quote fuel (escaped :: recent) rest
      | none => none
    else if isPrintable c then readLineString? quote fuel (c :: recent) rest
    else none
  | _, _, _ => none

def skipBlankLines : List Char → List Char
  | [] => []
  | c :: rest =>
    if isSpace c || c == '\n' || (c == '\r' && rest.head? == some '\n') then skipBlankLines rest
    else c :: rest

/-- Reads a string of several lines after its opening quotes. Three quotes close it, and up to two
more before them belong to it. A backslash at the end of a line joins it to what comes next. -/
def readLongString? (quote : Char) : Nat → List Char → List Char → Option (List Char × List Char)
  | fuel + 1, recent, c :: rest =>
    if c == quote then
      let count := 1 + (rest.takeWhile (· == quote)).length
      let text := c :: rest
      if count < 3 then
        readLongString? quote fuel (List.replicate count quote ++ recent) (text.drop count)
      else
        let inside := min (count - 3) 2
        some ((List.replicate inside quote ++ recent).reverse, text.drop (inside + 3))
    else if c == '\\' && quote == '"' then
      match skipSpaces rest with
      | '\n' :: rest | '\r' :: '\n' :: rest =>
        readLongString? quote fuel recent (skipBlankLines rest)
      | _ =>
        match readEscape? rest with
        | some (escaped, rest) => readLongString? quote fuel (escaped :: recent) rest
        | none => none
    else if c == '\r' && rest.head? == some '\n' then readLongString? quote fuel recent rest
    else if c == '\n' || isPrintable c then readLongString? quote fuel (c :: recent) rest
    else none
  | _, _, _ => none

/-- Reads a string. The end of a line right after three opening quotes is dropped. -/
def readString? (text : List Char) : Option (List Char × List Char) :=
  match text with
  | quote :: rest =>
    if quote == '"' || quote == '\'' then
      if [quote, quote].isPrefixOf rest then
        let body := match rest.drop 2 with
          | '\n' :: rest | '\r' :: '\n' :: rest => rest
          | rest => rest
        readLongString? quote (text.length + 1) [] body
      else readLineString? quote (text.length + 1) [] rest
    else none
  | [] => none

def isNameChar (c : Char) : Bool :=
  c.isAlphanum || c == '_' || c == '-'

def readName? (text : List Char) : Option (String × List Char) :=
  match text with
  | quote :: rest =>
    if quote == '"' || quote == '\'' then
      (readLineString? quote (text.length + 1) [] rest).map fun (name, rest) =>
        (String.ofList name, rest)
    else
      let name := text.takeWhile isNameChar
      if name.isEmpty then none else some (String.ofList name, text.dropWhile isNameChar)
  | [] => none

/-- The number of names from which on a dotted name is refused. -/
def nameLimit : Nat := 80

def readNames? : Nat → List Char → Option (List String × List Char)
  | 0, _ => none
  | count + 1, text => do
    let (name, rest) ← readName? (skipSpaces text)
    match skipSpaces rest with
    | '.' :: rest =>
      let (names, rest) ← readNames? count rest
      return (name :: names, rest)
    | rest => return ([name], rest)

def readKey? (text : List Char) : Option (List String × String × List Char) := do
  let (names, rest) ← readNames? (nameLimit - 1) text
  return (names.dropLast, ← names.getLast?, rest)

end CodeMetrics.Toml
