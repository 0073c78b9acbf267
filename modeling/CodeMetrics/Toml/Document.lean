import CodeMetrics.Toml.Scalar

/-! TOML documents: the tables that their lines define. -/

namespace CodeMetrics.Toml

/-- Reads the items of an array after its opening bracket. A comma may follow the last one. -/
def readArray? (readItem : List Char → Option (Item × List Char)) :
    Nat → List Item → List Char → Option (Item × List Char)
  | 0, _, _ => none
  | fuel + 1, recent, text =>
    match skipGaps false text with
    | ']' :: rest => some (.array recent.reverse, rest)
    | text =>
      match readItem text with
      | none => none
      | some (item, rest) =>
        match skipGaps false rest with
        | ',' :: rest => readArray? readItem fuel (item :: recent) rest
        | ']' :: rest => some (.array (item :: recent).reverse, rest)
        | _ => none

def readPair? (readItem : List Char → Option (Item × List Char)) (text : List Char) :
    Option (List String × String × Item × List Char) := do
  let (path, key, rest) ← readKey? text
  let (item, rest) ← readItem (skipSpaces (← expect? '=' rest))
  return (path, key, item, rest)

def readInlineTable? (readItem : List Char → Option (Item × List Char)) :
    Nat → Entries → List Char → Option (Item × List Char)
  | 0, _, _ => none
  | fuel + 1, entries, text =>
    match readPair? readItem text with
    | none => none
    | some (path, key, item, rest) =>
      match entries.insert key item path with
      | none => none
      | some entries =>
        match skipSpaces rest with
        | ',' :: rest => readInlineTable? readItem fuel entries rest
        | '}' :: rest => some (.table .inline entries, rest)
        | _ => none

/-- Reads an item with up to `depth` arrays and inline tables around one another. -/
def readItem? : Nat → List Char → Option (Item × List Char)
  | 0, text =>
    match text with
    | '[' :: _ | '{' :: _ => none
    | _ => readScalar? text
  | depth + 1, text =>
    match text with
    | '[' :: rest => readArray? (readItem? depth) (rest.length + 1) [] rest
    | '{' :: rest =>
      match skipSpaces rest with
      | '}' :: rest => some (.table .inline [], rest)
      | rest => readInlineTable? (readItem? depth) (rest.length + 1) [] rest
    | _ => readScalar? text

def depthLimit : Nat := 79

structure Draft where
  entries : Entries := []
  place : List String := []

namespace Draft

def readHeader? (draft : Draft) (define : String → Entries → Option Entries) (closing : List Char)
    (text : List Char) : Option (Draft × List Char) := do
  let (path, name, rest) ← readKey? text
  guard (closing.isPrefixOf rest)
  let rest ← endLine? (rest.drop closing.length)
  let entries ← draft.entries.modifyAt (define name) path
  return ({ entries, place := path ++ [name] }, rest)

def readLine? (draft : Draft) (text : List Char) : Option (Draft × List Char) :=
  match text with
  | '[' :: '[' :: rest => draft.readHeader? Entries.defineElement [']', ']'] rest
  | '[' :: rest => draft.readHeader? Entries.defineTable [']'] rest
  | _ => do
    let (path, key, item, rest) ← readPair? (readItem? depthLimit) text
    let rest ← endLine? rest
    let entries ← draft.entries.modifyAt (Entries.insert key item path) draft.place
    return ({ draft with entries }, rest)

def readLines? : Nat → Draft → List Char → Option Entries
  | 0, _, _ => none
  | fuel + 1, draft, text =>
    match skipGaps false text with
    | [] => some draft.entries
    | text =>
      match draft.readLine? text with
      | some (draft, rest) => readLines? fuel draft rest
      | none => none

end Draft

def read? (text : List Char) : Option Entries :=
  let text := match text with
    | '\ufeff' :: rest => rest
    | _ => text
  Draft.readLines? (text.length + 1) {} text

end CodeMetrics.Toml
