/-!
Items of a TOML document, and the rules on what may be added to a table. A table may be defined
once: by a header, by the keys of dotted names, or in line.
-/

namespace CodeMetrics.Toml

/-- How a table came to be, which decides what may still be added to it. -/
inductive Origin where
  /-- By a header of its own, or as an element of an array of tables. -/
  | header
  /-- As the parent of a table with a header. -/
  | implied
  /-- As the parent of a key with a dotted name. -/
  | dotted
  /-- As a value, to which nothing is added. -/
  | inline
  deriving DecidableEq, Repr

inductive Item where
  | boolean (value : Bool)
  | integer (value : Int)
  | real (value : Float)
  | text (value : String)
  | moment
  | array (items : List Item)
  | table (origin : Origin) (entries : List (String × Item))
  /-- The tables of headers in double brackets. -/
  | tables (elements : List (List (String × Item)))

abbrev Entries := List (String × Item)

namespace Entries

def replace (key : String) (item : Item) (entries : Entries) : Entries :=
  entries.map fun (other, old) => if other = key then (other, item) else (other, old)

/-- Changes the table that the names of a header lead to. Names that are not there yet become
tables, and an array of tables is entered at its last element. -/
def modifyAt (change : Entries → Option Entries) : List String → Entries → Option Entries
  | [], entries => change entries
  | name :: path, entries =>
    match entries.lookup name with
    | none => do
      let inner ← modifyAt change path []
      return entries ++ [(name, .table .implied inner)]
    | some (.table origin inner) => do
      guard (origin ≠ .inline)
      let inner ← modifyAt change path inner
      return entries.replace name (.table origin inner)
    | some (.tables elements) => do
      let inner ← modifyAt change path (← elements.getLast?)
      return entries.replace name (.tables (elements.dropLast ++ [inner]))
    | some _ => none

def defineTable (name : String) (entries : Entries) : Option Entries :=
  match entries.lookup name with
  | none => some (entries ++ [(name, .table .header [])])
  | some (.table .implied inner) => some (entries.replace name (.table .header inner))
  | some _ => none

def defineElement (name : String) (entries : Entries) : Option Entries :=
  match entries.lookup name with
  | none => some (entries ++ [(name, .tables [[]])])
  | some (.tables elements) => some (entries.replace name (.tables (elements ++ [[]])))
  | some _ => none

def insert (key : String) (item : Item) : List String → Entries → Option Entries
  | [], entries => do
    guard (entries.lookup key).isNone
    return entries ++ [(key, item)]
  | name :: path, entries =>
    match entries.lookup name with
    | none => do
      let inner ← insert key item path []
      return entries ++ [(name, .table .dotted inner)]
    | some (.table origin inner) => do
      guard (origin = .dotted || (origin = .implied && !path.isEmpty))
      let inner ← insert key item path inner
      return entries.replace name (.table origin inner)
    | some (.tables elements) => do
      guard !path.isEmpty
      let inner ← insert key item path (← elements.getLast?)
      return entries.replace name (.tables (elements.dropLast ++ [inner]))
    | some _ => none

end Entries

end CodeMetrics.Toml
