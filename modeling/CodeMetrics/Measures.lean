/-! Tables of measured values, and how a value reads as a whole number. -/

namespace CodeMetrics

/-- The nearest whole number, halves away from zero, kept within 64 signed bits. A value that is no
number reads as zero. -/
def wholeNumber (value : Float) : Int :=
  value.round.toInt64.toInt

/-- Numeric values under metric names, each name at most once. -/
structure Measures where
  entries : List (String × Float) := []
  deriving Repr, Inhabited

namespace Measures

def empty : Measures := {}

def get? (table : Measures) (name : String) : Option Float :=
  table.entries.lookup name

/-- The value under a name; zero when it was never set. -/
def value (table : Measures) (name : String) : Float :=
  (table.get? name).getD 0.0

def whole? (table : Measures) (name : String) : Option Int :=
  (table.get? name).map wholeNumber

def contains (table : Measures) (name : String) : Bool :=
  (table.get? name).isSome

/-- The entries with the value under a name replaced, or put last when the name is new. -/
def setEntry (name : String) (value : Float) : List (String × Float) → List (String × Float)
  | [] => [(name, value)]
  | (other, old) :: rest =>
    if other = name then (name, value) :: rest else (other, old) :: setEntry name value rest

def set (table : Measures) (name : String) (value : Float) : Measures :=
  ⟨setEntry name value table.entries⟩

def add (table : Measures) (name : String) (delta : Float) : Measures :=
  table.set name (table.value name + delta)

def size (table : Measures) : Nat :=
  table.entries.length

def isEmpty (table : Measures) : Bool :=
  table.entries.isEmpty

theorem lookup_setEntry (name other : String) (value : Float) (entries : List (String × Float)) :
    (setEntry name value entries).lookup other =
      if other = name then some value else entries.lookup other := by
  induction entries with
  | nil => grind [setEntry]
  | cons entry rest ih => grind [setEntry]

@[simp] theorem get?_set (table : Measures) (name other : String) (value : Float) :
    (table.set name value).get? other = if other = name then some value else table.get? other :=
  lookup_setEntry name other value table.entries

end Measures

end CodeMetrics
