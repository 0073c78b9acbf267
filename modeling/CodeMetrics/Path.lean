import CodeMetrics.Text.Basic

/-!
File paths, as texts in which `/` separates names. A leading `/` is the root and a leading `.` is
the current directory; elsewhere empty names and `.` stand for nothing.
-/

namespace CodeMetrics

structure Path where
  text : String
  deriving DecidableEq, Repr

namespace Path

/-- Whether a name between separators stands for nothing. -/
def isSilent (name : List Char) : Bool :=
  name = [] || name = ['.']

def names (text : List Char) : List (List Char) :=
  Text.segments (· == '/') text

def splitHead : List Char → List Char × List Char
  | '/' :: rest => (['/'], rest)
  | ['.'] => (['.'], [])
  | '.' :: '/' :: rest => (['.'], '/' :: rest)
  | text => ([], text)

/-- The names after the head that end in a name that stands for something, last name first. -/
def body (path : Path) : List (List Char) :=
  (names (splitHead path.text.toList).2).reverse.dropWhile isSilent

/-- The last name of a path, unless the path ends in its root or in a step to a parent. -/
def fileName? (path : Path) : Option String :=
  match path.body with
  | [] => none
  | last :: _ => if last = ['.', '.'] then none else some (String.ofList last)

/-- The path without its last name. The root and the empty path have no parent. -/
def parent? (path : Path) : Option Path :=
  let head := (splitHead path.text.toList).1
  match path.body with
  | [] => if head = ['.'] then some ⟨""⟩ else none
  | _ :: before =>
    let kept := (before.dropWhile isSilent).reverse
    some ⟨String.ofList (head ++ ['/'].intercalate kept)⟩

/-- What follows the last dot of the last name, unless nothing stands before that dot. -/
def extension? (path : Path) : Option String := do
  let name := (← path.fileName?).toList
  let ending := name.reverse.takeWhile (· != '.')
  if ending.length + 1 < name.length then some (String.ofList ending.reverse) else none

def join (path : Path) (below : String) : Path :=
  if path.text = "" || below.startsWith "/" then ⟨below⟩
  else if path.text.endsWith "/" then ⟨path.text ++ below⟩
  else ⟨path.text ++ "/" ++ below⟩

end Path

end CodeMetrics
