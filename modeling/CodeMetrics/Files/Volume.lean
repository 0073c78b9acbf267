import CodeMetrics.Path

/-! Volumes: trees of directories and files, and how paths lead through them. -/

namespace CodeMetrics

inductive Node where
  | directory
  | file (contents : ByteArray)

inductive ReadError where
  | notFound
  | notADirectory
  | isADirectory
  | notText
  deriving DecidableEq, Repr

def ReadError.message : ReadError → String
  | .notFound => "No such file or directory (os error 2)"
  | .notADirectory => "Not a directory (os error 20)"
  | .isADirectory => "Is a directory (os error 21)"
  | .notText => "stream did not contain valid UTF-8"

/-- The files and directories of a volume, each under the names that lead to it from the root. The
directories on the way to an entry need no entries of their own. -/
structure Volume where
  entries : List (List String × Node) := []

namespace Volume

def put (volume : Volume) (place : List String) (node : Node) : Volume where
  entries := volume.entries.filter (fun (other, _) => other ≠ place) ++ [(place, node)]

def node? (volume : Volume) (place : List String) : Option Node :=
  match volume.entries.find? fun (other, _) => other = place with
  | some (_, node) => some node
  | none =>
    if place = [] || volume.entries.any fun (other, _) => place.isPrefixOf other then
      some .directory
    else none

/-- Follows names from a place. A name that stands for nothing stays in its directory and `..` leads
to the parent; only directories can be left. -/
def follow (volume : Volume) : List String → List (List Char) → Except ReadError (List String)
  | place, [] => .ok place
  | place, name :: names =>
    match volume.node? place with
    | none => .error .notFound
    | some (.file _) => .error .notADirectory
    | some .directory =>
      if Path.isSilent name then follow volume place names
      else if name = ['.', '.'] then follow volume place.dropLast names
      else
        let next := place ++ [String.ofList name]
        if (volume.node? next).isNone then .error .notFound else follow volume next names

def resolve (volume : Volume) (directory : List String) (path : Path) :
    Except ReadError (List String) :=
  match path.text.toList with
  | [] => .error .notFound
  | '/' :: rest => volume.follow [] (Path.names rest)
  | text => volume.follow directory (Path.names text)

def readPlace (volume : Volume) (place : List String) : Except ReadError (List Char) :=
  match volume.node? place with
  | none => .error .notFound
  | some .directory => .error .isADirectory
  | some (.file contents) =>
    match String.fromUTF8? contents with
    | some text => .ok text.toList
    | none => .error .notText

def readText (volume : Volume) (directory : List String) (path : Path) :
    Except ReadError (List Char) := do
  volume.readPlace (← volume.resolve directory path)

def isDirectory (volume : Volume) (place : List String) : Bool :=
  match volume.node? place with
  | some .directory => true
  | _ => false

def placeOf (directory : List String) (path : Path) : List String :=
  let start := match path.text.toList with
    | '/' :: _ => []
    | _ => directory
  (Path.names path.text.toList).foldl (fun place name =>
    if Path.isSilent name then place
    else if name = ['.', '.'] then place.dropLast
    else place ++ [String.ofList name]) start

def display (place : List String) : String :=
  "/" ++ "/".intercalate place

end Volume

end CodeMetrics
