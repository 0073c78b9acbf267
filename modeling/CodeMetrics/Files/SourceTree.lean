import CodeMetrics.Files.IgnoreRule
import CodeMetrics.Files.Volume
import CodeMetrics.Language

/-!
The source files below a directory of a volume. A file is found unless it, or a directory on the
way to it, is excluded, ignored by a rule of an ignore file, or hidden.
-/

namespace CodeMetrics.Volume

/-- Reads a source file, whose path may start at a root of its own. -/
def readSource (volume : Volume) (directory : List String) (root? : Option Path) (path : Path) :
    Except ParseFailure SourceFile :=
  let full := match root? with
    | some root => root.join path.text
    | none => path
  match volume.readText directory full with
  | .ok text => SourceFile.ofText path text
  | .error error => .error { message := "IO error: " ++ error.message }

/-- Where a directory keeps rules on what to ignore. Rules of a file that comes first win. -/
def ignoreFiles : List (List String) :=
  [[".ignore"], [".gitignore"], [".git", "info", "exclude"]]

def rulesAt (volume : Volume) (place : List String) : List IgnoreRule :=
  match volume.node? place with
  | some (.file contents) => IgnoreRule.ofBytes contents
  | _ => []

/-- The verdict of the ignore files with a name, on what the names `below` lead to from a directory.
The directory is given by its names from the innermost outwards, and inner directories win. -/
def verdictOf (volume : Volume) (file : List String) (isDirectory : Bool) :
    List String → List String → Verdict
  | [], below => IgnoreRule.verdict (volume.rulesAt file) (pathBytes below) isDirectory
  | name :: outer, below =>
    let rules := volume.rulesAt ((name :: outer).reverse ++ file)
    (IgnoreRule.verdict rules (pathBytes below) isDirectory).or
      (verdictOf volume file isDirectory outer (name :: below))

def verdict (volume : Volume) (place : List String) (isDirectory : Bool) : Verdict :=
  match place.reverse with
  | [] => .unknown
  | name :: outer =>
    ignoreFiles.foldr
      (fun file others => (volume.verdictOf file isDirectory outer [name]).or others) .unknown

def isHidden (name : String) : Bool :=
  name.toList.head? == some '.'

def isOpen (volume : Volume) (exclude : List IgnoreRule) (directory below : List String)
    (isDirectory : Bool) : Bool :=
  if IgnoreRule.verdict exclude (pathBytes below) isDirectory ≠ .unknown then false
  else
    match volume.verdict (directory ++ below) isDirectory with
    | .ignored => false
    | .kept => true
    | .unknown => !below.getLast?.any isHidden

/-- Whether a file is found from a directory: it is open, and so is every directory on the way. -/
def isFound (volume : Volume) (exclude : List IgnoreRule) (directory below : List String) : Bool :=
  volume.isOpen exclude directory below false &&
    ((List.range below.length).drop 1).all fun size =>
      volume.isOpen exclude directory (below.take size) true

/-- The source files that are found from a directory, as the names that lead to them in the order of
these names. -/
def sourceFiles (volume : Volume) (exclude : List IgnoreRule) (directory : List String) :
    List Path :=
  let files := volume.entries.filterMap fun (place, node) =>
    match node with
    | .file _ =>
      let below := place.drop directory.length
      let path : Path := ⟨"/".intercalate below⟩
      if directory.isPrefixOf place && (Language.ofPath? path).isSome &&
          volume.isFound exclude directory below then some below
      else none
    | .directory => none
  (files.mergeSort fun left right => !decide (right < left)).map fun names =>
    ⟨"/".intercalate names⟩

end CodeMetrics.Volume
