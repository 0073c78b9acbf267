import CodeMetrics.Path
import CodeMetrics.Recognition.Recognizer
import CodeMetrics.Source.Region

/-!
Programming languages: their files, comments, literals, footprints and decision points; and source
files, whose language is known from their path.
-/

namespace CodeMetrics

inductive Language where
  | c
  | cpp
  | cSharp
  | go
  | java
  | javaScript
  | typeScript
  | rust
  | python
  deriving DecidableEq, Repr

namespace Language

def extensions : List (String × Language) :=
  [("c", .c), ("h", .c), ("cpp", .cpp), ("cc", .cpp), ("cxx", .cpp), ("hpp", .cpp), ("hh", .cpp),
    ("hxx", .cpp), ("cs", .cSharp), ("go", .go), ("java", .java), ("js", .javaScript),
    ("jsx", .javaScript), ("mjs", .javaScript), ("cjs", .javaScript), ("ts", .typeScript),
    ("tsx", .typeScript), ("rs", .rust), ("py", .python), ("pyi", .python)]

def ofExtension? (ending : String) : Option Language :=
  extensions.lookup ending

def ofPath? (path : Path) : Option Language :=
  path.extension?.bind ofExtension?

def name : Language → String
  | .c => "C"
  | .cpp => "C++"
  | .cSharp => "C#"
  | .go => "Go"
  | .java => "Java"
  | .javaScript => "JavaScript"
  | .typeScript => "TypeScript"
  | .rust => "Rust"
  | .python => "Python"

def slug : Language → String
  | .c => "c"
  | .cpp => "cpp"
  | .cSharp => "csharp"
  | .go => "go"
  | .java => "java"
  | .javaScript => "javascript"
  | .typeScript => "typescript"
  | .rust => "rust"
  | .python => "python"

/-- The comments and literals of a language, those that are tried first in front. In Rust a single
quote begins a lifetime and no literal. -/
def regions : Language → List Region
  | .python => [.lineComment ['#'], .literal ['"'], .literal ['\'']]
  | .rust => [.lineComment ['/', '/'], .blockComment ['/', '*'] ['*', '/'], .literal ['"']]
  | _ =>
    [.lineComment ['/', '/'], .blockComment ['/', '*'] ['*', '/'], .literal ['"'],
      .literal ['\'']]

def footprint : Language → Footprint
  | .python => .python
  | _ => .cFamily

def recognizer (language : Language) (threshold : Float) : Recognizer :=
  ⟨threshold, language.footprint⟩

def branchKeywords : Language → List String
  | .python => ["if", "elif", "for", "while", "except", "and", "or", "case"]
  | .go => ["if", "for", "case", "select"]
  | .rust => ["if", "for", "while", "loop", "match"]
  | _ => ["if", "for", "while", "case", "catch"]

def branchOperators : Language → List String
  | .python => []
  | .rust | .go => ["&&", "||"]
  | _ => ["&&", "||", "?"]

end Language

structure ParseFailure where
  message : String
  line? : Option Nat := none
  deriving DecidableEq, Repr

structure SourceFile where
  path : Path
  language : Language
  text : List Char
  deriving DecidableEq, Repr

def SourceFile.ofText (path : Path) (text : List Char) : Except ParseFailure SourceFile :=
  match Language.ofPath? path with
  | some language => .ok { path, language, text }
  | none => .error { message := "unsupported file type: " ++ path.text }

end CodeMetrics
