import CodeMetrics.Recognition.Detector

/-!
Telling lines of code from prose, by a footprint: the detectors that together characterise the code
of a language.
-/

namespace CodeMetrics

abbrev Footprint := List Detector

namespace Footprint

def cFamilyKeywords : List String :=
  ["abstract", "auto", "bool", "boolean", "break", "byte", "case", "catch", "char", "class",
    "const", "continue", "default", "delete", "do", "double", "else", "enum", "extends", "extern",
    "final", "finally", "float", "fn", "for", "func", "function", "goto", "if", "impl",
    "implements", "import", "instanceof", "int", "interface", "let", "long", "match", "mut",
    "namespace", "new", "null", "package", "private", "protected", "pub", "public", "return",
    "short", "signed", "sizeof", "static", "struct", "super", "switch", "template", "this",
    "throw", "throws", "try", "typedef", "typeof", "union", "unsigned", "use", "var", "void",
    "volatile", "while"]

def pythonKeywords : List String :=
  ["and", "as", "assert", "async", "await", "break", "class", "continue", "def", "del", "elif",
    "else", "except", "False", "finally", "for", "from", "global", "if", "import", "in", "is",
    "lambda", "None", "nonlocal", "not", "or", "pass", "raise", "return", "True", "try", "while",
    "with", "yield"]

/-- The footprint of C, C++, Java, C#, JavaScript, TypeScript, Go and Rust. -/
def cFamily : Footprint :=
  [.endsWith 0.95 ['}', ';', '{'],
    .keywords 0.7 (["||", "&&"].map String.toList),
    .keywords 0.3 (cFamilyKeywords.map String.toList),
    .contains 0.95
      (["++", "for(", "if(", "while(", "catch(", "switch(", "try\x7b", "else\x7b"].map
        String.toList),
    .camelCase 0.5]

/-- A line that begins, indentation apart, with one of two words and then an item of a class. -/
def opening (first second : String) (item : Char → Bool) : Pattern :=
  .sequence [.start, .many Text.isBlank, .either (.literal first.toList) (.literal second.toList),
    .some1 Text.isBlank, .some1 item]

def python : Footprint :=
  [.endsWith 0.95 [':', ')', ']'],
    .keywords 0.3 (pythonKeywords.map String.toList),
    .contains 0.95 (["self.", "+=", "-=", "==", "!=", "__"].map String.toList),
    .pattern 0.95 (opening "def" "class" Text.isWordChar),
    .pattern 0.7 (opening "import" "from" fun c => Text.isWordChar c || c == '.')]

end Footprint

structure Recognizer where
  threshold : Float
  footprint : Footprint

namespace Recognizer

/-- The probability that a line is code: that not all of the features on it are chance. -/
def recognition (recognizer : Recognizer) (line : List Char) : Float :=
  recognizer.footprint.foldl
    (fun probability detector => 1.0 - (1.0 - probability) * (1.0 - detector.recognition line)) 0.0

/-- Whether the probability of a line lies strictly above the threshold. -/
def isCode (recognizer : Recognizer) (line : List Char) : Bool :=
  recognizer.recognition line - recognizer.threshold > 0.0

/-- The lines whose probability reaches the threshold, in their order. A line that just reaches it
is extracted, though it is not judged to be code. -/
def extract (recognizer : Recognizer) (lines : List (List Char)) : List (List Char) :=
  lines.filter fun line => recognizer.recognition line ≥ recognizer.threshold

end Recognizer

end CodeMetrics
