import CodeMetrics.Language
import CodeMetrics.Metric
import CodeMetrics.Source.Line

/-! Classified source texts, their line totals and their approximate cyclomatic complexity. -/

namespace CodeMetrics

structure Source where
  lines : List Line := []
  deriving DecidableEq, Repr

/-- The line totals of a text. They are natural numbers without a bound: totals that are kept in 32
bits wrap, and differ from these for texts of `2 ^ 32` lines and more. -/
structure LineTotals where
  lines : Nat
  blankLines : Nat
  linesOfCode : Nat
  commentLines : Nat
  commentBlankLines : Nat
  commentedOutCodeLines : Nat
  deriving DecidableEq, Repr

def LineTotals.measures (totals : LineTotals) : List (StandardMetric × Nat) :=
  [(.lines, totals.lines), (.blankLines, totals.blankLines),
    (.linesOfCode, totals.linesOfCode), (.commentLines, totals.commentLines),
    (.commentBlankLines, totals.commentBlankLines),
    (.commentedOutCodeLines, totals.commentedOutCodeLines)]

namespace Source

/-- Classifies a text. There is no result when a region opens on a marker that partly lies in an
earlier literal, so that it cannot be cut off the text outside of literals. -/
def ofText? (regions : List Region) (recognizer : Recognizer) (text : List Char) :
    Option Source :=
  (classifyLines? regions recognizer 0 none (Text.lines text)).map Source.mk

def codeLines (source : Source) : List Line :=
  source.lines.filter Line.hasCode

/-- The line with a number; numbers start from one. -/
def line? (source : Source) (number : Nat) : Option Line :=
  if number = 0 then none else source.lines[number - 1]?

def totals (source : Source) : LineTotals where
  lines := source.lines.length
  blankLines := source.lines.countP Line.isBlank
  linesOfCode := source.lines.countP Line.hasCode
  commentLines := source.lines.countP fun line => line.comment? = some .text
  commentBlankLines := source.lines.countP fun line => line.comment? = some .blank
  commentedOutCodeLines := source.lines.countP fun line => line.comment? = some .code

end Source

/-- A text of a language, classified. The markers of a language never reach into a literal, so every
text has a classification. -/
def Language.source (language : Language) (recognizer : Recognizer) (text : List Char) : Source :=
  (Source.ofText? language.regions recognizer text).getD {}

def isCodeSeparator (c : Char) : Bool :=
  !(Text.isAlphanumeric c || c == '_')

def Language.decisions (language : Language) (code : List Char) : Nat :=
  let keywords := language.branchKeywords.map String.toList
  let operators := language.branchOperators.map String.toList
  (Text.segments isCodeSeparator code).countP (fun word => keywords.contains word) +
    (operators.map fun operator => Text.occurrences operator code).foldr (· + ·) 0

/-- One more than the decision points on the lines with code, comments and literals apart. A count
that is kept in 32 bits wraps, and differs from this one where there are `2 ^ 32 - 1` decision
points or more. -/
def Language.complexity (language : Language) (recognizer : Recognizer) (text : List Char) : Nat :=
  1 + ((language.source recognizer text).codeLines.map
    fun line => language.decisions line.bareCode).foldr (· + ·) 0

end CodeMetrics
