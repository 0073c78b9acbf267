import CodeMetrics.Source.Basic
import Mathlib.Data.List.Basic

/-!
A plain lexer for the comments and literals of a language. It reads a line forwards, looks at one
character beyond the one it reads, and says of every character what it belongs to. Nothing it has
said is ever taken back.
-/

namespace CodeMetrics

/-- What a character of a source text belongs to. Markers and delimiters belong to what they
delimit. -/
inductive CharRole where
  | code
  | literal
  | comment
  deriving DecidableEq, Repr

/-- Where the lexer stands. In a literal it also counts the backslashes right before the next
character. -/
inductive LexState where
  | code
  | lineComment
  | blockComment
  | literal (delimiter : Char) (backslashes : Nat)
  deriving DecidableEq, Repr

structure Lexicon where
  /-- Whether two slashes begin a comment, and a slash and a star another one. -/
  slashes : Bool
  hash : Bool
  delimiters : List Char
  deriving DecidableEq, Repr

def Language.lexicon : Language → Lexicon
  | .python => ⟨false, true, ['"', '\'']⟩
  | .rust => ⟨true, false, ['"']⟩
  | _ => ⟨true, false, ['"', '\'']⟩

/-- The role of a character, the state after it, and whether the next character completes a marker
with it. -/
structure LexStep where
  role : CharRole
  state : LexState
  takesNext : Bool := false

namespace Lexicon

def step (lexicon : Lexicon) (state : LexState) (c : Char) (next? : Option Char) : LexStep :=
  match state with
  | .code =>
    if lexicon.slashes ∧ c = '/' ∧ next? = some '/' then ⟨.comment, .lineComment, true⟩
    else if lexicon.slashes ∧ c = '/' ∧ next? = some '*' then ⟨.comment, .blockComment, true⟩
    else if lexicon.hash ∧ c = '#' then ⟨.comment, .lineComment, false⟩
    else if c ∈ lexicon.delimiters then ⟨.literal, .literal c 0, false⟩
    else ⟨.code, .code, false⟩
  | .lineComment => ⟨.comment, .lineComment, false⟩
  | .blockComment =>
    if c = '*' ∧ next? = some '/' then ⟨.comment, .code, true⟩
    else ⟨.comment, .blockComment, false⟩
  | .literal delimiter backslashes =>
    if c = delimiter ∧ backslashes % 2 = 0 then ⟨.literal, .code, false⟩
    else ⟨.literal, .literal delimiter (if c = '\\' then backslashes + 1 else 0), false⟩

/-- The last character of a line completes no marker. -/
theorem step_last (lexicon : Lexicon) (state : LexState) (c : Char) :
    (lexicon.step state c none).takesNext = false := by
  cases state with
  | code =>
    simp only [step, reduceCtorEq, and_false, if_false]
    split
    · rfl
    · split <;> rfl
  | lineComment => rfl
  | blockComment => simp [step]
  | literal delimiter backslashes =>
    simp only [step]
    split <;> rfl

def read (lexicon : Lexicon) : LexState → List Char → List (Char × CharRole) × LexState
  | state, [] => ([], state)
  | state, [c] =>
    let first := lexicon.step state c none
    ([(c, first.role)], first.state)
  | state, c :: next :: rest =>
    let first := lexicon.step state c (some next)
    if first.takesNext then
      let (others, last) := lexicon.read first.state rest
      ((c, first.role) :: (next, first.role) :: others, last)
    else
      let (others, last) := lexicon.read first.state (next :: rest)
      ((c, first.role) :: others, last)

end Lexicon

def LexState.afterBreak : LexState → LexState
  | .blockComment => .blockComment
  | _ => .code

def charsOf (roles : List CharRole) (line : List (Char × CharRole)) : List Char :=
  (line.filter fun entry => roles.contains entry.2).map Prod.fst

/-- A line as the lexer splits it. A comment reaches into the line when one is open at its start or
when one of its characters belongs to one. -/
def lexedLine (regions : List Region) (recognizer : Recognizer) (number : Nat)
    (start : LexState) (line : List (Char × CharRole)) : Line where
  number
  hasCode := (charsOf [.code, .literal] line).any fun c => !Text.isBlank c
  comment? :=
    if start = .blockComment ∨ charsOf [.comment] line ≠ [] then
      some (classifyComment regions recognizer (charsOf [.comment] line))
    else none
  code := charsOf [.code, .literal] line
  bareCode := charsOf [.code] line

def Language.lexedLines (language : Language) (recognizer : Recognizer) :
    Nat → LexState → List (List Char) → List Line
  | _, _, [] => []
  | number, state, text :: others =>
    let (line, last) := language.lexicon.read state text
    lexedLine language.regions recognizer (number + 1) state line ::
      language.lexedLines recognizer (number + 1) last.afterBreak others

end CodeMetrics
