import CodeMetrics.Text.Basic
import CodeMetrics.Text.WordChar

/-!
Text patterns and their matches. A pattern prefers some matches over others: the left alternative
before the right one, and more repetitions before fewer unless it is lazy. The match at a position
is the one that is preferred there.
-/

namespace CodeMetrics

inductive Pattern where
  | empty
  | one (accepts : Char → Bool)
  | start
  | stop
  /-- A place between a word character and one that is none, or the lack of it. -/
  | boundary (present : Bool)
  | chain (first second : Pattern)
  | either (first second : Pattern)
  /-- A pattern repeated at least `least` times and at most `most?` times, preferably often when it
  is greedy and preferably seldom when not. -/
  | times (body : Pattern) (least : Nat) (most? : Option Nat) (greedy : Bool)

namespace Pattern

/-- A place in a text: the character before it, if any, and what follows. -/
structure Cursor where
  before? : Option Char
  rest : List Char
  deriving Repr

abbrev Continuation := Cursor → Option Cursor

def exactly (step : Continuation → Continuation) : Nat → Continuation → Continuation
  | 0, next => next
  | count + 1, next => step (exactly step count next)

/-- Repeats a step at most so many times. A repetition that consumes nothing is the last one. -/
def upTo (step : Continuation → Continuation) (greedy : Bool) : Nat → Continuation → Continuation
  | 0, next => next
  | count + 1, next => fun cursor =>
    let again := fun (_ : Unit) => step (fun reached =>
      if reached.rest.length < cursor.rest.length then upTo step greedy count next reached
      else next reached) cursor
    if greedy then (again ()).or (next cursor) else
      match next cursor with
      | some done => some done
      | none => again ()

def Cursor.atBoundary (cursor : Cursor) : Bool :=
  (cursor.before?.any Text.isWordChar) != (cursor.rest.head?.any Text.isWordChar)

/-- Matches a pattern at a place and goes on with the continuation, taking the preferred way that
does not fail. -/
def run : Pattern → Continuation → Continuation
  | .empty, next => next
  | .one accepts, next => fun cursor =>
    match cursor.rest with
    | [] => none
    | c :: rest => if accepts c then next ⟨some c, rest⟩ else none
  | .start, next => fun cursor => if cursor.before?.isNone then next cursor else none
  | .stop, next => fun cursor => if cursor.rest.isEmpty then next cursor else none
  | .boundary present, next => fun cursor =>
    if cursor.atBoundary == present then next cursor else none
  | .chain first second, next => run first (run second next)
  | .either first second, next => fun cursor =>
    match run first next cursor with
    | some done => some done
    | none => run second next cursor
  | .times body least most? greedy, next =>
    exactly (run body) least fun cursor =>
      let more := match most? with
        | some most => most - least
        | none => cursor.rest.length + 1
      upTo (run body) greedy more next cursor

def matchAt? (pattern : Pattern) (cursor : Cursor) : Option Cursor :=
  pattern.run some cursor

/-- Counts the matches from a place on. The first `skip` characters belong to the match counted
last, and `ended` says that this match ends right after them, where an empty match does not
count. -/
def countFrom (pattern : Pattern) : Nat → Bool → Option Char → List Char → Nat
  | _ + 1, _, _, [] => 0
  | skip + 1, ended, _, c :: rest => countFrom pattern skip ended (some c) rest
  | 0, ended, before?, [] =>
    if (pattern.matchAt? ⟨before?, []⟩).isSome && !ended then 1 else 0
  | 0, ended, before?, c :: rest =>
    match pattern.matchAt? ⟨before?, c :: rest⟩ with
    | none => countFrom pattern 0 false (some c) rest
    | some reached =>
      let used := rest.length + 1 - reached.rest.length
      if used = 0 then
        (if ended then 0 else 1) + countFrom pattern 0 false (some c) rest
      else 1 + countFrom pattern (used - 1) true (some c) rest

/-- The number of matches in a text, from left to right, of which no two overlap. -/
def count (pattern : Pattern) (text : List Char) : Nat :=
  countFrom pattern 0 false none text

def sequence : List Pattern → Pattern
  | [] => .empty
  | [last] => last
  | first :: others => .chain first (sequence others)

def literal (text : List Char) : Pattern :=
  sequence (text.map fun c => .one (· == c))

def many (accepts : Char → Bool) : Pattern :=
  .times (.one accepts) 0 none true

def some1 (accepts : Char → Bool) : Pattern :=
  .times (.one accepts) 1 none true

end Pattern

end CodeMetrics
