import CodeMetrics.Files.Glob
import CodeMetrics.Text.Basic

/-! Rules that tell which files of a tree to ignore. -/

namespace CodeMetrics

inductive Verdict where
  | unknown
  | ignored
  | kept
  deriving DecidableEq, Repr

/-- The first verdict, unless it says nothing. -/
def Verdict.or : Verdict → Verdict → Verdict
  | .unknown, other => other
  | verdict, _ => verdict

structure IgnoreRule where
  glob : Glob
  /-- Whether the rule keeps what an earlier rule ignores. -/
  keeps : Bool
  onlyDirectories : Bool

namespace IgnoreRule

def splitMark (mark : Char) : List Char → Bool × List Char
  | [] => (false, [])
  | c :: rest => if c = mark then (true, rest) else (false, c :: rest)

def spansDirectories (text : List Char) : Bool :=
  text = ['*', '*'] || ['*', '*', '/'].isPrefixOf text

/-- The text of a rule's glob. A text without a slash applies in every directory, and what ends in
`/**` applies to what is below a directory and not to the directory itself. -/
def globText (anchored : Bool) (text : List Char) : List Char :=
  let text :=
    if !anchored && !text.contains '/' && !spansDirectories text then '*' :: '*' :: '/' :: text
    else text
  if ['/', '*', '*'].isSuffixOf text then text ++ ['/', '*'] else text

/-- Reads a rule from a line. A line that is blank or a comment holds none. -/
def parse (line : List Char) : Except GlobError (Option IgnoreRule) :=
  if ['#'].isPrefixOf line then .ok none
  else
    let line := if ['\\', ' '].isSuffixOf line then line else Text.trimEnd line
    if line.isEmpty then .ok none
    else
      let (keeps, anchored, body) :=
        match line with
        | '\\' :: '!' :: rest => (false, false, '!' :: rest)
        | '\\' :: '#' :: rest => (false, false, '#' :: rest)
        | _ =>
          let (keeps, rest) := splitMark '!' line
          let (anchored, rest) := splitMark '/' rest
          (keeps, anchored, rest)
      let onlyDirectories := body.getLast? == some '/'
      let body := if onlyDirectories then
          let body := body.dropLast
          if body.getLast? == some '\\' then body.dropLast else body
        else body
      (Glob.parse (globText anchored body)).map fun glob => some { glob, keeps, onlyDirectories }

def covers (rule : IgnoreRule) (path : List UInt8) (isDirectory : Bool) : Bool :=
  (!rule.onlyDirectories || isDirectory) && rule.glob.covers path

/-- The verdict of rules on a path: the last rule that covers it decides. -/
def verdict (rules : List IgnoreRule) (path : List UInt8) (isDirectory : Bool) : Verdict :=
  match rules.reverse.find? fun rule => rule.covers path isDirectory with
  | some rule => if rule.keeps then .kept else .ignored
  | none => .unknown

def ofText (text : List Char) : List IgnoreRule :=
  let text := match text with
    | '\ufeff' :: rest => rest
    | _ => text
  (Text.lines text).filterMap fun line =>
    match parse line with
    | .ok rule? => rule?
    | .error _ => none

/-- The rules of a file in UTF-8. What follows the first line in another encoding is passed over. -/
def ofBytes (contents : ByteArray) : List IgnoreRule :=
  let lines := (Text.segments (· == 10) contents.toList).map fun line =>
    String.fromUTF8? ⟨line.toArray⟩
  let texts := (lines.takeWhile Option.isSome).filterMap id
  let texts := if texts.length < lines.length then texts ++ [""] else texts
  ofText ("\n".intercalate texts).toList

end IgnoreRule

def excludeRule (pattern : String) : Except GlobError (Option IgnoreRule) :=
  IgnoreRule.parse ('!' :: pattern.toList)

def pathBytes (names : List String) : List UInt8 :=
  ("/".intercalate names).toUTF8.toList

end CodeMetrics
