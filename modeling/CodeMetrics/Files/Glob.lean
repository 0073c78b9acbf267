/-!
Globs: patterns of paths. A glob is matched byte by byte against a path in UTF-8. The wildcards `*`
and `?` stay within a name, `**` spans names, brackets stand for one byte and braces for
alternatives.
-/

namespace CodeMetrics

inductive GlobToken where
  | byte (value : UInt8)
  | anyOne
  | anyRun
  /-- Any directories before the rest. -/
  | leadingDirectories
  /-- A slash and any directories after it. -/
  | innerDirectories
  /-- A slash and everything after it. -/
  | everythingBelow
  | oneOf (negated : Bool) (ranges : List (UInt8 × UInt8))
  | alternatives (branches : List (List GlobToken))

inductive GlobError where
  | unclosedClass
  | reversedRange
  | unopenedBrace
  | unclosedBrace
  | danglingEscape
  deriving DecidableEq, Repr

namespace GlobToken

def slash : UInt8 := 47

/-- Whether the rest of a match succeeds after some number of bytes that satisfy a condition. -/
def afterRun (accepts : UInt8 → Bool) (next : List UInt8 → Bool) : List UInt8 → Bool
  | [] => next []
  | b :: rest => next (b :: rest) || (accepts b && afterRun accepts next rest)

def afterSlash (next : List UInt8 → Bool) : List UInt8 → Bool
  | [] => false
  | b :: rest => (b == slash && next rest) || afterSlash next rest

mutual

/-- Matches a part of a glob at the front of a text, and what follows it by `next`. -/
def admits : GlobToken → (List UInt8 → Bool) → List UInt8 → Bool
  | .byte value, next, text =>
    match text with
    | [] => false
    | b :: rest => b == value && next rest
  | .anyOne, next, text =>
    match text with
    | [] => false
    | b :: rest => b != slash && next rest
  | .anyRun, next, text => afterRun (· != slash) next text
  | .leadingDirectories, next, text => next text || afterSlash next text
  | .innerDirectories, next, text =>
    match text with
    | [] => false
    | b :: rest => b == slash && (next rest || afterSlash next rest)
  | .everythingBelow, next, text =>
    match text with
    | [] => false
    | b :: rest => b == slash && afterRun (fun _ => true) next rest
  | .oneOf negated ranges, next, text =>
    match text with
    | [] => false
    | b :: rest => (ranges.any fun (low, high) => low ≤ b && b ≤ high) != negated && next rest
  | .alternatives branches, next, text =>
    if branches.all List.isEmpty then next text else admitsBranch branches next text

def admitsAll : List GlobToken → (List UInt8 → Bool) → List UInt8 → Bool
  | [], next, text => next text
  | token :: tokens, next, text => admits token (admitsAll tokens next) text

/-- Matches one of some alternatives. An alternative without parts never matches. -/
def admitsBranch : List (List GlobToken) → (List UInt8 → Bool) → List UInt8 → Bool
  | [], _, _ => false
  | branch :: branches, next, text =>
    (!branch.isEmpty && admitsAll branch next text) || admitsBranch branches next text

end

def isByte : GlobToken → Bool
  | .byte _ => true
  | _ => false

def isTheByte (value : UInt8) : GlobToken → Bool
  | .byte other => other == value
  | _ => false

end GlobToken

structure Glob where
  tokens : List GlobToken

namespace Glob

/-- Alternatives that are being read: those that are complete, and the parts of the current one,
last part first. -/
structure Frame where
  complete : List (List GlobToken) := []
  current : List GlobToken := []

def bytesOf (c : Char) : List UInt8 :=
  (String.singleton c).toUTF8.toList

def Frame.add (frame : Frame) (token : GlobToken) : Frame :=
  { frame with current := token :: frame.current }

def Frame.addChar (frame : Frame) (c : Char) : Frame :=
  (bytesOf c).foldl (fun frame b => frame.add (.byte b)) frame

def Frame.branches (frame : Frame) : List (List GlobToken) :=
  frame.complete ++ [frame.current.reverse]

def byteRanges (low high : Char) : List (UInt8 × UInt8) :=
  let single (b : UInt8) := (b, b)
  let lows := bytesOf low
  let highs := bytesOf high
  if low = high then lows.map single
  else
    match lows.getLast?, highs with
    | some last, first :: others => lows.dropLast.map single ++ (last, first) :: others.map single
    | _, _ => []

/-- Reads the members of a class up to its closing bracket. `open?` is the start of a range whose
end comes next, and `last?` is a single character that may still become the start of a range. -/
def readClass : Bool → Option Char → Option Char → List (UInt8 × UInt8) → List Char →
    Except GlobError (List (UInt8 × UInt8) × List Char)
  | _, _, _, _, [] => .error .unclosedClass
  | isFirst, open?, last?, ranges, c :: rest =>
    let settled := match last? with
      | some last => ranges ++ byteRanges last last
      | none => ranges
    if c = ']' && !isFirst then
      match open? with
      | some low => .ok (ranges ++ byteRanges low low ++ byteRanges '-' '-', rest)
      | none => .ok (settled, rest)
    else
      match open? with
      | some low =>
        if c < low then .error .reversedRange
        else readClass false none none (ranges ++ byteRanges low c) rest
      | none =>
        if c = '-' && !isFirst then
          match last? with
          | some last => readClass false (some last) none ranges rest
          | none => readClass false none (some '-') settled rest
        else readClass false none (some c) settled rest

/-- Reads a glob. `before?` is the character before the text, and the frames are those of the braces
around it, innermost first. -/
def readFrom : Nat → Option Char → Frame → List Frame → List Char → Except GlobError Glob
  | 0, _, _, _, _ => .ok ⟨[]⟩
  | _ + 1, _, frame, outer, [] =>
    if outer.isEmpty then .ok ⟨frame.current.reverse⟩ else .error .unclosedBrace
  | fuel + 1, before?, frame, outer, c :: rest =>
    match c with
    | '?' => readFrom fuel (some c) (frame.add .anyOne) outer rest
    | '[' =>
      let (negated, rest) := match rest with
        | '!' :: rest | '^' :: rest => (true, rest)
        | _ => (false, rest)
      match readClass true none none [] rest with
      | .error error => .error error
      | .ok (ranges, rest) =>
        readFrom fuel (some ']') (frame.add (.oneOf negated ranges)) outer rest
    | '{' => readFrom fuel (some c) {} (frame :: outer) rest
    | '}' =>
      match outer with
      | [] => .error .unopenedBrace
      | parent :: outer =>
        readFrom fuel (some c) (parent.add (.alternatives frame.branches)) outer rest
    | ',' =>
      if outer.isEmpty then readFrom fuel (some c) (frame.addChar c) outer rest
      else readFrom fuel (some c) { complete := frame.branches } outer rest
    | '\\' =>
      match rest with
      | [] => .error .danglingEscape
      | escaped :: rest => readFrom fuel (some escaped) (frame.addChar escaped) outer rest
    | '*' =>
      match rest with
      | '*' :: rest =>
        let twoRuns := (frame.add .anyRun).add .anyRun
        let endsHere := match rest with
          | [] => true
          | next :: _ => !outer.isEmpty && (next = ',' || next = '}')
        let plainRuns := readFrom fuel (some '*') twoRuns outer rest
        if frame.current.isEmpty then
          match rest with
          | [] => readFrom fuel (some '*') (frame.add .leadingDirectories) outer []
          | '/' :: rest => readFrom fuel (some '/') (frame.add .leadingDirectories) outer rest
          | _ => plainRuns
        else if before? ≠ some '/' then plainRuns
        else
          let widen (token : GlobToken) : Frame :=
            match frame.current with
            | .leadingDirectories :: others =>
              { frame with current := .leadingDirectories :: others }
            | .everythingBelow :: others => { frame with current := .everythingBelow :: others }
            | others => { frame with current := token :: others.drop 1 }
          if endsHere then readFrom fuel (some '*') (widen .everythingBelow) outer rest
          else
            match rest with
            | '/' :: rest => readFrom fuel (some '/') (widen .innerDirectories) outer rest
            | _ => plainRuns
      | _ => readFrom fuel (some c) (frame.add .anyRun) outer rest
    | _ => readFrom fuel (some c) (frame.addChar c) outer rest

def parse (text : List Char) : Except GlobError Glob :=
  readFrom (text.length + 1) none {} [] text

/-- Whether a glob looks for the ending of a last name that the path does not have. A path that ends
with a dot has no last name; only a glob that spells out whole names meets such a path by its final
dot. -/
def missesLastName (glob : Glob) (path : List UInt8) : Bool :=
  path.getLast? == some 46 && glob.tokens.getLast?.any (GlobToken.isTheByte 46) &&
    !(match glob.tokens with
      | .leadingDirectories :: rest =>
        rest.all GlobToken.isByte && rest.any (GlobToken.isTheByte GlobToken.slash)
      | tokens => tokens.all GlobToken.isByte)

/-- Whether a glob covers a path. A glob of nothing but leading directories covers every path. -/
def covers (glob : Glob) (path : List UInt8) : Bool :=
  match glob.tokens with
  | [.leadingDirectories] => true
  | tokens => GlobToken.admitsAll tokens List.isEmpty path && !glob.missesLastName path

end Glob

end CodeMetrics
