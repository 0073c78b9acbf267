import CodeMetrics.Recognition.Recognizer
import CodeMetrics.Source.Region

/-!
Classified lines of a source text. The text is consumed character by character. Outside of a region
every kind of region is asked whether it opens; inside of one, only that region decides when it
closes. What a line's comments hold is judged once the line is complete.
-/

namespace CodeMetrics

inductive CommentContent where
  | blank
  | text
  | code
  deriving DecidableEq, Repr

def CommentContent.name : CommentContent → String
  | .blank => "blank"
  | .text => "text"
  | .code => "code"

structure Line where
  /-- The number, from one. A number that is kept in 32 bits wraps, and differs from this one from
  line `2 ^ 32` on. -/
  number : Nat
  hasCode : Bool
  comment? : Option CommentContent
  code : List Char
  /-- The text outside of comments and literals. -/
  bareCode : List Char
  deriving DecidableEq, Repr

def Line.isBlank (line : Line) : Bool :=
  !line.hasCode && line.comment?.isNone

/-- A region that is open, with what was consumed since it opened, newest first. -/
structure OpenRegion where
  region : Region
  recent : List Char
  deriving DecidableEq, Repr

/-- What was consumed of a line, each part newest character first. -/
structure LineProgress where
  outside : List Char := []
  bare : List Char := []
  comment : List Char := []
  touchesComment : Bool
  open? : Option OpenRegion
  deriving DecidableEq, Repr

namespace LineProgress

def start (open? : Option OpenRegion) : LineProgress where
  touchesComment := open?.any fun current => current.region.isComment
  open? := open?

/-- Opens a region at the end of what was consumed. Its marker leaves the text outside of regions.
The marker is cut off the bare text by its size, which fails where the bare text is shorter, or
where the cut falls into a character. -/
def enter? (progress : LineProgress) (region : Region) : Option LineProgress := do
  let marker := region.opening.reverse
  let bare ← Text.dropBytes? (Text.byteSize marker) progress.bare
  let opened : OpenRegion := ⟨region, marker⟩
  if region.isComment then
    return { progress with
      outside := progress.outside.drop marker.length, bare,
      comment := marker ++ progress.comment, touchesComment := true, open? := opened }
  else
    return { progress with bare, open? := opened }

def consume? (regions : List Region) (progress : LineProgress) (c : Char) : Option LineProgress :=
  match progress.open? with
  | some current =>
    let recent := c :: current.recent
    let open? := if current.region.closesAfter recent then none else some { current with recent }
    if current.region.isComment then
      some { progress with comment := c :: progress.comment, open? }
    else some { progress with outside := c :: progress.outside, open? }
  | none =>
    let progress := { progress with outside := c :: progress.outside, bare := c :: progress.bare }
    match regions.find? fun region => region.opensAfter progress.outside with
    | some region => progress.enter? region
    | none => some progress

def openAfter (progress : LineProgress) : Option OpenRegion :=
  match progress.open? with
  | some current =>
    if current.region.closesAtLineEnd then none
    else some { current with recent := '\n' :: current.recent }
  | none => none

end LineProgress

def dropSuffix (suffix text : List Char) : List Char :=
  if suffix.isSuffixOf text then text.take (text.length - suffix.length) else text

/-- The text of a line's comments without their markers and leading decoration. The closing marker
of each kind of comment is dropped once from the end, in order; what leads is dropped as long as it
consists of characters of opening markers. -/
def commentBody (regions : List Region) (comment : List Char) : List Char :=
  let comments := regions.filter Region.isComment
  let body := (comments.filterMap Region.closing?).foldl
    (fun body stop => Text.trimEnd (dropSuffix stop body)) (Text.trim comment)
  Text.trim (body.dropWhile fun c => comments.any fun region => region.opening.contains c)

def classifyComment (regions : List Region) (recognizer : Recognizer) (comment : List Char) :
    CommentContent :=
  let body := commentBody regions comment
  if body.isEmpty then .blank
  else if recognizer.isCode body then .code
  else .text

namespace LineProgress

def finish (regions : List Region) (recognizer : Recognizer) (number : Nat)
    (progress : LineProgress) : Line where
  number
  hasCode := progress.outside.any fun c => !Text.isBlank c
  comment? :=
    if progress.touchesComment then
      some (classifyComment regions recognizer progress.comment.reverse)
    else none
  code := progress.outside.reverse
  bareCode := progress.bare.reverse

end LineProgress

def classifyLines? (regions : List Region) (recognizer : Recognizer) :
    Nat → Option OpenRegion → List (List Char) → Option (List Line)
  | _, _, [] => some []
  | number, open?, text :: others => do
    let progress ← text.foldlM (LineProgress.consume? regions) (LineProgress.start open?)
    let lines ← classifyLines? regions recognizer (number + 1) progress.openAfter others
    return progress.finish regions recognizer (number + 1) :: lines

end CodeMetrics
