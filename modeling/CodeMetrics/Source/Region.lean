import CodeMetrics.Text.Basic

/-!
Regions of a source text that are not plain code: comments and literals. Texts that were consumed
are kept newest character first, so that what ends them comes first.
-/

namespace CodeMetrics

/-- Whether a text, given newest character first, ends with a marker. No text ends with the empty
marker. -/
def endsWithMarker (recent marker : List Char) : Bool :=
  !marker.isEmpty && marker.reverse.isPrefixOf recent

inductive Region where
  | lineComment (start : List Char)
  | blockComment (start stop : List Char)
  /-- A literal between two equal delimiters. It counts as code. -/
  | literal (delimiter : List Char)
  deriving DecidableEq, Repr

namespace Region

def isComment : Region → Bool
  | .lineComment _ | .blockComment _ _ => true
  | .literal _ => false

def opening : Region → List Char
  | .lineComment start => start
  | .blockComment start _ => start
  | .literal delimiter => delimiter

def closing? : Region → Option (List Char)
  | .lineComment _ => none
  | .blockComment _ stop => some stop
  | .literal delimiter => some delimiter

def opensAfter (region : Region) (recent : List Char) : Bool :=
  endsWithMarker recent region.opening

/-- Whether the region closes at the end of what was consumed since it opened, its opening marker
included. Two markers need room for both of them. A delimiter after an odd number of backslashes is
escaped and does not close its literal. -/
def closesAfter (region : Region) (recent : List Char) : Bool :=
  match region with
  | .lineComment _ => false
  | .blockComment start stop =>
    endsWithMarker recent stop && Text.byteSize start + Text.byteSize stop ≤ Text.byteSize recent
  | .literal delimiter =>
    endsWithMarker recent delimiter && 2 * Text.byteSize delimiter ≤ Text.byteSize recent &&
      ((recent.drop delimiter.length).takeWhile (· == '\\')).length % 2 == 0

def closesAtLineEnd : Region → Bool
  | .blockComment _ _ => false
  | _ => true

end Region

end CodeMetrics
