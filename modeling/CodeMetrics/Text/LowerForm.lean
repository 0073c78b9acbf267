import CodeMetrics.Text.LowerShift
import CodeMetrics.Text.Lowercase
import CodeMetrics.Text.Uppercase

/-! Lower-case forms of texts. -/

namespace CodeMetrics.Text

def isCased (c : Char) : Bool :=
  isLowercase c || isUppercase c || titlecaseLetters.contains c

def lowerChar (c : Char) : List Char :=
  if c.toNat < 128 then [c.toLower]
  else if c.toNat == 0x130 then ['i', Char.ofNat 0x307]
  else match lowerShifts.find? fun (span, _) => span.contains c.toNat with
    | some (_, shift) => [Char.ofNat ((c.toNat : Int) + shift).toNat]
    | none => [c]

def meetsCased (text : List Char) : Bool :=
  match text.dropWhile caseIgnorable.contains with
  | [] => false
  | c :: _ => isCased c

/-- The lower-case form of a text that follows `before`, which is given newest character first.
A capital sigma at the end of a word has a form of its own. -/
def lowerAfter : List Char → List Char → List Char
  | _, [] => []
  | before, c :: rest =>
    let form :=
      if c == 'Σ' then
        if meetsCased before && !meetsCased rest then ['ς'] else ['σ']
      else lowerChar c
    form ++ lowerAfter (c :: before) rest

def lower (text : List Char) : List Char :=
  lowerAfter [] text

end CodeMetrics.Text
