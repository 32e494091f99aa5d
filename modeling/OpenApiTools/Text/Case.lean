import OpenApiTools.Text.CaseTable

/-!
# Letter case

Two notions of case: comparison that ignores the case of ASCII letters only, and the full lowercase
form of a text, in which a capital sigma becomes a final sigma at the end of a word.
-/

namespace OpenApiTools.Text

/-- Whether two texts differ at most in the case of ASCII letters. -/
def sameIgnoringAsciiCase (left right : String) : Bool :=
  left.toList.map Char.toLower == right.toList.map Char.toLower

/-- The image of a character under the run, if the run covers it. -/
def CaseRun.image? (run : CaseRun) (code : Nat) : Option Nat :=
  if run.first ≤ code && code ≤ run.last && (code - run.first) % run.stride == 0 then
    some (run.target + (code - run.first))
  else
    none

/-- The lowercase form of a character whose mapping depends on nothing else. -/
def lowercaseChar (c : Char) : Char :=
  if c.toNat < 0x80 then c.toLower
  else ((lowercaseRuns.findSome? (·.image? c.toNat)).map Char.ofNat).getD c

/-- Whether the first character that the search for case does not skip has case. -/
def meetsCased (chars : List Char) : Bool :=
  match chars.dropWhile caseIgnorableRanges.has with
  | [] => false
  | c :: _ => casedRanges.has c

/-- The lowercase form of one character between its neighbours, nearest first on either side. -/
def lowercaseAt (before : List Char) (c : Char) (after : List Char) : List Char :=
  if c.toNat == 0x3A3 then
    [if meetsCased before && !meetsCased after then 'ς' else 'σ']
  else if c.toNat == 0x130 then
    ['i', '\u0307']
  else
    [lowercaseChar c]

/-- Lowercases a list of characters, given those before it in reverse. -/
def lowercaseFrom (before : List Char) : List Char → List Char
  | [] => []
  | c :: after => lowercaseAt before c after ++ lowercaseFrom (c :: before) after

/-- The lowercase form of a text. -/
def lowercase (text : String) : String :=
  String.ofList (lowercaseFrom [] text.toList)

end OpenApiTools.Text
