import DocumentSearch.Text.Letter

/-!
# Lower case of a text

Every letter becomes its lower-case form.  Two letters need more than a table: a capital I with a
dot becomes two characters, and a capital sigma at the end of a word takes its final form.
-/

namespace DocumentSearch

namespace Text

/-- A capital sigma. -/
def capitalSigma : Char := Char.ofNat 0x3A3

/-- A small sigma at the end of a word. -/
def finalSigma : Char := Char.ofNat 0x3C2

/-- A capital I with a dot above. -/
def dottedI : Char := Char.ofNat 0x130

/-- The dot above, as a mark of its own. -/
def dotAbove : Char := Char.ofNat 0x307

/-- Whether the nearest character that is not passed over takes part in casing. -/
def leadsToCased (text : List Char) : Bool :=
  match text.dropWhile Letter.isIgnorable with
  | [] => false
  | c :: _ => Letter.isCased c

/-- The lower-case form of a character between the characters before it, the nearest first, and
those behind it. -/
def lowerChar (before : List Char) (c : Char) (behind : List Char) : List Char :=
  if c = dottedI then ['i', dotAbove]
  else if c = capitalSigma then
    if leadsToCased before && !leadsToCased behind then [finalSigma] else [Letter.toLower c]
  else [Letter.toLower c]

/-- The lower-case form of a text behind the given characters, the nearest first. -/
def lowerFrom (before : List Char) : List Char → List Char
  | [] => []
  | c :: behind => lowerChar before c behind ++ lowerFrom (c :: before) behind

/-- The lower-case form of a text. -/
def lowercase (text : String) : String := String.ofList (lowerFrom [] text.toList)

end Text

end DocumentSearch
