import DocumentSearch.Http.DomainCharacter
import DocumentSearch.Text.Punycode
import DocumentSearch.Text.Split

/-!
# Domains

The name of a domain as it is meant: without the case of letters, with twins of ASCII characters
replaced and without characters that do not count.  A label behind `xn--` is Punycode, and has to
stand for a label that needs it.  How marks combine with letters and in which direction a label is
written is not looked at, and labels keep their characters outside ASCII, where a client that looks
at all of this refuses some labels and writes the others in Punycode.
-/

namespace DocumentSearch

namespace Domain

/-- What text stands for, unless a domain cannot hold one of its characters. -/
def meaning? (text : List Char) : Option (List Char) :=
  let counted := text.filter fun c => !DomainCharacter.isIgnored c
  if counted.any DomainCharacter.isRefused then none
  else some (counted.flatMap DomainCharacter.meaning)

/-- Whether every joiner stands behind a mark that takes the vowel from a consonant. -/
def joinersFit : Option Char → List Char → Bool
  | _, [] => true
  | before, c :: rest =>
      (!DomainCharacter.isJoiner c || before.any DomainCharacter.killsVowel) &&
        joinersFit (some c) rest

/-- Whether a label begins with a character of its own and its joiners stand where they may. -/
def isWellFormed (label : List Char) : Bool :=
  !(label.head?.any DomainCharacter.isMark) && joinersFit none label

/-- Whether what stands behind `xn--` is the Punycode of a label that needs it. -/
def isEncodedLabel (encoded : List Char) : Bool :=
  match Punycode.decode? encoded with
  | some label =>
      label.any DomainCharacter.isForeign && label.all DomainCharacter.isStable &&
        isWellFormed label
  | none => false

/-- Whether a label is one. -/
def isLabel (label : List Char) : Bool :=
  match label with
  | 'x' :: 'n' :: '-' :: '-' :: encoded => isEncodedLabel encoded
  | label => isWellFormed label

/-- The domain that a text names. -/
def ofText? (text : List Char) : Option (List Char) :=
  (meaning? text).bind fun name =>
    if (Text.split '.' name).all isLabel then some name else none

end Domain

end DocumentSearch
