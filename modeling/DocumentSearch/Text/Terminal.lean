/-!
# Text for terminals

A terminal takes some characters as commands: controls, and sequences that begin with an escape.
Text that goes somewhere else is shown without them.  A sequence may break off, and then what stands
behind it is taken into it up to the next escape; the letters beside each part of a sequence below
say where it ends.  White space is shown in between, and once something has been shown, so is all
that follows up to the next control.
-/

namespace DocumentSearch

namespace Terminal

/-- Where a terminal stands between two characters. -/
inductive Mode
  /-- In the text. -/
  | ground
  /-- Behind an escape. -/
  | escape
  /-- Behind an escape and punctuation: up to a digit or letter. -/
  | escapeTail
  /-- In a control sequence: up to a letter. -/
  | sequence
  /-- In the head of a device string: up to a letter. -/
  | head
  /-- In a string that nobody reads: up to the byte `9C`. -/
  | body
  /-- In the name of a window: up to a bell. -/
  | title
deriving DecidableEq, Repr

/-- The escape character. -/
def escapeChar : Char := '\x1b'

/-- Whether a character lies between two others. -/
def isBetween (low high c : Char) : Bool := low ≤ c && c ≤ high

/-- What the character behind an escape begins. -/
def introduced (c : Char) : Mode :=
  if c = '[' then .sequence
  else if c = ']' then .title
  else if c = 'P' then .head
  else if c = 'X' || c = '^' || c = '_' then .body
  else if isBetween ' ' '/' c then .escapeTail
  else if isBetween '0' '~' c then .ground
  else .escape

/-- Where a terminal stands behind a character. -/
def Mode.next (mode : Mode) (c : Char) : Mode :=
  if c = escapeChar then .escape
  else if c = '\x18' || c = '\x1a' then .ground
  else
    match mode with
    | .ground => .ground
    | .escape => introduced c
    | .escapeTail => if isBetween '0' '~' c then .ground else .escapeTail
    | .sequence => if isBetween '@' '~' c then .ground else .sequence
    | .head => if isBetween '@' '~' c then .body else .head
    | .body => if (String.utf8EncodeChar c).contains 0x9C then .ground else .body
    | .title => if c = '\x07' then .ground else .title

/-- Whether a character is a control that only moves on. -/
def isSpacing (c : Char) : Bool := c = '\t' || c = '\n' || c = '\x0c' || c = '\r'

/-- Whether a terminal shows a character. -/
def Mode.shows (mode : Mode) (c : Char) : Bool :=
  match mode with
  | .ground => isSpacing c || (' ' ≤ c && c ≠ '\x7f')
  | .escape | .escapeTail | .sequence => isSpacing c
  | .head | .body | .title => false

/-- What is shown of a text, from a mode on and with or without something shown right before. -/
def shown : Mode → Bool → List Char → List Char
  | _, _, [] => []
  | mode, true, c :: rest =>
      if Mode.ground.shows c then
        c :: shown (if c.toNat < 0x80 then mode else .ground) true rest
      else shown (mode.next c) false rest
  | mode, false, c :: rest =>
      if mode.shows c then c :: shown (mode.next c) true rest else shown (mode.next c) false rest

/-- A text without what only a terminal understands. -/
def plain (text : String) : String := String.ofList (shown .ground false text.toList)

/-- A text that a terminal shows in bold. -/
def bold (text : String) : String := "\x1b[1m" ++ text ++ "\x1b[0m"

/-- A text that a terminal shows in bold and underlined. -/
def heading (text : String) : String := "\x1b[1m\x1b[4m" ++ text ++ "\x1b[0m"

end Terminal

end DocumentSearch
