import DocumentSearch.Text.Percent

/-!
# Paths of URLs

A path is the list of its segments in encoded form; the path `/` has one empty segment.  Appending a
name encodes everything that could end the segment, so a name stays one segment whatever it holds.
Only two kinds of names are not appended as they are: dots alone mean the path itself or its parent,
and tabs and line breaks are dropped.
-/

namespace DocumentSearch

/-- The encoded segments of a path, at least one. -/
abbrev Path := List (List Char)

namespace Path

/-- The path without a name. -/
def root : Path := [[]]

/-- Characters that are dropped wherever they occur in a URL. -/
def isDropped (c : Char) : Bool := c = '\t' || c = '\n' || c = '\r'

/-- A dot, written plainly or encoded, at the front of a segment; and the rest of the segment. -/
def dropDot? : List Char → Option (List Char)
  | '.' :: rest => some rest
  | '%' :: '2' :: 'e' :: rest | '%' :: '2' :: 'E' :: rest => some rest
  | _ => none

/-- Whether a segment is a single dot. -/
def isDot (segment : List Char) : Bool := dropDot? segment = some []

/-- Whether a segment is two dots. -/
def isDotDot (segment : List Char) : Bool := ((dropDot? segment).bind dropDot?) = some []

/-- A letter and a colon or bar, which dots do not lead out of. -/
def isDrive : List Char → Bool
  | [letter, mark] => letter.isAlpha && (mark = ':' || mark = '|')
  | _ => false

/-- The path of the parent, without a separator at its end. -/
def parent (path : Path) : Path :=
  match path.getLast? with
  | some last => if isDrive last then path else path.dropLast
  | none => []

/-- Appends a segment; the lone empty segment of `/` makes room for it. -/
def push (path : Path) (segment : List Char) : Path :=
  if path = root then [segment] else path ++ [segment]

/-- Appends one name: first everything that is dropped is left out, then dots lead to the path
itself or to its parent, and any other name is encoded as one segment. -/
def appendName (path : Path) (name : List Char) : Path :=
  let kept := name.filter fun c => !isDropped c
  if kept = ['.'] then push path []
  else if kept = ['.', '.'] then if path = root then root else parent path ++ [[]]
  else push path (Percent.encode Percent.reservedInSegment kept)

/-- Appends names in order; a name that is exactly one or two dots is passed over. -/
def append (path : Path) (names : List String) : Path :=
  names.foldl (fun path name =>
    if name = "." ∨ name = ".." then path else appendName path name.toList) path

/-- The path without the empty segment behind a separator at its end. -/
def dropTrailing (path : Path) : Path :=
  if path ≠ root ∧ path.getLast? = some [] then path.dropLast else path

/-- The text of a path. -/
def toChars (path : Path) : List Char := path.flatMap fun segment => '/' :: segment

/-- Resolves the segments of a written path behind those that were resolved before. -/
def resolveFrom (resolved : Path) : List (List Char) → Path
  | [] => resolved
  | [last] =>
      if isDotDot last then parent resolved ++ [[]]
      else if isDot last then resolved ++ [[]]
      else resolved ++ [Percent.encode Percent.reservedInPath last]
  | segment :: rest =>
      if isDotDot segment then resolveFrom (parent resolved) rest
      else if isDot segment then resolveFrom resolved rest
      else resolveFrom (resolved ++ [Percent.encode Percent.reservedInPath segment]) rest

/-- The path of written segments, with dots resolved and reserved characters encoded. -/
def resolve (segments : List (List Char)) : Path := resolveFrom [] segments

end Path

end DocumentSearch
