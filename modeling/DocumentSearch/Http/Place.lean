import DocumentSearch.Http.Base

/-!
# Places

Where a request can be put: a host and a port, and how they are spoken to.
-/

namespace DocumentSearch

namespace Host

/-- A host as it stands in a URL. -/
def text : Host → List Char
  | .domain name => name
  | .ipv4 address =>
      ".".toList.intercalate ([3, 2, 1, 0].map fun place =>
        (toString (address >>> (8 * place) % 256)).toList)
  | .ipv6 pieces =>
      '[' :: ":".toList.intercalate (pieces.map fun piece => Nat.toDigits 16 piece) ++ [']']

end Host

/-- A host with its port. -/
structure Place where
  scheme : Scheme
  host : Host
  /-- The port, unless it is the usual one. -/
  port : Option Nat
deriving DecidableEq, Repr

namespace Place

/-- The port of a place. -/
def portNumber (place : Place) : Nat := place.port.getD place.scheme.defaultPort

/-- The host of a place and its port, unless that is the usual one. -/
def authority (place : Place) : List Char :=
  place.host.text ++
    match place.port with
    | some port => ':' :: (toString port).toList
    | none => []

end Place

/-- The place of a node. -/
def Base.place (base : Base) : Place := ⟨base.scheme, base.host, base.port⟩

end DocumentSearch
