import DocumentSearch.Error
import DocumentSearch.Http.Domain
import DocumentSearch.Text.Percent
import DocumentSearch.Text.Split

/-!
# Hosts

The host of a URL is an IPv6 address in brackets, an IPv4 address, or a domain.  Whether a host is
an IPv4 address is told by its last label: if that is a number, the whole host has to be an address.
-/

namespace DocumentSearch

/-- The host of a URL. -/
inductive Host
  | domain (name : List Char)
  | ipv4 (address : Nat)
  /-- The eight pieces of the address. -/
  | ipv6 (pieces : List Nat)
deriving DecidableEq, Repr

namespace Host

/-! ## IPv4 -/

/-- The value of digits in a base, if there are only digits of that base. -/
def digits? (base : Nat) (text : List Char) : Option Nat :=
  text.foldl (fun value? c =>
    match value?, Percent.hexValue? c with
    | some value, some digit => if digit < base then some (value * base + digit) else none
    | _, _ => none) (some 0)

/-- A part of an IPv4 address: hexadecimal behind `0x`, octal behind `0`, decimal otherwise. -/
def ipv4Part? : List Char → Option Nat
  | [] => none
  | '0' :: 'x' :: digits | '0' :: 'X' :: digits => digits? 16 digits
  | '0' :: digit :: digits => digits? 8 (digit :: digits)
  | digits => digits? 10 digits

/-- The labels of a domain; an empty one at the end does not count. -/
def labels (domain : List Char) : List (List Char) :=
  let labels := Text.split '.' domain
  if labels.getLast? = some [] ∧ 1 < labels.length then labels.dropLast else labels

/-- Whether the last label is a number. -/
def endsInNumber (domain : List Char) : Bool :=
  match (labels domain).getLast? with
  | some label =>
      (!label.isEmpty && label.all Char.isDigit) || (ipv4Part? label).isSome
  | none => false

/-- The address of the parts: the last one fills all bytes that the others leave. -/
def ipv4OfParts? (parts : List Nat) : Option Nat :=
  match parts.reverse with
  | [] => none
  | last :: firsts =>
      if 4 < parts.length ∨ firsts.any (fun part => decide (255 < part)) ∨
          1 <<< (8 * (5 - parts.length)) ≤ last then none
      else some (firsts.reverse.zipIdx.foldl (fun sum entry =>
        sum + entry.1 <<< (8 * (3 - entry.2))) last)

/-- The IPv4 address that a domain spells. -/
def ipv4? (domain : List Char) : Option Nat :=
  ((labels domain).mapM ipv4Part?).bind ipv4OfParts?

/-! ## IPv6 -/

/-- The pieces of one side of an IPv6 address; only the last part of the address may be an IPv4
address in decimal. -/
def ipv6Pieces? (isLast : Bool) : List (List Char) → Option (List Nat)
  | [] => some []
  | [part] =>
      if isLast && part.contains '.' then
        let parts := Text.split '.' part
        let plain := fun digits : List Char =>
          decide (digits ≠ [] ∧ digits.length ≤ 3) && (digits.length = 1 || digits.head? ≠ some '0')
        if parts.length = 4 && parts.all plain then
          match parts.mapM (digits? 10) with
          | some [a, b, c, d] =>
              if a < 256 ∧ b < 256 ∧ c < 256 ∧ d < 256 then some [a * 256 + b, c * 256 + d]
              else none
          | _ => none
        else none
      else piece? part |>.map fun piece => [piece]
  | part :: parts => do
      let piece ← piece? part
      let pieces ← ipv6Pieces? isLast parts
      return piece :: pieces
where
  /-- Up to four hexadecimal digits. -/
  piece? (part : List Char) : Option Nat :=
    if part = [] ∨ 4 < part.length then none else digits? 16 part

/-- The parts between colons; no parts for an empty text. -/
def colonParts (text : List Char) : List (List Char) :=
  if text = [] then [] else Text.split ':' text

/-- Splits a text at its first double colon. -/
def splitDoubleColon : List Char → Option (List Char × List Char)
  | ':' :: ':' :: rest => some ([], rest)
  | c :: rest => (splitDoubleColon rest).map fun halves => (c :: halves.1, halves.2)
  | [] => none

/-- The pieces of an IPv6 address; a double colon stands for as many zeros as are missing. -/
def ipv6? (text : List Char) : Option (List Nat) :=
  match splitDoubleColon text with
  | none => do
      let pieces ← ipv6Pieces? true (colonParts text)
      if pieces.length = 8 then some pieces else none
  | some (left, right) => do
      let front ← ipv6Pieces? false (colonParts left)
      let back ← ipv6Pieces? true (colonParts right)
      if front.length + back.length < 8 then
        some (front ++ List.replicate (8 - front.length - back.length) 0 ++ back)
      else none

/-! ## Domains -/

/-- The host that a text spells once its percent-encoding is undone. -/
def ofDecoded (decoded : List Char) : Except HostFault Host :=
  match Domain.ofText? decoded with
  | none => .error .invalidDomain
  | some [] => .error .emptyHost
  | some name =>
      if endsInNumber name then
        match ipv4? name with
        | some address => .ok (.ipv4 address)
        | none => .error .invalidIpv4
      else .ok (.domain name)

/-- The host that a text spells. -/
def ofText (text : List Char) : Except HostFault Host :=
  match text with
  | [] => .error .emptyHost
  | '[' :: rest =>
      if rest.getLast? = some ']' then
        match ipv6? rest.dropLast with
        | some pieces => .ok (.ipv6 pieces)
        | none => .error .invalidIpv6
      else .error .invalidIpv6
  | text =>
      match Utf8.decode? (Percent.decode text) with
      | some decoded => ofDecoded decoded
      | none => .error .invalidDomain

end Host

end DocumentSearch
