import OpenApiTools.Url.Syntax

/-!
# Numeric addresses

IPv4 addresses, whose numbers may be written to three bases, and IPv6 addresses.
-/

namespace OpenApiTools.Url

/-- A number of an IPv4 address: decimal, octal after a zero, or hexadecimal after its mark. -/
def ipv4Number? (chars : List Char) : Option Nat :=
  match chars with
  | [] => none
  | '0' :: 'x' :: digits => Text.ofDigits? 16 digits
  | '0' :: 'X' :: digits => Text.ofDigits? 16 digits
  | '0' :: second :: digits => Text.ofDigits? 8 (second :: digits)
  | digits => Text.ofDigits? 10 digits

/-- The labels of a host, without the empty one behind a final dot. -/
def labels (host : List Char) : List (List Char) :=
  let all := pieces '.' host
  if 1 < all.length && all.getLast?.any List.isEmpty then all.dropLast else all

/-- Whether the last label of a host is a number, so that the host has to be an IPv4 address. -/
def endsInNumber (host : List Char) : Bool :=
  match (labels host).getLast? with
  | none => false
  | some last => !last.isEmpty && (last.all Char.isDigit || (ipv4Number? last).isSome)

/-- Whether a host is an IPv4 address: one to four numbers, of which the last fills the bytes that
the others leave. -/
def isIpv4 (host : List Char) : Bool :=
  match (labels host).mapM ipv4Number? with
  | none => false
  | some numbers =>
    numbers.length ≤ 4 && numbers.dropLast.all (· ≤ 255) &&
      numbers.getLast?.any (· < Nat.pow 256 (5 - numbers.length))

/-- Whether a text is four decimal numbers of at most 255 without leading zeros. -/
def isDottedQuad (chars : List Char) : Bool :=
  let parts := pieces '.' chars
  parts.length == 4 && parts.all fun part =>
    part.length ≤ 3 && (part.length == 1 || part.head? != some '0') &&
      (Text.natural? 10 part).any (· ≤ 255)

/-- Whether a text is one to four hexadecimal digits. -/
def isIpv6Group (chars : List Char) : Bool :=
  chars.length ≤ 4 && (Text.natural? 16 chars).isSome

/-- How many groups of sixteen bits the pieces of an IPv6 address stand for: one each, and two for a
final IPv4 address; none if a piece is malformed. -/
def ipv6Groups? (finalQuad : Bool) : List (List Char) → Option Nat
  | [] => some 0
  | [last] =>
    if finalQuad && isDottedQuad last then some 2 else if isIpv6Group last then some 1 else none
  | group :: rest =>
    if isIpv6Group group then (ipv6Groups? finalQuad rest).map (· + 1) else none

/-- Splits a text at the first pair of colons. -/
def splitCompressed (before : List Char) : List Char → Option (List Char × List Char)
  | ':' :: ':' :: rest => some (before.reverse, rest)
  | c :: rest => splitCompressed (c :: before) rest
  | [] => none

/-- The groups of a part of an IPv6 address, which may be empty. -/
def groupsOfPart? (finalQuad : Bool) (part : List Char) : Option Nat :=
  if part.isEmpty then some 0 else ipv6Groups? finalQuad (pieces ':' part)

/-- Whether a text is an IPv6 address: eight groups, or fewer around one pair of colons. -/
def isIpv6 (chars : List Char) : Bool :=
  match splitCompressed [] chars with
  | none => groupsOfPart? true chars == some 8
  | some (before, after) =>
    match groupsOfPart? false before, groupsOfPart? true after with
    | some left, some right => left + right ≤ 7
    | _, _ => false

end OpenApiTools.Url
