/-
# Responder.Url.Host -- hosts of URLs

A host is an IPv6 address in brackets, an IPv4 address when its last part looks
like a number, or a domain name.
-/
import Responder.Numeral.Digits
import Responder.Numeral.Power
import Responder.Url.Domain
import Responder.Url.Percent

namespace Responder.Url

set_option autoImplicit false

/-- Why a text is no URL. -/
inductive Error where
  | noScheme
  | emptyHost
  | badPort
  | badIpv4
  | badIpv6
  | badDomain
  | badHostChar
  deriving DecidableEq

/-- An error in words. -/
def Error.message : Error → String
  | .noScheme => "relative URL without a base"
  | .emptyHost => "empty host"
  | .badPort => "invalid port number"
  | .badIpv4 => "invalid IPv4 address"
  | .badIpv6 => "invalid IPv6 address"
  | .badDomain => "invalid international domain name"
  | .badHostChar => "invalid domain character"

/-- A host. -/
inductive Host where
  | domain (name : List Char)
  | ipv4 (address : Nat)
  /-- Eight pieces of 16 bits. -/
  | ipv6 (pieces : List Nat)
  deriving DecidableEq

/-! ## IPv4 -/

/-- The number that a part of an IPv4 address denotes, in octal after `0` and in
hexadecimal after `0x`: none when it is no number. -/
def ipv4Number? (cs : List Char) : Option Nat :=
  let read (base : Nat) (digits : List Char) : Option Nat :=
    digits.foldlM (fun n c => do
      let d ← hexDigit? c
      if d < base then some (base * n + d) else none) 0
  match cs with
  | [] => none
  | '0' :: 'x' :: digits | '0' :: 'X' :: digits => read 16 digits
  | '0' :: c :: digits => read 8 (c :: digits)
  | digits => read 10 digits

/-- Whether the last part of a domain name makes it an IPv4 address. -/
def endsInNumber (domain : List Char) : Bool :=
  let parts := (domain.splitOn '.').reverse
  let last :=
    match parts with
    | [] :: rest => rest.head?
    | part :: _ => some part
    | [] => none
  last.any fun part => (part ≠ [] && part.all Numeral.isDigit) || (ipv4Number? part).isSome

/-- The address that the parts denote: all but the last are bytes. -/
def ipv4Address? (numbers : List Nat) : Option Nat :=
  match numbers.reverse with
  | [] => none
  | last :: bytes =>
    if 3 < bytes.length || bytes.any (255 < ·) || 256 ^ (4 - bytes.length) ≤ last then none
    else some (last + (bytes.reverse.zipIdx.map fun (b, i) => b * 256 ^ (3 - i)).foldl (· + ·) 0)

/-- The IPv4 address that a domain name denotes. -/
def parseIpv4? (domain : List Char) : Option Nat := do
  let parts := domain.splitOn '.'
  let parts := if parts.getLast? = some [] then parts.dropLast else parts
  ipv4Address? (← parts.mapM ipv4Number?)

/-- An IPv4 address in decimal bytes. -/
def ipv4Text (address : Nat) : List Char :=
  List.intercalate ['.'] ([3, 2, 1, 0].map fun i => Numeral.natText (address / 256 ^ i % 256))

/-! ## IPv6 -/

/-- The number of one to four hexadecimal digits. -/
def ipv6Piece? (cs : List Char) : Option Nat :=
  if cs = [] ∨ 4 < cs.length then none
  else cs.foldlM (fun n c => (hexDigit? c).map (16 * n + ·)) 0

/-- A byte in decimal without leading zeros. -/
def ipv6Byte? (cs : List Char) : Option Nat :=
  match cs.mapM Numeral.Digit.ofChar? with
  | none | some [] => none
  | some ds =>
    let n := Numeral.ofDigits ds
    if Numeral.natText n = cs ∧ n < 256 then some n else none

/-- Two pieces from an IPv4 address in four decimal bytes. -/
def ipv6Tail? (cs : List Char) : Option (List Nat) := do
  match ← (cs.splitOn '.').mapM ipv6Byte? with
  | [a, b, c, d] => return [256 * a + b, 256 * c + d]
  | _ => none

/-- Pieces between colons; the last may be an IPv4 address. -/
def ipv6Pieces? (cs : List Char) : Option (List Nat) :=
  if cs = [] then some []
  else
    let words := cs.splitOn ':'
    match words.reverse with
    | [] => some []
    | last :: before => do
      let front ← before.reverse.mapM ipv6Piece?
      let back ← if last.contains '.' then ipv6Tail? last else (ipv6Piece? last).map ([·])
      return front ++ back

/-- The two sides of the first pair of colons. -/
def splitDoubleColon : List Char → Option (List Char × List Char)
  | ':' :: ':' :: rest => some ([], rest)
  | c :: rest => (splitDoubleColon rest).map fun (l, r) => (c :: l, r)
  | [] => none

/-- The pieces of an IPv6 address: one pair of colons may stand for zeros. -/
def parseIpv6? (cs : List Char) : Option (List Nat) := do
  match splitDoubleColon cs with
  | none =>
    let pieces ← ipv6Pieces? cs
    if pieces.length = 8 then some pieces else none
  | some (left, right) =>
    if left.contains '.' then none
    else
      let l ← ipv6Pieces? left
      let r ← ipv6Pieces? right
      if l.length + r.length < 8 then
        some (l ++ List.replicate (8 - l.length - r.length) 0 ++ r)
      else none

/-- The number of zeros at the start of a list. -/
def leadingZeros (pieces : List Nat) : Nat := (pieces.takeWhile (· == 0)).length

/-- The first of the longest runs of zeros: its place and length. -/
def longestZeros : Nat → List Nat → Nat × Nat
  | _, [] => (0, 0)
  | index, p :: rest =>
    let here := leadingZeros (p :: rest)
    let (i, n) := longestZeros (index + 1) rest
    if n ≤ here then (index, here) else (i, n)

/-- Pieces with colons between them. -/
def piecesText (pieces : List Nat) : List Char :=
  List.intercalate [':'] (pieces.map fun p => Nat.toDigits 16 p)

/-- An IPv6 address; the longest run of at least two zeros is left out. -/
def ipv6Text (pieces : List Nat) : List Char :=
  let (i, n) := longestZeros 0 pieces
  if n < 2 then piecesText pieces
  else piecesText (pieces.take i) ++ ':' :: ':' :: piecesText (pieces.drop (i + n))

/-! ## Any host -/

/-- A host in brackets, if the text is one. -/
def bracketHost? : List Char → Option (Except Error Host)
  | '[' :: rest =>
    match rest.getLast? with
    | some ']' =>
      match parseIpv6? rest.dropLast with
      | some pieces => some (.ok (.ipv6 pieces))
      | none => some (.error .badIpv6)
    | _ => some (.error .badIpv6)
  | _ => none

/-- The host of a URL for the web. -/
def Host.parse (cs : List Char) : Except Error Host :=
  match bracketHost? cs with
  | some host => host
  | none =>
    match (decode? cs).bind Domain.toAscii? with
    | none => .error .badDomain
    | some [] => .error .emptyHost
    | some ascii =>
      if endsInNumber ascii then
        match parseIpv4? ascii with
        | some address => .ok (.ipv4 address)
        | none => .error .badIpv4
      else .ok (.domain ascii)

/-- The host of a URL of another kind: only its characters are checked. -/
def Host.parseOpaque (cs : List Char) : Except Error Host :=
  match bracketHost? cs with
  | some host => host
  | none =>
    if cs.any fun c => "\x00\t\n\x0d #/:<>?@[\\]^|".toList.contains c then .error .badHostChar
    else .ok (.domain cs)

/-- A host as it stands in a URL. -/
def Host.text : Host → List Char
  | .domain name => name
  | .ipv4 address => ipv4Text address
  | .ipv6 pieces => '[' :: (ipv6Text pieces ++ [']'])

end Responder.Url
