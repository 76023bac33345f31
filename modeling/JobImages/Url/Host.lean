import JobImages.Text.Lossy
import JobImages.Text.Split
import JobImages.Url.PercentEncoding
import JobImages.Url.Punycode

/-!
# Hosts

A host is a name or an address.  Under the special schemes a host that ends in a number is an IPv4
address, in any of the notations that are customary for one; between brackets stands an IPv6
address.

A name may have characters beyond ASCII, and then there are rules, with large tables, for the name
in ASCII that stands for it.  They are not part of this development: whatever reads hosts takes them
as given.

## Main definitions

* `Url.Host` — a host, with its text `Host.write`;
* `Url.International` — the rules for names beyond ASCII;
* `Url.Fault` — what can be wrong with a URL;
* `Host.readIpv4?`, `Host.readIpv6?` — the addresses;
* `Host.read`, `Host.readAsWritten` — a host under a special scheme, and under another.
-/

namespace JobImages.Url

/-- What is wrong with a URL. -/
inductive Fault where
  /-- There is no scheme. -/
  | noScheme
  /-- There should be a host. -/
  | emptyHost
  /-- The host is no domain name. -/
  | badDomain
  /-- The host contains a character that no host may contain. -/
  | badHostCharacter
  /-- The port is no number of sixteen bits. -/
  | badPort
  /-- The host ends in a number and is no IPv4 address. -/
  | badIpv4
  /-- There is no IPv6 address between the brackets. -/
  | badIpv6
  deriving DecidableEq

/-- The wording of a fault. -/
def Fault.message : Fault → String
  | .noScheme => "relative URL without a base"
  | .emptyHost => "empty host"
  | .badDomain => "invalid international domain name"
  | .badHostCharacter => "invalid domain character"
  | .badPort => "invalid port number"
  | .badIpv4 => "invalid IPv4 address"
  | .badIpv6 => "invalid IPv6 address"

/-- The rules for domain names that are not all ASCII. -/
class International where
  /-- The name in ASCII that stands for a domain name, unless it is none. -/
  toAscii? : List Char → Option (List Char)

/-- A host. -/
inductive Host where
  /-- A name, possibly empty. -/
  | named (name : List Char)
  /-- An address of 32 bits. -/
  | ipv4 (address : Nat)
  /-- An address of eight pieces of 16 bits. -/
  | ipv6 (pieces : List Nat)
  deriving DecidableEq

namespace Host

/-! ## IPv4 addresses -/

/-- Digits of a base as a number; `none` if one is no digit of that base. -/
def ofDigits? (base : Nat) (digits : List Char) : Option Nat :=
  digits.foldlM (fun value digit => do
    let d ← if digit.isDigit then some (digit.toNat - '0'.toNat)
      else if 'a' ≤ digit ∧ digit ≤ 'f' then some (digit.toNat - 'a'.toNat + 10)
      else if 'A' ≤ digit ∧ digit ≤ 'F' then some (digit.toNat - 'A'.toNat + 10)
      else none
    if d < base then some (value * base + d) else none) 0

/-- A part of an IPv4 address: hexadecimal after `0x`, octal after `0`, else decimal. -/
def ipv4Number? (text : List Char) : Option Nat :=
  match text with
  | [] => none
  | '0' :: 'x' :: digits => ofDigits? 16 digits
  | '0' :: 'X' :: digits => ofDigits? 16 digits
  | '0' :: d :: digits => ofDigits? 8 (d :: digits)
  | digits => ofDigits? 10 digits

/-- The parts of a name between its dots, without the empty one after a final dot. -/
def labels (name : List Char) : List (List Char) :=
  let parts := Text.splitOn '.' name
  if parts.getLast? == some [] then parts.dropLast else parts

/-- Whether a name ends in a number, and so has to be an address. -/
def endsInNumber (name : List Char) : Bool :=
  match (labels name).getLast? with
  | some label => (!label.isEmpty && label.all Char.isDigit) || (ipv4Number? label).isSome
  | none => false

/-- An IPv4 address: up to four numbers, the last of which fills the bytes that are left. -/
def readIpv4? (name : List Char) : Option Nat := do
  let parts := labels name
  if 4 < parts.length then none
  let numbers ← parts.mapM ipv4Number?
  let last ← numbers.getLast?
  let first := numbers.dropLast
  let room := Nat.pow 256 (4 - first.length)
  if first.all (· < 256) && last < room then
    some (first.foldl (fun value n => value * 256 + n) 0 * room + last)
  else none

/-! ## IPv6 addresses -/

/-- A piece of an IPv6 address: one to four hexadecimal digits. -/
def ipv6Piece? (text : List Char) : Option Nat :=
  if text.isEmpty || 4 < text.length then none else ofDigits? 16 text

/-- A byte in decimal, without leading zeros. -/
def byte? (text : List Char) : Option Nat :=
  match text with
  | [] => none
  | ['0'] => some 0
  | '0' :: _ => none
  | digits => (ofDigits? 10 digits).filter (· < 256)

/-- An IPv4 address at the end of an IPv6 address takes the place of two pieces. -/
def ipv4Pieces? (text : List Char) : Option (List Nat) :=
  match (Text.splitOn '.' text).mapM byte? with
  | some [a, b, c, d] => some [a * 256 + b, c * 256 + d]
  | _ => none

/-- Pieces between colons; an IPv4 address may be the last when `final` says so. -/
def ipv6Pieces? (final : Bool) (text : List Char) : Option (List Nat) :=
  if text.isEmpty then some []
  else
    let parts := Text.splitOn ':' text
    let last := parts.getLast?.getD []
    if final && last.contains '.' then do
      let first ← parts.dropLast.mapM ipv6Piece?
      let pieces ← ipv4Pieces? last
      some (first ++ pieces)
    else parts.mapM ipv6Piece?

/-- A text cut at its first double colon. -/
def cutAtGap : List Char → Option (List Char × List Char)
  | ':' :: ':' :: rest => some ([], rest)
  | c :: rest => (cutAtGap rest).map fun cut => (c :: cut.1, cut.2)
  | [] => none

/-- An IPv6 address: eight pieces, or fewer around a gap of zeros. -/
def readIpv6? (text : List Char) : Option (List Nat) :=
  match cutAtGap text with
  | some (before, after) => do
    let before ← ipv6Pieces? false before
    let after ← ipv6Pieces? true after
    -- The gap stands for one piece at least.
    if before.length + after.length < 8 then
      some (before ++ List.replicate (8 - before.length - after.length) 0 ++ after)
    else none
  | none => do
    let pieces ← ipv6Pieces? true text
    if pieces.length = 8 then some pieces else none

/-- A host between brackets, given with them. -/
def readBracketed (text : List Char) : Except Fault Host :=
  if text.getLast? == some ']' then
    match readIpv6? (text.drop 1).dropLast with
    | some pieces => .ok (.ipv6 pieces)
    | none => .error .badIpv6
  else .error .badIpv6

/-! ## Names -/

/-- The printable characters that no domain name contains. -/
def reservedInDomains : List Char :=
  ['%', '#', '/', ':', '<', '>', '?', '@', '[', '\\', ']', '^', '|']

/-- What a domain name may contain. -/
def isDomainCharacter (c : Char) : Bool :=
  0x20 < c.toNat && c.toNat < 0x7f && !reservedInDomains.contains c

/-- The characters that no host contains, whatever the scheme. -/
def reservedInHosts : List Char :=
  ['\x00', '\t', '\n', '\r', ' ', '#', '/', ':', '<', '>', '?', '@', '[', '\\', ']', '^', '|']

/-- What the host of a scheme that is not special may contain. -/
def isPlainCharacter (c : Char) : Bool :=
  !reservedInHosts.contains c

/-- Whether a text is a domain name in lower case: its characters are those of domain names, and its
labels are sound. -/
def isDomain (name : List Char) : Bool :=
  name.all isDomainCharacter && (Text.splitOn '.' name).all Punycode.isLabel

section Domain

variable [International]

/-- The domain name that some bytes spell, in ASCII and in lower case. -/
def domain? (bytes : List UInt8) : Option (List Char) :=
  if bytes.all (· < 0x80) then
    let name := bytes.map fun byte => (Char.ofNat byte.toNat).toLower
    if isDomain name then some name else none
  else International.toAscii? (Text.ofBytesLossy bytes).toList

/-- A host under a special scheme: decoded, in lower case, an address if it ends in a number. -/
def read (text : List Char) : Except Fault Host :=
  if text.head? == some '[' then readBracketed text
  else
    match domain? (decodedBytes text) with
    | none => .error .badDomain
    | some name =>
      if name.isEmpty then .error .emptyHost
      else if endsInNumber name then
        match readIpv4? name with
        | some address => .ok (.ipv4 address)
        | none => .error .badIpv4
      else .ok (.named name)

end Domain

/-- A host under a scheme that is not special: kept as written. -/
def readAsWritten (text : List Char) : Except Fault Host :=
  if text.head? == some '[' then readBracketed text
  else if text.all isPlainCharacter then .ok (.named (encode isControl text))
  else .error .badHostCharacter

/-! ## Writing -/

/-- Four bytes in decimal between dots. -/
def writeIpv4 (address : Nat) : List Char :=
  let byte (place : Nat) := Nat.toDigits 10 (address / Nat.pow 256 place % 256)
  byte 3 ++ '.' :: byte 2 ++ '.' :: byte 1 ++ '.' :: byte 0

/-- Pieces in hexadecimal between colons. -/
def writePieces (pieces : List Nat) : List Char :=
  [':'].intercalate (pieces.map (Nat.toDigits 16))

/-- The place and length of the first longest run of zeros, if it is longer than one. -/
def gap? (pieces : List Nat) : Option (Nat × Nat) :=
  let runs := (List.range pieces.length).map fun i =>
    (i, ((pieces.drop i).takeWhile (· == 0)).length)
  let longest := runs.foldl (fun best run => if best.2 < run.2 then run else best) (0, 1)
  if 1 < longest.2 then some longest else none

/-- An IPv6 address: the first longest run of zeros is left out. -/
def writeIpv6 (pieces : List Nat) : List Char :=
  match gap? pieces with
  | some (start, length) =>
    writePieces (pieces.take start) ++ ':' :: ':' :: writePieces (pieces.drop (start + length))
  | none => writePieces pieces

/-- The text of a host. -/
def write : Host → List Char
  | .named name => name
  | .ipv4 address => writeIpv4 address
  | .ipv6 pieces => '[' :: writeIpv6 pieces ++ [']']

/-- Whether there is no host at all. -/
def isEmpty : Host → Bool
  | .named [] => true
  | _ => false

end Host

end JobImages.Url
