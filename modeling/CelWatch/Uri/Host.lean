import CelWatch.Uri.Domain
import CelWatch.Uri.Error
import CelWatch.Uri.Percent

/-!
Hosts of URIs. The special schemes have domains in ASCII form, IPv4 addresses
in any of their number forms, and IPv6 addresses; all other schemes have
opaque hosts.
-/

namespace CelWatch.Uri

open Domain (splitAt)

open Text (isDecimal digitsValue?)

inductive Host where
  | domain (text : List Char)
  | ipv4 (address : Nat)
  | ipv6 (groups : List Nat)
deriving DecidableEq, Repr

/-- A part of an IPv4 address: decimal, octal after `0`, or base sixteen after
`0x`. -/
def ipv4Number? (part : List Char) : Option Nat :=
  match part with
  | [] => none
  | '0' :: 'x' :: digits => digitsValue? 16 digits
  | '0' :: 'X' :: digits => digitsValue? 16 digits
  | '0' :: d :: digits => digitsValue? 8 (d :: digits)
  | digits => digitsValue? 10 digits

/-- The parts of a dotted host, without the empty part after a last dot. -/
def dottedParts (text : List Char) : List (List Char) :=
  let parts := splitAt '.' text
  if parts.length > 1 && parts.getLast? == some [] then parts.dropLast else parts

/-- A host whose last part is a number has to be an IPv4 address. -/
def endsInNumber (text : List Char) : Bool :=
  match (dottedParts text).getLast? with
  | none => false
  | some last => (!last.isEmpty && last.all isDecimal) || (ipv4Number? last).isSome

/-- The last number fills all bytes that the earlier ones leave. -/
def ipv4? (text : List Char) : Option Nat := do
  let parts := dottedParts text
  if parts.length > 4 then none else
  let numbers ← parts.mapM ipv4Number?
  let last ← numbers.getLast?
  let leading := numbers.dropLast
  let room := Nat.pow 256 (4 - leading.length)
  if leading.any (· > 255) || last ≥ room then none
  else pure (leading.foldl (fun value byte => value * 256 + byte) 0 * room + last)

/-- An octet of the dotted end of an IPv6 address. -/
def octet? (part : List Char) : Option Nat :=
  if part.isEmpty || part.length > 3 || !part.all isDecimal then none
  else if part.length > 1 && part.head? == some '0' then none
  else do
    let value ← digitsValue? 10 part
    if value ≤ 255 then pure value else none

def ipv6Group? (part : List Char) : Option Nat :=
  if part.isEmpty || part.length > 4 then none else digitsValue? 16 part

/-- The groups between colons. Only the last part may be a dotted address,
which stands for two groups. -/
def ipv6Groups? : List (List Char) → Option (List Nat)
  | [] => some []
  | [last] =>
    if last.contains '.' then do
      match ← (splitAt '.' last).mapM octet? with
      | [a, b, c, d] => pure [a * 256 + b, c * 256 + d]
      | _ => none
    else (ipv6Group? last).map fun group => [group]
  | part :: rest => do
    let group ← ipv6Group? part
    pure (group :: (← ipv6Groups? rest))

/-- The parts before and after the first `::`. -/
def splitCompressed : List Char → List Char × Option (List Char)
  | ':' :: ':' :: rest => ([], some rest)
  | c :: rest =>
    let (before, after) := splitCompressed rest
    (c :: before, after)
  | [] => ([], none)

def ipv6Side? (text : List Char) : Option (List Nat) :=
  if text.isEmpty then some [] else ipv6Groups? (splitAt ':' text)

/-- Eight groups; `::` stands for one or more groups of zero. -/
def ipv6? (text : List Char) : Option (List Nat) :=
  match splitCompressed text with
  | (before, none) => do
    let groups ← ipv6Side? before
    if groups.length = 8 then pure groups else none
  | (before, some after) => do
    if before.contains '.' then none
    let left ← ipv6Side? before
    let right ← ipv6Side? after
    let count := left.length + right.length
    if count ≤ 7 then pure (left ++ List.replicate (8 - count) 0 ++ right) else none

/-- Length of the run of zeros at the front. -/
def zeroRun (groups : List Nat) : Nat :=
  (groups.takeWhile (· == 0)).length

/-- Start and length of the first of the longest runs of two or more zeros. -/
def longestZeros (groups : List Nat) : Option (Nat × Nat) :=
  (List.range groups.length).foldl (fun best i =>
    let run := zeroRun (groups.drop i)
    let longest := match best with
      | some (_, length) => length
      | none => 1
    if run > longest then some (i, run) else best) none

def writeGroups (groups : List Nat) : List Char :=
  (":".toList).intercalate (groups.map (Nat.toDigits 16))

def writeIpv6 (groups : List Nat) : List Char :=
  match longestZeros groups with
  | none => writeGroups groups
  | some (start, length) =>
    writeGroups (groups.take start) ++ [':', ':'] ++ writeGroups (groups.drop (start + length))

/-- The written form of a host. -/
def Host.text : Host → List Char
  | .domain text => text
  | .ipv4 address =>
    (".".toList).intercalate ([24, 16, 8, 0].map fun shift =>
      Nat.toDigits 10 (address / Nat.pow 2 shift % 256))
  | .ipv6 groups => '[' :: writeIpv6 groups ++ [']']

/-- Characters that no opaque host may hold. -/
def isForbiddenInHost (c : Char) : Bool :=
  ['\x00', '\t', '\n', '\r', ' ', '#', '/', ':', '<', '>', '?', '@', '[', '\\', ']', '^',
    '|'].contains c

/-- The characters of bytes that are valid UTF-8. -/
def decodeUtf8? (bytes : List UInt8) : Option (List Char) :=
  (Text.chunks bytes).mapM fun
    | .char c => some c
    | .broken _ => none

def bracketed? (text : List Char) : Option (List Char) :=
  match text with
  | '[' :: rest => if rest.getLast? = some ']' then some rest.dropLast else none
  | _ => none

def parseIpv6 (text : List Char) : Except UriError Host :=
  match bracketed? text >>= ipv6? with
  | some groups => .ok (.ipv6 groups)
  | none => .error .invalidIpv6

/-- The host of a special scheme. -/
def Host.parse (text : List Char) : Except UriError Host :=
  if text.head? = some '[' then parseIpv6 text
  else match decodeUtf8? (percentDecode (Text.encode text)) >>= Domain.ascii? with
    | none => .error .invalidDomain
    | some name =>
      if name.isEmpty then .error .emptyHost
      else if endsInNumber name then
        match ipv4? name with
        | some address => .ok (.ipv4 address)
        | none => .error .invalidIpv4
      else .ok (.domain name)

/-- The host of any other scheme. -/
def Host.parseOpaque (text : List Char) : Except UriError Host :=
  if text.head? = some '[' then parseIpv6 text
  else if text.any isForbiddenInHost then .error .invalidHostCharacter
  else .ok (.domain (percentEncode isControl text))

end CelWatch.Uri
