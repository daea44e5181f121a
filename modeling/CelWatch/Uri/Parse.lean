import CelWatch.Uri.Basic
import CelWatch.Uri.Host

/-!
Reading URIs by the rules of the URL standard. Blanks and controls around the
text and line ends and tabs inside it do not count. The special schemes take
`\` for `/`, have a host and a path, and leave out their default port; dot
segments are resolved; characters outside a part's set are percent-encoded.
-/

namespace CelWatch.Uri

open Domain (splitAt)

open Text (isDecimal digitsValue?)

inductive SchemeKind where
  | file
  | special
  | other
deriving DecidableEq

def schemeKind (scheme : List Char) : SchemeKind :=
  if scheme = "file".toList then .file
  else if ["http", "https", "ws", "wss", "ftp"].any (·.toList == scheme) then .special
  else .other

def SchemeKind.isSpecial (kind : SchemeKind) : Bool :=
  kind != .other

def defaultPort? (scheme : List Char) : Option Nat :=
  if scheme = "http".toList ∨ scheme = "ws".toList then some 80
  else if scheme = "https".toList ∨ scheme = "wss".toList then some 443
  else if scheme = "ftp".toList then some 21
  else none

/-- A path is opaque text, or segments each of which follows a slash. -/
inductive Path where
  | opaqueText (text : List Char)
  | segments (segments : List (List Char))

structure Parts where
  scheme : List Char
  /-- User part, host and port as written after `//`. -/
  authority : Option (List Char)
  path : Path
  query : Option (List Char)
  fragment : Option (List Char)

/-- The path as written. A path that would be taken for an authority gets a
dot segment in front. -/
def Parts.pathText (parts : Parts) : List Char :=
  match parts.path with
  | .opaqueText text => text
  | .segments segments =>
    let text := segments.flatMap ('/' :: ·)
    if parts.authority.isNone && "//".toList.isPrefixOf text then "/.".toList ++ text else text

/-- The normal form. -/
def Parts.text (parts : Parts) : List Char :=
  let authority := match parts.authority with
    | none => []
    | some text => '/' :: '/' :: text
  let query := match parts.query with
    | none => []
    | some text => '?' :: text
  let fragment := match parts.fragment with
    | none => []
    | some text => '#' :: text
  parts.scheme ++ [':'] ++ authority ++ parts.pathText ++ query ++ fragment

def isControlOrSpace (c : Char) : Bool :=
  c.toNat ≤ 0x20

/-- The text that counts. -/
def strip (text : List Char) : List Char :=
  let front := text.dropWhile isControlOrSpace
  let both := (front.reverse.dropWhile isControlOrSpace).reverse
  both.filter fun c => c != '\t' && c != '\n' && c != '\r'

def isAsciiLetter (c : Char) : Bool :=
  ('a' ≤ c && c ≤ 'z') || ('A' ≤ c && c ≤ 'Z')

def isSchemeChar (c : Char) : Bool :=
  isAsciiLetter c || isDecimal c || c = '+' || c = '-' || c = '.'

/-- The scheme in lower case, and the text after its colon. -/
def scheme? (text : List Char) : Option (List Char × List Char) :=
  let scheme := text.takeWhile isSchemeChar
  match scheme.head?, text.dropWhile isSchemeChar with
  | some first, ':' :: rest =>
    if isAsciiLetter first then some (scheme.map Char.toLower, rest) else none
  | _, _ => none

/-- Whether a character ends the authority. -/
def endsAuthority (kind : SchemeKind) (c : Char) : Bool :=
  c = '/' || c = '?' || c = '#' || (kind.isSpecial && c = '\\')

/-- What stands before and after the last `@`. -/
def splitUser (text : List Char) : Option (List Char) × List Char :=
  if text.contains '@' then
    let host := (text.reverse.takeWhile (· != '@')).reverse
    (some (text.take (text.length - host.length - 1)), host)
  else
    (none, text)

/-- The user part as written before the host, with its `@`; empty when there
is neither a name nor a password. -/
def userText (user : List Char) : List Char :=
  let name := percentEncode inUserSet (user.takeWhile (· != ':'))
  let password := percentEncode inUserSet ((user.dropWhile (· != ':')).drop 1)
  let written := if password.isEmpty then name else name ++ ':' :: password
  if written.isEmpty then [] else written ++ ['@']

/-- The host text and what follows its colon, if there is one. A colon inside
brackets belongs to the host. -/
def splitPort (inBrackets : Bool) : List Char → List Char × Option (List Char)
  | [] => ([], none)
  | c :: rest =>
    if c = ':' && !inBrackets then ([], some rest)
    else
      let inBrackets := if c = '[' then true else if c = ']' then false else inBrackets
      let (host, port) := splitPort inBrackets rest
      (c :: host, port)

/-- The port as written after the host; the default port is left out. -/
def portText (scheme : List Char) (digits : List Char) : Except UriError (List Char) :=
  if digits.isEmpty then .ok []
  else if !digits.all isDecimal then .error .invalidPort
  else match digitsValue? 10 digits with
    | none => .error .invalidPort
    | some port =>
      if port > 65535 then .error .invalidPort
      else if defaultPort? scheme = some port then .ok []
      else .ok (':' :: Nat.toDigits 10 port)

/-- The authority as written, and the text after a backslash that ends its port,
with the backslash. -/
def parseAuthority (scheme : List Char) (kind : SchemeKind) (text : List Char) :
    Except UriError (List Char × List Char) := do
  let (user, rest) := splitUser text
  if user == some [] && rest.isEmpty then throw .emptyHost
  let written := match user with
    | none => []
    | some user => userText user
  let (hostText, port) := splitPort false rest
  let host ← if kind.isSpecial then
      if hostText.isEmpty then throw .emptyHost else Host.parse hostText
    else Host.parseOpaque hostText
  if host.text.isEmpty then
    if port.isSome || !written.isEmpty then throw .emptyHost
  let afterColon := port.getD []
  let port ← portText scheme (afterColon.takeWhile (· != '\\'))
  pure (written ++ host.text ++ port, afterColon.dropWhile (· != '\\'))

def isSingleDot (segment : List Char) : Bool :=
  let lower := segment.map Char.toLower
  lower == ".".toList || lower == "%2e".toList

def isDoubleDot (segment : List Char) : Bool :=
  let lower := segment.map Char.toLower
  ["..", ".%2e", "%2e.", "%2e%2e"].any (·.toList == lower)

/-- A letter and a colon or bar. -/
def isDrive : List Char → Bool
  | [letter, mark] => isAsciiLetter letter && (mark = ':' || mark = '|')
  | _ => false

/-- Whether a segment is a drive, or a drive with more text after a backslash. -/
def startsWithDrive (segment : List Char) : Bool :=
  isDrive (segment.take 2) && (segment.drop 2).head?.all (· == '\\')

/-- Cuts a path at its slashes. -/
def splitPath (kind : SchemeKind) (text : List Char) : List (List Char) :=
  splitAt '/' (if kind.isSpecial then text.map fun c => if c = '\\' then '/' else c else text)

/-- Takes back the last segment; a drive stays. -/
def shorten (segments : List (List Char)) : List (List Char) :=
  if segments.getLast?.any startsWithDrive then segments else segments.dropLast

/-- A segment as written. A drive at the front of a file path has a colon after
its letter. -/
def writtenSegment (kind : SchemeKind) (read : List (List Char)) (segment : List Char) :
    List Char :=
  if kind = .file && read.isEmpty && isDrive segment then segment.take 1 ++ [':']
  else percentEncode inPathSet segment

/-- Adds the segments of a path to those already read, resolving dots. -/
def resolve (kind : SchemeKind) (read : List (List Char)) : List (List Char) → List (List Char)
  | [] => read
  | segment :: rest =>
    if isDoubleDot segment then
      let shorter := shorten read
      resolve kind (if rest.isEmpty then shorter ++ [[]] else shorter) rest
    else if isSingleDot segment then
      resolve kind (if rest.isEmpty then read ++ [[]] else read) rest
    else
      resolve kind (read ++ [writtenSegment kind read segment]) rest

/-- Empty segments at the front of a file path do not count. -/
def dropEmptyFront : List (List Char) → List (List Char)
  | [] :: next :: rest => dropEmptyFront (next :: rest)
  | segments => segments

/-- The segments of a path, given the text after its first slash. -/
def parseSegments (kind : SchemeKind) (text : List Char) : List (List Char) :=
  resolve kind [] (splitPath kind text)

/-- Query and fragment, read from the text after the path. -/
def parseTail (kind : SchemeKind) (text : List Char) : Option (List Char) × Option (List Char) :=
  let queryText := text.takeWhile (· != '#')
  let fragment := match text.dropWhile (· != '#') with
    | _ :: rest => some (percentEncode inFragmentSet rest)
    | [] => none
  let inSet := if kind.isSpecial then inSpecialQuerySet else inQuerySet
  let query := match queryText with
    | '?' :: rest => some (percentEncode inSet rest)
    | _ => none
  (query, fragment)

/-- The text before a query or a fragment, and the rest. -/
def splitTail (text : List Char) : List Char × List Char :=
  (text.takeWhile fun c => c != '?' && c != '#', text.dropWhile fun c => c != '?' && c != '#')

def isSlash (kind : SchemeKind) (c : Char) : Bool :=
  c = '/' || (kind.isSpecial && c = '\\')

def dropSlash (kind : SchemeKind) (text : List Char) : List Char :=
  match text with
  | c :: rest => if isSlash kind c then rest else text
  | [] => []

/-- The parts of a URI with an authority, given the text after `//`. -/
def parseAfterSlashes (scheme : List Char) (kind : SchemeKind) (text : List Char) :
    Except UriError Parts := do
  let (authority, more) ← parseAuthority scheme kind (text.takeWhile (!endsAuthority kind ·))
  let (pathText, tail) := splitTail (text.dropWhile (!endsAuthority kind ·))
  let pathText := more ++ pathText
  let (query, fragment) := parseTail kind tail
  let path := if pathText.isEmpty && !kind.isSpecial then []
    else parseSegments kind (dropSlash kind pathText)
  pure ⟨scheme, some authority, .segments path, query, fragment⟩

/-- The host of a file URI as written; `localhost` stands for none. -/
def fileHost (text : List Char) : Except UriError (List Char) := do
  if text.isEmpty then pure []
  else
    let host := (← Host.parse text).text
    pure (if host = "localhost".toList then [] else host)

/-- The host and the segments of a file URI, given the text after `//`. Where no
host is named, the slash after its place makes an empty first segment. A path
that starts with a drive takes the place of the host. -/
def parseFileHost (text : List Char) : Except UriError (List Char × List (List Char)) := do
  let hostText := text.takeWhile (!isSlash .file ·)
  let path := text.dropWhile (!isSlash .file ·)
  if isDrive hostText then pure ([], parseSegments .file text)
  else
    let host ← fileHost hostText
    if host.isEmpty then pure ([], parseSegments .file path)
    else
      let segments := parseSegments .file (dropSlash .file path)
      pure (if segments.head?.any isDrive then [] else host, segments)

/-- The parts of a file URI, given the text after its colon. -/
def parseFile (scheme : List Char) (text : List Char) : Except UriError Parts := do
  let (body, tail) := splitTail text
  let (query, fragment) := parseTail .file tail
  let (host, segments) ← match body with
    | a :: b :: rest =>
      if isSlash .file a && isSlash .file b then parseFileHost rest
      else pure ([], parseSegments .file (dropSlash .file body))
    | _ => pure ([], parseSegments .file (dropSlash .file body))
  pure ⟨scheme, some host, .segments (dropEmptyFront segments), query, fragment⟩

/-- The parts of a URI whose scheme is not special, given the text after its
colon. -/
def parseOther (scheme : List Char) (text : List Char) : Except UriError Parts :=
  match text with
  | '/' :: '/' :: rest => parseAfterSlashes scheme .other rest
  | '/' :: rest =>
    let (pathText, tail) := splitTail rest
    let (query, fragment) := parseTail .other tail
    .ok ⟨scheme, none, .segments (parseSegments .other pathText), query, fragment⟩
  | _ =>
    let (pathText, tail) := splitTail text
    let (query, fragment) := parseTail .other tail
    .ok ⟨scheme, none, .opaqueText (percentEncode isControl pathText), query, fragment⟩

def parseParts (text : List Char) : Except UriError Parts :=
  match scheme? (strip text) with
  | none => .error .relative
  | some (scheme, rest) =>
    match schemeKind scheme with
    | .file => parseFile scheme rest
    | .special => parseAfterSlashes scheme .special (rest.dropWhile (isSlash .special))
    | .other => parseOther scheme rest

/-- Reads an absolute URI into its normal form. -/
def parse (text : String) : Except UriError Uri :=
  (parseParts text.toList).map fun parts => ⟨String.ofList parts.text⟩

end CelWatch.Uri
