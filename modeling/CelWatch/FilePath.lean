import CelWatch.Text.Quoted
import CelWatch.Text.Utf8

/-!
Paths of files. A path is a string of bytes; it need not be valid UTF-8. Slashes
separate its segments, and a path that starts with a slash is absolute.
-/

namespace CelWatch

structure FilePath where
  bytes : List UInt8
deriving DecidableEq, Repr, Inhabited

namespace FilePath

def ofString (text : String) : FilePath :=
  ⟨text.toByteArray.toList⟩

/-- The path as text, with U+FFFD for what is not valid UTF-8. -/
def display (path : FilePath) : String :=
  String.ofList (Text.decodeLossy path.bytes)

/-- A byte as two digits in base sixteen, in upper case. -/
def hexByte (b : UInt8) : List Char :=
  let digit (n : Nat) : Char := if n < 10 then Char.ofNat (48 + n) else Char.ofNat (55 + n)
  [digit (b.toNat / 16), digit (b.toNat % 16)]

/-- The path between quotes; a byte that is not valid UTF-8 is written by
number. -/
def quoted (path : FilePath) : String :=
  let piece : Text.Chunk → List Char
    | .char c => Text.quotedChar c
    | .broken bytes => bytes.flatMap fun b => ['\\', 'x'] ++ hexByte b
  String.ofList ('"' :: (Text.chunks path.bytes).flatMap piece ++ ['"'])

def slash : UInt8 := 0x2F

/-- The pieces between slashes; at least one. -/
def piecesOf : List UInt8 → List (List UInt8)
  | [] => [[]]
  | b :: rest =>
    if b = slash then [] :: piecesOf rest
    else match piecesOf rest with
      | piece :: later => (b :: piece) :: later
      | [] => [[b]]

def pieces (path : FilePath) : List (List UInt8) := piecesOf path.bytes

/-- A piece that names nothing: an empty one or a single dot. -/
def isIdle (piece : List UInt8) : Bool := piece = [] || piece = [0x2E]

/-- The absolute path of some pieces. -/
def ofPieces (pieces : List (List UInt8)) : FilePath :=
  ⟨if pieces.isEmpty then [slash] else pieces.flatMap (slash :: ·)⟩

/-- The directories above the one that the pieces of an absolute path lead to,
the nearest first. The pieces are given in reverse. -/
def above : List (List UInt8) → List FilePath
  | [] => []
  | piece :: outer =>
    if isIdle piece then above outer
    else ofPieces (outer.dropWhile isIdle).reverse :: above outer

/-- An absolute path and the directories above it, the nearest first. -/
def ancestors (path : FilePath) : List FilePath :=
  path :: above path.pieces.tail.reverse

/-- The path of an entry of a directory. -/
def join (directory : FilePath) (name : List UInt8) : FilePath :=
  if directory.bytes = [] ∨ directory.bytes.getLast? = some slash then ⟨directory.bytes ++ name⟩
  else ⟨directory.bytes ++ slash :: name⟩

end FilePath

end CelWatch
