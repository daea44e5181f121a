import CelWatch.Text.Utf8

/-!
Percent-encoding. Each part of a URI has its own set of ASCII characters that
are written `%xx`; all other characters outside printable ASCII always are.
-/

namespace CelWatch.Uri

/-- C0 controls and everything from DEL on. -/
def isControl (c : Char) : Bool :=
  c.toNat < 0x20 || 0x7E < c.toNat

def inFragmentSet (c : Char) : Bool :=
  isControl c || [' ', '"', '<', '>', '`'].contains c

def inQuerySet (c : Char) : Bool :=
  isControl c || [' ', '"', '#', '<', '>'].contains c

def inSpecialQuerySet (c : Char) : Bool :=
  inQuerySet c || c = '\''

def inPathSet (c : Char) : Bool :=
  inFragmentSet c || ['#', '?', '\x7b', '\x7d'].contains c

def inUserSet (c : Char) : Bool :=
  inPathSet c || ['/', ':', ';', '=', '@', '[', '\\', ']', '^', '|'].contains c

def upperHex (n : Nat) : Char :=
  if n < 10 then Char.ofNat (48 + n) else Char.ofNat (55 + n)

def percentByte (b : UInt8) : List Char :=
  ['%', upperHex (b.toNat / 16), upperHex (b.toNat % 16)]

/-- Writes the characters of a set as `%xx`, byte by byte. -/
def percentEncode (inSet : Char → Bool) (text : List Char) : List Char :=
  text.flatMap fun c => if inSet c then (Text.encode [c]).flatMap percentByte else [c]

def hexValue? (b : UInt8) : Option UInt8 :=
  if 0x30 ≤ b && b ≤ 0x39 then some (b - 0x30)
  else if 0x41 ≤ b && b ≤ 0x46 then some (b - 0x37)
  else if 0x61 ≤ b && b ≤ 0x66 then some (b - 0x57)
  else none

/-- The byte that two digits after a `%` stand for. -/
def escapedByte? : List UInt8 → Option UInt8
  | high :: low :: _ => do
    let high ← hexValue? high
    let low ← hexValue? low
    pure (high * 16 + low)
  | _ => none

/-- Replaces each `%xx`; a `%` that starts none stays. -/
def percentDecode : List UInt8 → List UInt8
  | [] => []
  | b :: rest =>
    match if b = 0x25 then escapedByte? rest else none with
    | some byte => byte :: percentDecode (rest.drop 2)
    | none => b :: percentDecode rest
termination_by bytes => bytes.length
decreasing_by all_goals simp; try omega

end CelWatch.Uri
