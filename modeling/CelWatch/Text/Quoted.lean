import CelWatch.Text.Invisible

/-!
Text between double quotes, as messages show it: a quote and a backslash get a
backslash in front, the common controls have short forms, and every other
invisible character is written `\u{…}` with its number in base sixteen.
-/

namespace CelWatch.Text

/-- The digits of a number in base sixteen, in lower case. -/
def hexDigits (n : Nat) : List Char :=
  Nat.toDigits 16 n

/-- The written form of a character between quotes. -/
def quotedChar (c : Char) : List Char :=
  if c = '"' then ['\\', '"']
  else if c = '\\' then ['\\', '\\']
  else if c = '\n' then ['\\', 'n']
  else if c = '\r' then ['\\', 'r']
  else if c = '\t' then ['\\', 't']
  else if c = '\x00' then ['\\', '0']
  else if isInvisible c then ['\\', 'u', '\x7b'] ++ hexDigits c.toNat ++ ['\x7d']
  else [c]

/-- The quoted form of a text. -/
def quoted (text : List Char) : String :=
  String.ofList ('"' :: text.flatMap quotedChar ++ ['"'])

end CelWatch.Text
