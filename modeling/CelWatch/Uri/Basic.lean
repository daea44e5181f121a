import CelWatch.FilePath
import CelWatch.Uri.Percent

/-!
Document identities. An identity is an absolute URI in normal form, and two
identities are the same when their texts are.
-/

namespace CelWatch

/-- An absolute URI, by its normal form. -/
structure Uri where
  text : String
deriving DecidableEq, Repr, Inhabited

namespace Uri

/-- Identities are ordered by their texts. -/
instance : LT Uri := ⟨fun a b => a.text < b.text⟩

instance : DecidableLT Uri := fun a b => inferInstanceAs (Decidable (a.text < b.text))

theorem lt_irrefl (uri : Uri) : ¬ uri < uri := String.lt_irrefl uri.text

theorem lt_trans {a b c : Uri} (hab : a < b) (hbc : b < c) : a < c := String.lt_trans hab hbc

theorem lt_of_not_lt {a b : Uri} (hless : ¬ a < b) (hne : a ≠ b) : b < a := by
  refine String.not_le.mp fun hle => hne ?_
  have htext : a.text = b.text := String.le_antisymm hle (String.not_lt.mp hless)
  cases a
  cases b
  exact congrArg Uri.mk htext

/-- The characters after a beginning of the text, when it begins so. -/
def afterMark? (mark text : List Char) : Option (List Char) :=
  if mark.isPrefixOf text then some (text.drop mark.length) else none

def isDriveLetter (c : Char) : Bool :=
  ('a' ≤ c && c ≤ 'z') || ('A' ≤ c && c ≤ 'Z')

/-- Whether a path ends in a letter and a colon or bar, which name a drive. -/
def endsInDrive (bytes : List UInt8) : Bool :=
  match bytes.reverse with
  | mark :: letter :: _ :: _ =>
    (mark = 0x3A || mark = 0x7C) && isDriveLetter (Char.ofNat letter.toNat)
  | _ => false

/-- The local path of a `file:` URI that names no host. Query and fragment
take no part in it. -/
def filePath? (uri : Uri) : Option FilePath := do
  let rest ← afterMark? "file://".toList uri.text.toList
  if rest.head? ≠ some '/' then none
  let path := rest.takeWhile fun c => c != '?' && c != '#'
  let bytes := percentDecode (Text.encode path)
  pure ⟨if endsInDrive bytes then bytes ++ [0x2F] else bytes⟩

end Uri

end CelWatch
