import CelWatch.Text.Composed.Syllable
import CelWatch.Text.Composed.Table

/-!
The composed form of text. Texts that look the same because the marks on a
letter are written apart or as one with it, or in another order, have the same
composed form: all is taken apart, the marks are put in order, and what can be
put together is.
-/

namespace CelWatch.Text

/-- The characters that a character is made of, itself when it is not made of
others. -/
def parts (c : Char) : List Char :=
  (Syllable.parts? c <|> composites.get? c <|> dissolved.get? c).getD [c]

/-- The class of a mark; zero for what is no mark that moves. -/
def markClass (c : Char) : Nat :=
  ((markClasses.find? fun (_, set) => set.contains c).map Prod.fst).getD 0

/-- Puts a character in front of ordered ones, behind the marks that come
before it. -/
def place (c : Char) : List Char → List Char
  | [] => [c]
  | d :: rest =>
    if 0 < markClass d && markClass d < markClass c then d :: place c rest else c :: d :: rest

/-- Everything taken apart, with the marks of each letter in order. -/
def decomposed (text : List Char) : List Char :=
  (text.flatMap parts).foldr place []

/-- The character that a letter and a mark make. -/
def join? (letter mark : Char) : Option Char :=
  Syllable.join? letter mark <|> composites.source? (parts letter ++ [mark])

/-- Puts together what follows a letter. The marks `apart`, the last of them
first, do not go with the letter; one that would have to pass a mark of its own
class does not either. -/
def composeFrom (letter : Char) (apart : List Char) : List Char → List Char
  | [] => letter :: apart.reverse
  | c :: rest =>
    let blocked := apart.head?.any fun mark => markClass mark ≥ markClass c
    match if blocked then none else join? letter c with
    | some whole => composeFrom whole apart rest
    | none =>
      if markClass c = 0 then letter :: apart.reverse ++ composeFrom c [] rest
      else composeFrom letter (c :: apart) rest

/-- The composed form of a text. -/
def composed (text : List Char) : List Char :=
  let all := decomposed text
  let front := all.takeWhile fun c => markClass c != 0
  match all.dropWhile fun c => markClass c != 0 with
  | [] => front
  | letter :: rest => front ++ composeFrom letter [] rest

end CelWatch.Text
