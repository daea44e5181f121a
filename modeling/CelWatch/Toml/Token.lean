import CelWatch.Text.Digit

/-!
Lexemes of TOML. The scanner is an automaton over the characters of the text;
what it has read of an unfinished lexeme is its state. Blanks and comments
separate lexemes and are none; the end of a line is one.
-/

namespace CelWatch.Toml

open CelWatch.Text (digit? isDecimal)

/-- A bracket is `isGlued` when nothing stands between it and the lexeme before
it: only then do two brackets mark a row of an array of tables. -/
inductive Token where
  | newline
  | equals
  | comma
  | openBracket (isGlued : Bool)
  | closeBracket (isGlued : Bool)
  | openBrace
  | closeBrace
  /-- A run of letters, digits and the marks `_ + - . :`, so that a number, a
  date and a dotted key are each one lexeme. A date takes the time after a
  single space with it. -/
  | word (text : List Char)
  /-- A text between quotes. In a block the quotes are triple and line ends are
  allowed. -/
  | text (value : String) (isBlock : Bool)
deriving DecidableEq, Repr

/-- How a text is quoted: with escapes, or literally. -/
inductive Quote where
  | basic
  | literal
deriving DecidableEq, Repr

def Quote.mark : Quote → Char
  | .basic => '"'
  | .literal => '\''

def Quote.ofMark? (c : Char) : Option Quote :=
  if c = '"' then some .basic else if c = '\'' then some .literal else none

/-- Where a scanner stands in a block. -/
inductive BlockPlace where
  /-- Right after the opening quotes, where a line end does not count. -/
  | opened
  | inside
  /-- After a carriage return, which only a line feed may follow. -/
  | carriage (atOpening : Bool)
  /-- After one to four quotes in a row. -/
  | marks (count : Nat)
  /-- After a backslash that ends its line; blanks up to the line end. -/
  | folding
  | foldingCarriage
  /-- On the lines after such a backslash, whose leading blanks do not count. -/
  | folded
deriving DecidableEq, Repr

/-- What a scanner has read of the lexeme it is in. Characters are kept in
reverse. -/
inductive Scanner where
  | between (isGlued : Bool)
  | comment
  | carriage
  | word (read : List Char)
  /-- After a date and a space, which belongs to the word if a digit follows. -/
  | dateSpace (read : List Char)
  /-- After one or two opening quotes. -/
  | opening (quote : Quote) (count : Nat)
  | line (quote : Quote) (read : List Char)
  | block (quote : Quote) (read : List Char) (place : BlockPlace)
  | escape (isBlock : Bool) (read : List Char)
  | code (isBlock : Bool) (read : List Char) (value missing : Nat)
deriving Repr

def isBlankChar (c : Char) : Bool := c = ' ' || c = '\t'

/-- The characters that may stand in comments and texts. -/
def isTextChar (c : Char) : Bool := c = '\t' || (0x20 ≤ c.toNat && c.toNat ≠ 0x7F)

/-- The characters of a key without quotes. -/
def isKeyChar (c : Char) : Bool :=
  ('a' ≤ c && c ≤ 'z') || ('A' ≤ c && c ≤ 'Z') || isDecimal c || c = '_' || c = '-'

def isWordChar (c : Char) : Bool := isKeyChar c || c = '+' || c = '.' || c = ':'

/-- Whether a word has the shape of a date. -/
def isDateShaped (word : List Char) : Bool :=
  word.map isDecimal ==
    [true, true, true, true, false, true, true, false, true, true] &&
    word[4]? == some '-' && word[7]? == some '-'

/-- The character that a letter after a backslash stands for. -/
def escaped? : Char → Option Char
  | 'b' => some '\x08'
  | 't' => some '\t'
  | 'n' => some '\n'
  | 'f' => some '\x0c'
  | 'r' => some '\r'
  | '"' => some '"'
  | '\\' => some '\\'
  | _ => none

/-- The character with a code point; surrogates are none. -/
def scalar? (value : Nat) : Option Char :=
  if value < 0xD800 ∨ (0xE000 ≤ value ∧ value < 0x110000) then some (Char.ofNat value) else none

/-- The lexemes of one character. -/
def punctuation? (isGlued : Bool) : Char → Option Token
  | '=' => some .equals
  | ',' => some .comma
  | '[' => some (.openBracket isGlued)
  | ']' => some (.closeBracket isGlued)
  | '\x7b' => some .openBrace
  | '\x7d' => some .closeBrace
  | _ => none

namespace Scanner

/-- Takes one character between lexemes. -/
def start? (isGlued : Bool) (c : Char) : Option (Scanner × List Token) :=
  if isBlankChar c then some (.between false, [])
  else if c = '\n' then some (.between false, [.newline])
  else if c = '\r' then some (.carriage, [])
  else if c = '#' then some (.comment, [])
  else match Quote.ofMark? c, punctuation? isGlued c with
    | some quote, _ => some (.opening quote 1, [])
    | none, some token => some (.between true, [token])
    | none, none => if isWordChar c then some (.word [c], []) else none

/-- Ends a lexeme before a character and takes the character after it. -/
def emit? (token : Token) (c : Char) : Option (Scanner × List Token) := do
  let (next, tokens) ← start? true c
  pure (next, token :: tokens)

def textToken (read : List Char) (isBlock : Bool) : Token :=
  .text (String.ofList read.reverse) isBlock

/-- Where a text goes on after an escape. -/
def resume (isBlock : Bool) (read : List Char) : Scanner :=
  if isBlock then .block .basic read .inside else .line .basic read

def lineStep? (quote : Quote) (read : List Char) (c : Char) : Option (Scanner × List Token) :=
  if c = quote.mark then some (.between true, [textToken read false])
  else if c = '\\' ∧ quote = .basic then some (.escape false read, [])
  else if isTextChar c then some (.line quote (c :: read), [])
  else none

/-- Takes one character of a block that is no part of a run of quotes. -/
def insideStep? (quote : Quote) (read : List Char) (c : Char) : Option (Scanner × List Token) :=
  if c = quote.mark then some (.block quote read (.marks 1), [])
  else if c = '\\' ∧ quote = .basic then some (.escape true read, [])
  else if c = '\n' then some (.block quote ('\n' :: read) .inside, [])
  else if c = '\r' then some (.block quote read (.carriage false), [])
  else if isTextChar c then some (.block quote (c :: read) .inside, [])
  else none

/-- Takes one character after `count` quotes in a block. Three quotes close it;
up to two more before them belong to the text. -/
def marksStep? (quote : Quote) (read : List Char) (count : Nat) (c : Char) :
    Option (Scanner × List Token) :=
  if c = quote.mark then
    if count < 4 then some (.block quote read (.marks (count + 1)), [])
    else some (.between true, [textToken (quote.mark :: quote.mark :: read) true])
  else if count < 3 then
    insideStep? quote (List.replicate count quote.mark ++ read) c
  else
    emit? (textToken (List.replicate (count - 3) quote.mark ++ read) true) c

def blockStep? (quote : Quote) (read : List Char) (place : BlockPlace) (c : Char) :
    Option (Scanner × List Token) :=
  match place with
  | .opened =>
    if c = '\n' then some (.block quote read .inside, [])
    else if c = '\r' then some (.block quote read (.carriage true), [])
    else insideStep? quote read c
  | .inside => insideStep? quote read c
  | .carriage atOpening =>
    if c = '\n' then
      some (.block quote (if atOpening then read else '\n' :: read) .inside, [])
    else none
  | .marks count => marksStep? quote read count c
  | .folding =>
    if isBlankChar c then some (.block quote read .folding, [])
    else if c = '\n' then some (.block quote read .folded, [])
    else if c = '\r' then some (.block quote read .foldingCarriage, [])
    else none
  | .foldingCarriage =>
    if c = '\n' then some (.block quote read .folded, []) else none
  | .folded =>
    if isBlankChar c || c = '\n' then some (.block quote read .folded, [])
    else if c = '\r' then some (.block quote read .foldingCarriage, [])
    else insideStep? quote read c

def escapeStep? (isBlock : Bool) (read : List Char) (c : Char) :
    Option (Scanner × List Token) :=
  if c = 'u' then some (.code isBlock read 0 4, [])
  else if c = 'U' then some (.code isBlock read 0 8, [])
  else match escaped? c with
    | some e => some (resume isBlock (e :: read), [])
    | none => if isBlock then blockStep? .basic read .folding c else none

/-- Takes one character; gives the lexemes that it completes. -/
def step? (scanner : Scanner) (c : Char) : Option (Scanner × List Token) :=
  match scanner with
  | .between isGlued => start? isGlued c
  | .comment =>
    if c = '\n' ∨ c = '\r' then start? false c
    else if isTextChar c then some (.comment, [])
    else none
  | .carriage => if c = '\n' then some (.between false, [.newline]) else none
  | .word read =>
    if isWordChar c then some (.word (c :: read), [])
    else if c = ' ' ∧ isDateShaped read.reverse then some (.dateSpace read, [])
    else emit? (.word read.reverse) c
  | .dateSpace read =>
    if isDecimal c then some (.word (c :: ' ' :: read), [])
    else do
      let (next, tokens) ← start? false c
      pure (next, .word read.reverse :: tokens)
  | .opening quote count =>
    if c = quote.mark then
      if count = 1 then some (.opening quote 2, []) else some (.block quote [] .opened, [])
    else if count = 1 then lineStep? quote [] c
    else emit? (textToken [] false) c
  | .line quote read => lineStep? quote read c
  | .block quote read place => blockStep? quote read place c
  | .escape isBlock read => escapeStep? isBlock read c
  | .code isBlock read value missing => do
    let value := value * 16 + (← digit? c)
    if missing ≤ 1 then
      let char ← scalar? value
      pure (resume isBlock (char :: read), [])
    else
      pure (.code isBlock read value (missing - 1), [])

/-- The lexemes that the end of the text completes. -/
def finish? : Scanner → Option (List Token)
  | .between _ => some []
  | .comment => some []
  | .word read => some [.word read.reverse]
  | .dateSpace read => some [.word read.reverse]
  | .opening _ 2 => some [textToken [] false]
  | .block quote read (.marks count) =>
    if count < 3 then none
    else some [textToken (List.replicate (count - 3) quote.mark ++ read) true]
  | _ => none

end Scanner

/-- Takes one character more; the lexemes read so far are kept in reverse. -/
def advance? (state : Scanner × List Token) (c : Char) : Option (Scanner × List Token) := do
  let (next, tokens) ← state.1.step? c
  pure (next, tokens.reverse ++ state.2)

/-- A byte order mark in front of a text does not count. -/
def dropByteOrderMark : List Char → List Char
  | [] => []
  | c :: rest => if c.toNat = 0xFEFF then rest else c :: rest

/-- The lexemes of a text, unless some part of it is no lexeme. -/
def tokens? (text : String) : Option (List Token) := do
  let (scanner, read) ← (dropByteOrderMark text.toList).foldlM advance? (.between false, [])
  pure (read.reverse ++ (← scanner.finish?))

end CelWatch.Toml
