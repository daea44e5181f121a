import CelWatch.Text.Slice

/-!
Templates: free text in which `${ body }` marks an embedded expression. `$${`
is a literal `${` and opens nothing. The braces of a body nest, and braces
inside a quoted string of a body do not count.

Both scans read the text byte by byte and give byte offsets.
-/

namespace CelWatch.Template

/-- One embedded expression: the text between its delimiters, and the offset
of that text in the template. -/
structure Region where
  source : String
  offset : Nat
deriving DecidableEq, Repr, Inhabited

/-- Where a span of the body lies in the template. -/
def Region.spanInHost (region : Region) (span : ByteSpan) : ByteSpan :=
  span.shift region.offset

inductive TemplateError where
  /-- No brace closes the interpolation that opens at `offset`. -/
  | unterminated (offset : Nat)
deriving DecidableEq, Repr

def TemplateError.message : TemplateError → String
  | .unterminated _ => "unterminated interpolation: missing closing '\x7d'"

def dollar : UInt8 := 0x24
def openBrace : UInt8 := 0x7B
def closeBrace : UInt8 := 0x7D
def backslash : UInt8 := 0x5C
def singleQuote : UInt8 := 0x27
def doubleQuote : UInt8 := 0x22

def isQuote (b : UInt8) : Bool :=
  b = singleQuote || b = doubleQuote

/-- Number of bytes before the brace that closes a body, read from inside
`quote` (if any) and under `depth` open braces. A backslash inside a string
passes over the byte that follows it. -/
def closing? : (quote : Option UInt8) → (depth : Nat) → List UInt8 → Option Nat
  | _, _, [] => none
  | some _, _, [_] => none
  | some quote, depth, b :: next :: rest =>
    if b = backslash then
      (closing? (some quote) depth rest).map (· + 2)
    else if b = quote then
      (closing? none depth (next :: rest)).map (· + 1)
    else
      (closing? (some quote) depth (next :: rest)).map (· + 1)
  | none, depth, b :: rest =>
    if isQuote b then
      (closing? (some b) depth rest).map (· + 1)
    else if b = openBrace then
      (closing? none (depth + 1) rest).map (· + 1)
    else if b = closeBrace then
      match depth with
      | 0 => some 0
      | depth + 1 => (closing? none depth rest).map (· + 1)
    else
      (closing? none depth rest).map (· + 1)

/-- The spans of the bodies in `bytes`, which start at `offset`. -/
def spansFrom (offset : Nat) : List UInt8 → Except TemplateError (List ByteSpan)
  | [] => .ok []
  | b :: rest =>
    if [dollar, dollar, openBrace].isPrefixOf (b :: rest) then
      spansFrom (offset + 3) (rest.drop 2)
    else if [dollar, openBrace].isPrefixOf (b :: rest) then
      match closing? none 0 (rest.drop 1) with
      | none => .error (.unterminated offset)
      | some length => do
        let span : ByteSpan := ⟨offset + 2, offset + 2 + length⟩
        let spans ← spansFrom (offset + 2 + length + 1) ((rest.drop 1).drop (length + 1))
        pure (span :: spans)
    else
      spansFrom (offset + 1) rest
termination_by bytes => bytes.length
decreasing_by all_goals simp; try omega

/-- The bytes of a text. -/
def bytesOf (text : String) : List UInt8 :=
  text.toByteArray.toList

/-- The spans of all bodies of a template, in order. -/
def bodySpans (text : String) : Except TemplateError (List ByteSpan) :=
  spansFrom 0 (bytesOf text)

/-- The embedded expressions of a template, in order. -/
def regions (text : String) : Except TemplateError (List Region) :=
  (bodySpans text).map fun spans =>
    spans.map fun span => ⟨Text.slice text.toList span, span.start⟩

end CelWatch.Template
