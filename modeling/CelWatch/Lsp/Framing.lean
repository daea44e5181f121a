import CelWatch.Json.Basic

/-!
Messages on a stream of bytes: header lines, an empty line, and the text of a
JSON value. Of the headers only the length of the text counts.
-/

namespace CelWatch.Lsp.Framing

/-- The name of the header with the length of the text in bytes. Its letters may
be of either case. -/
def lengthHeader : List Char := "content-length:".toList

/-- The length that a header line gives. -/
def contentLength? (line : String) : Option Nat :=
  let lower := line.toList.map Char.toLower
  if lengthHeader.isPrefixOf lower then
    let value := (line.toList.drop lengthHeader.length).filter fun c => !c.isWhitespace
    (String.ofList value).toNat?
  else none

/-- Whether a line ends the headers. -/
def isEnd (line : String) : Bool := line.toList.all Char.isWhitespace

/-- A value as it is sent. -/
def frame (json : Json) : String :=
  let text := json.render
  "Content-Length: " ++ toString text.utf8ByteSize ++ "\r\n\r\n" ++ text

end CelWatch.Lsp.Framing
