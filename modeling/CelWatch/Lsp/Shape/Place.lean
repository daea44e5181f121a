import CelWatch.Lsp.Shape

/-!
Places in documents, and parameters that are about a document or a place in it.
-/

namespace CelWatch.Lsp.Shape

/-- A number of 32 bits that is not negative. -/
def unsigned : Shape := .integer 0 4294967295

/-- A number of 32 bits. -/
def signed : Shape := .integer (-2147483648) 2147483647

def point : Shape := .record true [.required "line" unsigned, .required "character" unsigned]

def range : Shape := .record true [.required "start" point, .required "end" point]

def location : Shape := .record true [.required "uri" .uri, .required "range" range]

def documentId : Shape := .record true [.required "uri" .uri]

/-- What names a task whose progress the editor wants to know. -/
def token : Shape := .either signed .string

/-- For a request whose progress is shown. -/
def shown : List Field := [.optional "workDoneToken" token]

/-- For a request whose progress is shown and whose answer may come in parts. -/
def streamed : List Field := shown ++ [.optional "partialResultToken" token]

/-- Parameters for requests about a document. -/
def aboutDocument (fields : List Field) : Shape :=
  .record false (.required "textDocument" documentId :: fields)

/-- Parameters for requests about a part of a document. -/
def aboutRange (fields : List Field) : Shape :=
  aboutDocument (.required "range" range :: fields)

/-- Parameters for requests about a place in a document. -/
def aboutPlace (fields : List Field) : Shape :=
  aboutDocument (.required "position" point :: fields)

/-- Members that are truth values and may be missing. -/
def flags (names : List String) : List Field := names.map (.optional · .bool)

end CelWatch.Lsp.Shape
