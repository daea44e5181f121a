import CelWatch.Uri.Basic

/-!
What the identity of a document says about it: its extension, the path that an
engine is given, and whether and how the document is parsed.
-/

namespace CelWatch

/-- The part after the last dot; the whole text when there is no dot. -/
def extensionOf (identity : String) : String :=
  String.ofList (identity.toList.reverse.takeWhile (· != '.')).reverse

def Uri.extension (uri : Uri) : String :=
  extensionOf uri.text

/-- The path that an engine is given: the local path of a file, or else a
placeholder with the extension of the identity. -/
def Uri.derivedPath (uri : Uri) : FilePath :=
  uri.filePath?.getD (FilePath.ofString ("nofile." ++ uri.extension))

/-- How a document is parsed: as one expression, or as host text with embedded
expressions. -/
inductive DocumentKind where
  | source
  | template
deriving DecidableEq, Repr

def DocumentKind.isTemplate : DocumentKind → Bool
  | .source => false
  | .template => true

/-- The extensions of the documents that are parsed. -/
structure AllowList where
  sources : List String
  templates : List String
deriving DecidableEq, Repr, Inhabited

namespace AllowList

/-- An extension may be given with a leading dot. -/
def withoutDot (extension : String) : String :=
  match extension.toList with
  | '.' :: rest => String.ofList rest
  | _ => extension

def ofExtensions (sources templates : List String) : AllowList :=
  ⟨sources.map withoutDot, templates.map withoutDot⟩

def standard : AllowList :=
  ofExtensions ["cel"] ["celtmpl"]

/-- How a document is parsed; `none` when it is not. An extension in both
lists is a template's. -/
def classify (list : AllowList) (uri : Uri) : Option DocumentKind :=
  if uri.extension ∈ list.templates then some .template
  else if uri.extension ∈ list.sources then some .source
  else none

end AllowList

end CelWatch
