import CelWatch.Document.Context
import CelWatch.Lsp.Shape.Capabilities

/-!
The parameters of the messages that the server acts on.
-/

namespace CelWatch.Lsp

namespace Shape

def folder : Shape := .record true [.required "uri" .uri, .required "name" .string]

def opening : Shape := .record true [
  .optional "processId" unsigned,
  .optional "rootPath" .string,
  .optional "rootUri" .uri,
  .optional "initializationOptions" .any,
  .required "capabilities" clientCapabilities,
  .optional "trace" (.word ["off", "messages", "verbose"]),
  .optional "workspaceFolders" (.list folder),
  .optional "clientInfo"
    (.record true [.required "name" .string, .optional "version" .string]),
  .optional "locale" .string]

def initialized : Shape := .record true []

def didOpen : Shape := .record true [.required "textDocument" (.record true [
  .required "uri" .uri, .required "languageId" .string, .required "version" signed,
  .required "text" .string])]

def didChange : Shape := .record true [
  .required "textDocument" (.record true [.required "uri" .uri, .required "version" signed]),
  .required "contentChanges" (.list (.record true [
    .optional "range" range, .optional "rangeLength" unsigned, .required "text" .string]))]

def didSave : Shape :=
  .record true [.required "textDocument" documentId, .optional "text" .string]

def didClose : Shape := .record true [.required "textDocument" documentId]

end Shape

namespace Params

/-- The identity that a member names. -/
def uri? (json : Json) (name : String) : Option Uri := do
  match Uri.parse (← (← json.get? name).string?) with
  | .ok uri => some uri
  | .error _ => none

def documentUri? (json : Json) : Option Uri := do
  uri? (← json.get? "textDocument") "uri"

/-- The directory that the editor works in: that of its first folder, or else
its root. -/
def root? (params : Json) : Option FilePath :=
  let first := (params.get? "workspaceFolders").bind Json.items? |>.bind List.head?
  ((first.bind (uri? · "uri")).bind Uri.filePath?).or
    ((uri? params "rootUri").bind Uri.filePath?)

/-- What the editor opens with: the directory, if there is one. -/
def opening? (params : Json) : Option (Option FilePath) :=
  (Shape.opening.read? params).map root?

/-- The snapshot of a document that was opened. -/
def opened? (params : Json) : Option Snapshot := do
  let params ← Shape.didOpen.read? params
  let document ← params.get? "textDocument"
  pure (.ofText (← uri? document "uri") (← (← document.get? "text").string?)
    (← (← document.get? "version").int?))

/-- The snapshot of a document that was changed. The first change holds the
whole text; without one the document stays as it is. -/
def changed? (params : Json) : Option (Option Snapshot) := do
  let params ← Shape.didChange.read? params
  let document ← params.get? "textDocument"
  let uri ← uri? document "uri"
  let version ← (← document.get? "version").int?
  match ← (← params.get? "contentChanges").items? with
  | [] => pure none
  | change :: _ => pure (some (.ofText uri (← (← change.get? "text").string?) version))

def saved? (params : Json) : Option Uri := do
  documentUri? (← Shape.didSave.read? params)

def closed? (params : Json) : Option Uri := do
  documentUri? (← Shape.didClose.read? params)

/-- The document whose symbols are wanted. -/
def symbols? (params : Json) : Option Uri := do
  documentUri? (← (Shape.aboutDocument Shape.streamed).read? params)

end Params

end CelWatch.Lsp
