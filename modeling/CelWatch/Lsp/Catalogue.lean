import CelWatch.Lsp.Params

/-!
Messages of the protocol that the server knows and does not act on. A request
among them is refused, but not before its parameters were looked at.
-/

namespace CelWatch.Lsp.Catalogue

open Shape

/-- Parameters for requests about an item of a hierarchy. -/
def aboutItem (tags : Shape) : Shape :=
  .record false (.required "item" (hierarchyItem tags) :: streamed)

/-- How a text is formatted; a formatter may have options of its own. -/
def formatting : Field := .required "options" (.openRecord
  ([.required "tabSize" unsigned, .required "insertSpaces" .bool] ++
    flags ["trimTrailingWhitespace", "insertFinalNewline", "trimFinalNewlines"])
  (.either .bool (.either signed .string)))

/-- A list of records that name files. -/
def files (names : List String) : Shape :=
  .record true [.required "files" (.list (.record true (names.map fun name =>
    .required name .string)))]

/-- Requests about a place in a document. -/
def placeRequests : List (String × Shape) := [
  ("textDocument/declaration", aboutPlace streamed),
  ("textDocument/definition", aboutPlace streamed),
  ("textDocument/typeDefinition", aboutPlace streamed),
  ("textDocument/implementation", aboutPlace streamed),
  ("textDocument/references", aboutPlace
    (.required "context" (.record true [.required "includeDeclaration" .bool]) :: streamed)),
  ("textDocument/prepareCallHierarchy", aboutPlace shown),
  ("textDocument/prepareTypeHierarchy", aboutPlace shown),
  ("textDocument/documentHighlight", aboutPlace streamed),
  ("textDocument/hover", aboutPlace shown),
  ("textDocument/moniker", aboutPlace streamed),
  ("textDocument/completion", aboutPlace (.optional "context" (.record true [
    .required "triggerKind" signed, .optional "triggerCharacter" .string]) :: streamed)),
  ("textDocument/signatureHelp", aboutPlace (.optional "context" (.record true [
    .required "triggerKind" signed, .optional "triggerCharacter" .string,
    .required "isRetrigger" .bool, .optional "activeSignatureHelp" signatureHelp]) :: shown)),
  ("textDocument/onTypeFormatting", aboutPlace [.required "ch" .string, formatting]),
  ("textDocument/rename", aboutPlace (.required "newName" .string :: shown)),
  ("textDocument/prepareRename",
    .record true [.required "textDocument" documentId, .required "position" point]),
  ("textDocument/linkedEditingRange", aboutPlace shown)]

/-- Requests about a document or a part of it. -/
def documentRequests : List (String × Shape) := [
  ("textDocument/willSaveWaitUntil",
    .record true [.required "textDocument" documentId, .required "reason" signed]),
  ("textDocument/documentLink", aboutDocument streamed),
  ("textDocument/codeLens", aboutDocument streamed),
  ("textDocument/foldingRange", aboutDocument streamed),
  ("textDocument/selectionRange",
    aboutDocument (.required "positions" (.list point) :: streamed)),
  ("textDocument/semanticTokens/full", aboutDocument streamed),
  ("textDocument/semanticTokens/full/delta",
    aboutDocument (.required "previousResultId" .string :: streamed)),
  ("textDocument/semanticTokens/range", aboutRange streamed),
  ("textDocument/inlineValue", aboutRange (.required "context" (.record true [
    .required "frameId" signed, .required "stoppedLocation" range]) :: shown)),
  ("textDocument/inlayHint", aboutRange shown),
  ("textDocument/diagnostic", aboutDocument
    ([.optional "identifier" .string, .optional "previousResultId" .string] ++ streamed)),
  ("textDocument/codeAction", aboutRange (.required "context" (.record true [
    .required "diagnostics" (.list diagnostic), .optional "only" (.list .string),
    .optional "triggerKind" signed]) :: streamed)),
  ("textDocument/documentColor", aboutDocument streamed),
  ("textDocument/colorPresentation", aboutRange (.required "color" (.record true
    (["red", "green", "blue", "alpha"].map (.required · .number))) :: streamed)),
  ("textDocument/formatting", aboutDocument (formatting :: shown)),
  ("textDocument/rangeFormatting", aboutRange (formatting :: shown))]

/-- Requests about things that an earlier answer named. -/
def itemRequests : List (String × Shape) := [
  ("callHierarchy/incomingCalls", aboutItem (.list signed)),
  ("callHierarchy/outgoingCalls", aboutItem (.list signed)),
  ("typeHierarchy/supertypes", aboutItem signed),
  ("typeHierarchy/subtypes", aboutItem signed),
  ("documentLink/resolve", documentLink),
  ("codeLens/resolve", codeLens),
  ("inlayHint/resolve", inlayHint),
  ("completionItem/resolve", completionItem),
  ("codeAction/resolve", codeAction),
  ("workspaceSymbol/resolve", workspaceSymbol)]

/-- Requests about the workspace. -/
def workspaceRequests : List (String × Shape) := [
  ("workspace/diagnostic", .record false ([
    .optional "identifier" .string,
    .required "previousResultIds"
      (.list (.record true [.required "uri" .uri, .required "value" .string]))] ++ streamed)),
  ("workspace/symbol", .record false (.required "query" .string :: streamed)),
  ("workspace/willCreateFiles", files ["uri"]),
  ("workspace/willRenameFiles", files ["oldUri", "newUri"]),
  ("workspace/willDeleteFiles", files ["uri"]),
  ("workspace/executeCommand", .record false ([
    .required "command" .string, .defaulted "arguments" (.list .any)] ++ shown))]

/-- The requests that are refused, each with the shape of its parameters. -/
def refused : List (String × Shape) :=
  placeRequests ++ documentRequests ++ itemRequests ++ workspaceRequests

/-- The notifications that change nothing. -/
def ignored : List String := [
  "textDocument/willSave", "workspace/didChangeConfiguration",
  "workspace/didChangeWorkspaceFolders", "workspace/didCreateFiles",
  "workspace/didRenameFiles", "workspace/didDeleteFiles",
  "workspace/didChangeWatchedFiles"]

/-- The notification that takes a request back. No request here waits for its
answer, so it comes too late in every state. -/
def cancellation : String := "$/cancelRequest"

end CelWatch.Lsp.Catalogue
