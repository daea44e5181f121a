import CelWatch.Lsp.Shape.Place

/-!
What editors show and apply: texts, commands, edits, diagnostics, and the items
of lists and hierarchies that requests refer back to.
-/

namespace CelWatch.Lsp.Shape

def markupKind : Shape := .word ["plaintext", "markdown"]

/-- A text, plain or with its kind. -/
def documentation : Shape :=
  .either .string (.record true [.required "kind" markupKind, .required "value" .string])

def command : Shape := .record true [
  .required "title" .string, .required "command" .string, .optional "arguments" (.list .any)]

def textEdit : Shape := .record true [.required "range" range, .required "newText" .string]

/-- An edit of one text that inserts or replaces, as the editor chooses. -/
def choiceEdit : Shape := .record true [
  .required "newText" .string, .required "insert" range, .required "replace" range]

def documentEdit : Shape := .record true [
  .required "textDocument" (.record true [.required "uri" .uri, .optional "version" signed]),
  .required "edits" (.list (.either textEdit (.record false [
    .required "range" range, .required "newText" .string, .required "annotationId" .string])))]

def annotationId : Field := .optional "annotationId" .string

/-- How a file is made or renamed. -/
def makeOptions : Field :=
  .optional "options" (.record true (flags ["overwrite", "ignoreIfExists"]))

/-- A change to a file as a whole. -/
def fileOperation : Shape := .tagged "kind" [
  .mk "create" (.record true [.required "uri" .uri, makeOptions, annotationId]),
  .mk "rename" (.record true [
    .required "oldUri" .uri, .required "newUri" .uri, makeOptions, annotationId]),
  .mk "delete" (.record true [
    .required "uri" .uri,
    .optional "options" (.record true
      (flags ["recursive", "ignoreIfNotExists"] ++ [annotationId]))])]

/-- Edits of many documents, with changes to files between them. -/
def workspaceEdit : Shape := .record true [
  .optional "changes" (.dictionary .uri (.list textEdit)),
  .optional "documentChanges"
    (.either (.list documentEdit) (.list (.either fileOperation documentEdit))),
  .optional "changeAnnotations" (.dictionary .string (.record true [
    .required "label" .string, .optional "needsConfirmation" .bool,
    .optional "description" .string]))]

def diagnostic : Shape := .record true [
  .required "range" range,
  .optional "severity" signed,
  .optional "code" (.either signed .string),
  .optional "codeDescription" (.record true [.required "href" .uri]),
  .optional "source" .string,
  .required "message" .string,
  .optional "relatedInformation" (.list (.record true [
    .required "location" location, .required "message" .string])),
  .optional "tags" (.list signed),
  .optional "data" .any]

/-- An item of a hierarchy, whose tags have the given shape. -/
def hierarchyItem (tags : Shape) : Shape := .record true [
  .required "name" .string, .required "kind" signed, .optional "tags" tags,
  .optional "detail" .string, .required "uri" .uri, .required "range" range,
  .required "selectionRange" range, .optional "data" .any]

def documentLink : Shape := .record true [
  .required "range" range, .optional "target" .uri, .optional "tooltip" .string,
  .optional "data" .any]

def codeLens : Shape := .record true [
  .required "range" range, .optional "command" command, .optional "data" .any]

def completionItem : Shape := .record true [
  .required "label" .string,
  .optional "labelDetails"
    (.record true [.optional "detail" .string, .optional "description" .string]),
  .optional "kind" signed,
  .optional "detail" .string,
  .optional "documentation" documentation,
  .optional "deprecated" .bool,
  .optional "preselect" .bool,
  .optional "sortText" .string,
  .optional "filterText" .string,
  .optional "insertText" .string,
  .optional "insertTextFormat" signed,
  .optional "insertTextMode" signed,
  .optional "textEdit" (.either textEdit choiceEdit),
  .optional "additionalTextEdits" (.list textEdit),
  .optional "command" command,
  .optional "commitCharacters" (.list .string),
  .optional "data" .any,
  .optional "tags" (.list signed)]

def codeAction : Shape := .record true [
  .required "title" .string,
  .optional "kind" .string,
  .optional "diagnostics" (.list diagnostic),
  .optional "edit" workspaceEdit,
  .optional "command" command,
  .optional "isPreferred" .bool,
  .optional "disabled" (.record true [.required "reason" .string]),
  .optional "data" .any]

def inlayHint : Shape := .record true [
  .required "position" point,
  .required "label" (.either .string (.list (.record true [
    .required "value" .string, .optional "tooltip" documentation, .optional "location" location,
    .optional "command" command]))),
  .optional "kind" signed,
  .optional "textEdits" (.list textEdit),
  .optional "tooltip" documentation,
  .optional "paddingLeft" .bool,
  .optional "paddingRight" .bool,
  .optional "data" .any]

def workspaceSymbol : Shape := .record true [
  .required "name" .string, .required "kind" signed, .optional "tags" (.list signed),
  .optional "containerName" .string, .required "location" (.either location documentId),
  .optional "data" .any]

/-- The signatures that the editor shows. -/
def signatureHelp : Shape := .record true [
  .required "signatures" (.list (.record true [
    .required "label" .string,
    .optional "documentation" documentation,
    .optional "parameters" (.list (.record true [
      .required "label" (.either .string (.tuple [unsigned, unsigned])),
      .optional "documentation" documentation])),
    .optional "activeParameter" unsigned])),
  .optional "activeSignature" unsigned,
  .optional "activeParameter" unsigned]

end CelWatch.Lsp.Shape
