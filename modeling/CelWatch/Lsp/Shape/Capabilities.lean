import CelWatch.Lsp.Shape.Content

/-!
What an editor says it can do. Almost all of it may be missing.
-/

namespace CelWatch.Lsp.Shape

/-- An ability that may be there, with its details. -/
def ability (name : String) (fields : List Field) : Field :=
  .optional name (.record true fields)

def dynamicFlag : Field := .optional "dynamicRegistration" .bool

/-- An ability about which only its registration is said. -/
def plainAbility (name : String) : Field := ability name [dynamicFlag]

/-- An ability about which flags are said beside its registration. -/
def flagAbility (name : String) (names : List String) : Field :=
  ability name (dynamicFlag :: flags names)

/-- The values of an enumeration that the editor knows. -/
def values (name : String) (value : Shape) : Field :=
  ability name [.optional "valueSet" (.list value)]

/-- The properties that the editor can ask for later. -/
def resolveSupport : Field :=
  ability "resolveSupport" [.required "properties" (.list .string)]

/-- The tags that the editor knows; older editors say only whether they know any. -/
def tagSupport : Field := .defaulted "tagSupport" (.either .null (.either .bool
  (.record true [.required "valueSet" (.list signed)])))

def workspaceAbilities : List Field := [
  .optional "applyEdit" .bool,
  ability "workspaceEdit" [
    .optional "documentChanges" .bool,
    .optional "resourceOperations" (.list (.word ["create", "rename", "delete"])),
    .optional "failureHandling"
      (.word ["abort", "transactional", "textOnlyTransactional", "undo"]),
    .optional "normalizesLineEndings" .bool,
    ability "changeAnnotationSupport" (flags ["groupsOnLabel"])],
  plainAbility "didChangeConfiguration",
  flagAbility "didChangeWatchedFiles" ["relativePatternSupport"],
  ability "symbol" [dynamicFlag, values "symbolKind" signed, tagSupport, resolveSupport],
  plainAbility "executeCommand",
  .optional "workspaceFolders" .bool,
  .optional "configuration" .bool,
  ability "semanticTokens" (flags ["refreshSupport"]),
  ability "codeLens" (flags ["refreshSupport"]),
  flagAbility "fileOperations"
    ["didCreate", "willCreate", "didRename", "willRename", "didDelete", "willDelete"],
  ability "inlineValue" (flags ["refreshSupport"]),
  ability "inlayHint" (flags ["refreshSupport"]),
  ability "diagnostic" (flags ["refreshSupport"])]

def completionAbility : Field := ability "completion" [
  dynamicFlag,
  ability "completionItem" [
    .optional "snippetSupport" .bool,
    .optional "commitCharactersSupport" .bool,
    .optional "documentationFormat" (.list markupKind),
    .optional "deprecatedSupport" .bool,
    .optional "preselectSupport" .bool,
    tagSupport,
    .optional "insertReplaceSupport" .bool,
    resolveSupport,
    ability "insertTextModeSupport" [.required "valueSet" (.list signed)],
    .optional "labelDetailsSupport" .bool],
  values "completionItemKind" signed,
  .optional "contextSupport" .bool,
  .optional "insertTextMode" signed,
  ability "completionList" [.optional "itemDefaults" (.list .string)]]

def signatureAbility : Field := ability "signatureHelp" [
  dynamicFlag,
  ability "signatureInformation" [
    .optional "documentationFormat" (.list markupKind),
    ability "parameterInformation" (flags ["labelOffsetSupport"]),
    .optional "activeParameterSupport" .bool],
  .optional "contextSupport" .bool]

def codeActionAbility : Field := ability "codeAction" [
  dynamicFlag,
  ability "codeActionLiteralSupport" [
    .required "codeActionKind" (.record true [.required "valueSet" (.list .string)])],
  .optional "isPreferredSupport" .bool,
  .optional "disabledSupport" .bool,
  .optional "dataSupport" .bool,
  resolveSupport,
  .optional "honorsChangeAnnotations" .bool]

def tokenAbility : Field := ability "semanticTokens" [
  dynamicFlag,
  .required "requests" (.record true [
    .optional "range" .bool,
    .optional "full" (.either .bool (.record true (flags ["delta"])))]),
  .required "tokenTypes" (.list .string),
  .required "tokenModifiers" (.list .string),
  .required "formats" (.list .string),
  .optional "overlappingTokenSupport" .bool,
  .optional "multilineTokenSupport" .bool,
  .optional "serverCancelSupport" .bool,
  .optional "augmentsSyntaxTokens" .bool]

def documentAbilities : List Field := [
  flagAbility "synchronization" ["willSave", "willSaveWaitUntil", "didSave"],
  completionAbility,
  ability "hover" [dynamicFlag, .optional "contentFormat" (.list markupKind)],
  signatureAbility,
  plainAbility "references",
  plainAbility "documentHighlight",
  ability "documentSymbol" [
    dynamicFlag, values "symbolKind" signed,
    .optional "hierarchicalDocumentSymbolSupport" .bool, tagSupport],
  plainAbility "formatting",
  plainAbility "rangeFormatting",
  plainAbility "onTypeFormatting",
  flagAbility "declaration" ["linkSupport"],
  flagAbility "definition" ["linkSupport"],
  flagAbility "typeDefinition" ["linkSupport"],
  flagAbility "implementation" ["linkSupport"],
  codeActionAbility,
  plainAbility "codeLens",
  flagAbility "documentLink" ["tooltipSupport"],
  plainAbility "colorProvider",
  ability "rename" [
    dynamicFlag, .optional "prepareSupport" .bool,
    .optional "prepareSupportDefaultBehavior" signed,
    .optional "honorsChangeAnnotations" .bool],
  ability "publishDiagnostics" [
    .optional "relatedInformation" .bool, tagSupport, .optional "versionSupport" .bool,
    .optional "codeDescriptionSupport" .bool, .optional "dataSupport" .bool],
  ability "foldingRange" [
    dynamicFlag, .optional "rangeLimit" unsigned, .optional "lineFoldingOnly" .bool,
    values "foldingRangeKind" (.word ["comment", "imports", "region"]),
    ability "foldingRange" (flags ["collapsedText"])],
  plainAbility "selectionRange",
  plainAbility "linkedEditingRange",
  plainAbility "callHierarchy",
  tokenAbility,
  plainAbility "moniker",
  plainAbility "typeHierarchy",
  plainAbility "inlineValue",
  ability "inlayHint" [dynamicFlag, resolveSupport],
  flagAbility "diagnostic" ["relatedDocumentSupport"]]

def windowAbilities : List Field := [
  .optional "workDoneProgress" .bool,
  ability "showMessage" [ability "messageActionItem" (flags ["additionalPropertiesSupport"])],
  ability "showDocument" [.required "support" .bool]]

def generalAbilities : List Field := [
  ability "regularExpressions" [.required "engine" .string, .optional "version" .string],
  ability "markdown" [
    .required "parser" .string, .optional "version" .string,
    .optional "allowedTags" (.list .string)],
  ability "staleRequestSupport" [
    .required "cancel" .bool, .required "retryOnContentModified" (.list .string)],
  .optional "positionEncodings" (.list .string)]

/-- All that an editor says about itself. -/
def clientCapabilities : Shape := .record true [
  ability "workspace" workspaceAbilities,
  ability "textDocument" documentAbilities,
  ability "window" windowAbilities,
  ability "general" generalAbilities,
  .optional "experimental" .any]

end CelWatch.Lsp.Shape
